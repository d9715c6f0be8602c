import ApiManual.Distinct
import ApiManual.Filled
import ApiManual.Fragment

/-!
An interface in the making: what the groupings with one id say together. The first text that is not
empty counts, lists are put one after the other, and nothing is documented twice.
-/
namespace ApiManual

structure SourcedEndpoint where
  origin : String
  endpoint : Endpoint
  deriving DecidableEq, Repr, Inhabited

structure Draft where
  id : Option String := none
  title : Option String := none
  version : Option String := none
  basePath : Option String := none
  documentation : List DocumentationItem := []
  endpoints : List SourcedEndpoint := []
  origins : List String := []
  deriving DecidableEq, Repr, Inhabited

namespace Draft

def label (draft : Draft) : String := interfaceLabel draft.id

def ofGrouping (origin : String) (grouping : Grouping) : Draft where
  id := grouping.id
  title := filled? grouping.title
  version := filled? grouping.version
  basePath := filled? grouping.basePath
  documentation := distinct grouping.documentation
  endpoints := grouping.endpoints.map (⟨origin, ·⟩)
  origins := [origin]

/-- What a draft and a later one say together. -/
def absorb (draft later : Draft) : Draft where
  id := draft.id
  title := filled? draft.title <|> filled? later.title
  version := filled? draft.version <|> filled? later.version
  basePath := filled? draft.basePath <|> filled? later.basePath
  documentation := addNew draft.documentation later.documentation
  endpoints := draft.endpoints ++ later.endpoints
  origins := addNew draft.origins later.origins

/-- Adds a draft to those gathered so far: to the one with its id, or at the end. -/
def place (draft : Draft) : List Draft → List Draft
  | [] => [draft]
  | first :: rest =>
    if first.id = draft.id then first.absorb draft :: rest else first :: place draft rest

/-- One draft for each id, in the order in which the ids first occur. -/
def gather (drafts : List Draft) : List Draft :=
  drafts.foldl (fun gathered draft => place draft gathered) []

/-- The drafts of a list of fragments. The default interface needs an endpoint to be one. -/
def ofFragments (fragments : List Fragment) : List Draft :=
  let said := fragments.flatMap fun fragment => fragment.groupings.map (ofGrouping fragment.label)
  (gather said).filter fun draft => draft.id.isSome || !draft.endpoints.isEmpty

end Draft

end ApiManual
