import ApiManual.Draft.Filling
import ApiManual.Draft.Selection
import ApiManual.View.Resolution

/-! Fragments in, one view for each interface out, or the first thing that is wrong with them. -/
namespace ApiManual

structure MergeOptions where
  excluded : String → Bool := fun _ => false
  scope : Scope := Scope.all
  templates : TemplateValues := {}

inductive MergeError where
  | unresolved (cause : Draft.Unresolved)
  | resolution (cause : ResolutionError)
  deriving DecidableEq, Repr

namespace MergeError

def ambiguityMessage : Ambiguity → String
  | .declaredAbove position owner =>
    "already declared at segment " ++ toString position ++ " by " ++ owner
  | .repeated => "appears more than once"
  | .allowedValues stated earlier =>
    "allowed values [" ++ ", ".intercalate stated ++ "] conflict with [" ++
      ", ".intercalate earlier ++ "]"

def message : MergeError → String
  | unresolved ⟨placeholder, slot, grouping⟩ =>
    "unresolved placeholder $\x7b" ++ placeholder ++ "\x7d in " ++ slot.description ++
      " of grouping " ++ grouping
  | resolution (.ambiguousParameter name path grouping reason) =>
    "URI parameter " ++ name ++ " is declared inconsistently in " ++ path ++ " of grouping " ++
      grouping ++ ": " ++ ambiguityMessage reason
  | resolution (.duplicateOperation method path grouping first second) =>
    method.name ++ " " ++ path ++ " is documented twice in grouping " ++ grouping ++ " (" ++
      first ++ " and " ++ second ++ ")"

end MergeError

/-- The drafts of fragments, filled in, gathered by the ids that they then have, and cut down to
what is documented. -/
def selectedDrafts (fragments : List Fragment) (options : MergeOptions) :
    Except MergeError (List Draft) := do
  let drafts ← ((Draft.ofFragments fragments).mapM (Draft.fill options.templates)).mapError
    MergeError.unresolved
  return (Draft.gather drafts).map fun draft =>
    (draft.withoutExcluded options.excluded).withinScope options.scope

def merge (fragments : List Fragment) (options : MergeOptions) :
    Except MergeError (List ApiView) := do
  let drafts ← selectedDrafts fragments options
  (drafts.mapM Draft.resolve).mapError MergeError.resolution

end ApiManual
