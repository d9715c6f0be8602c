import ApiManual.Endpoint

/-! What one source unit says about the interfaces it takes part in. -/
namespace ApiManual

structure DocumentationItem where
  title : String
  content : String
  deriving DecidableEq, Repr, Inhabited

/-- The endpoints of one interface and what is said about it. Without an id it is the default one.
-/
structure Grouping where
  id : Option String := none
  title : Option String := none
  version : Option String := none
  basePath : Option String := none
  documentation : List DocumentationItem := []
  endpoints : List Endpoint := []
  deriving DecidableEq, Repr, Inhabited

def interfaceLabel (id : Option String) : String := id.getD "<default>"

namespace Grouping

def isDefault (grouping : Grouping) : Bool := grouping.id.isNone

end Grouping

structure Fragment where
  origin : Option String := none
  groupings : List Grouping := [{}]
  deriving DecidableEq, Repr, Inhabited

namespace Fragment

def label (fragment : Fragment) : String := fragment.origin.getD "<unknown>"

def endpointCount (fragment : Fragment) : Nat :=
  (fragment.groupings.flatMap (·.endpoints)).length

/-- Adds an endpoint to the first default grouping of a list, which gets one at its end if it has
none. -/
def addToDefault (endpoint : Endpoint) : List Grouping → List Grouping
  | [] => [{ endpoints := [endpoint] }]
  | grouping :: rest =>
    if grouping.isDefault then
      { grouping with endpoints := grouping.endpoints ++ [endpoint] } :: rest
    else grouping :: addToDefault endpoint rest

def addEndpoint (fragment : Fragment) (endpoint : Endpoint) : Fragment :=
  { fragment with groupings := addToDefault endpoint fragment.groupings }

def addGrouping (fragment : Fragment) (grouping : Grouping) : Fragment :=
  { fragment with groupings := fragment.groupings ++ [grouping] }

/-- Supplies what a fragment written by hand may leave out: its origin, a grouping, and the scopes
of its endpoints. -/
def completed (fragment : Fragment) (origin : String) : Fragment where
  origin := some (fragment.origin.getD origin)
  groupings :=
    let groupings := fragment.groupings.map fun grouping =>
      { grouping with
        endpoints := grouping.endpoints.map fun endpoint =>
          if endpoint.scopes.isEmpty then { endpoint with scopes := [Scope.published] }
          else endpoint }
    if groupings.isEmpty then [{}] else groupings

end Fragment

end ApiManual
