import ApiManual.Json.Basic

/-! Objects whose members are in the order of their names, with one value for each name. -/
namespace ApiManual.Json

/-- Puts a member in its place, in place of any with its name. -/
def putSorted {α : Type} (name : String) (value : α) : List (String × α) → List (String × α)
  | [] => [(name, value)]
  | (other, old) :: rest =>
    if name = other then (name, value) :: rest
    else if name < other then (name, value) :: (other, old) :: rest
    else (other, old) :: putSorted name value rest

/-- Of members with one name the last one counts. -/
def sorted {α : Type} (members : List (String × α)) : List (String × α) :=
  members.foldl (fun done (name, value) => putSorted name value done) []

def sortedObject (members : List (String × Value)) : Value := .object (sorted members)

end ApiManual.Json
