import ApiManual.Json.Basic

/-!
Records with a fixed list of member names. A record is written as an object, or as an array of its
members in the order of the names, where the last ones may be left out. An object may hold further
members, which are passed over, but no member of the list twice.
-/
namespace ApiManual.Json

def record? {σ : Type} (textOf : σ → Option String) (names : List String) :
    Json σ → Option (List (String × Json σ))
  | .array items => if items.length ≤ names.length then some (names.zip items) else none
  | .object members => do
    let named ← members.mapM fun (name, value) => do return (← textOf name, value)
    let known := named.filter fun (name, _) => names.contains name
    if (known.map (·.1)).Nodup then some known else none
  | _ => none

def spelledRecord? (names : List String) (spelled : Spelled) : Option (List (String × Spelled)) :=
  record? id names spelled

def required? {σ α : Type} (members : List (String × Json σ)) (name : String)
    (read : Json σ → Option α) : Option α :=
  members.lookup name >>= read

/-- A member that stands for `default` when it is left out. -/
def defaulted? {σ α : Type} (members : List (String × Json σ)) (name : String) (default : α)
    (read : Json σ → Option α) : Option α :=
  match members.lookup name with
  | none => some default
  | some value => read value

/-- A member that may be left out or `null`. -/
def optional? {σ α : Type} (members : List (String × Json σ)) (name : String)
    (read : Json σ → Option α) : Option (Option α) :=
  match members.lookup name with
  | none => some none
  | some .null => some none
  | some value => (read value).map some

def text? : Spelled → Option String
  | .string text => text
  | _ => none

def bool? {σ : Type} : Json σ → Option Bool
  | .bool b => some b
  | _ => none

def list? {σ α : Type} (read : Json σ → Option α) : Json σ → Option (List α)
  | .array items => items.mapM read
  | _ => none

end ApiManual.Json
