/-!
JSON values. The type of their strings is a parameter: a value that is written holds `String`s, a
value that was read holds `Option String`s, since an escape may spell half of a surrogate pair,
which is no text.
-/
namespace ApiManual

inductive Json (σ : Type) where
  | null
  | bool (value : Bool)
  | number (literal : String)
  | string (value : σ)
  | array (items : List (Json σ))
  | object (members : List (σ × Json σ))
  deriving Inhabited

namespace Json

/-- A JSON value all of whose strings are text. -/
abbrev Value := Json String

/-- A JSON value as it was spelled; `none` stands for a string that is no text. -/
abbrev Spelled := Json (Option String)

def nat {σ : Type} (n : Nat) : Json σ := .number (toString n)

def strings (values : List String) : Value := .array (values.map .string)

mutual

def depth {σ : Type} : Json σ → Nat
  | .array items => depthItems items + 1
  | .object members => depthMembers members + 1
  | _ => 0

def depthItems {σ : Type} : List (Json σ) → Nat
  | [] => 0
  | item :: rest => max (depth item) (depthItems rest)

def depthMembers {σ : Type} : List (σ × Json σ) → Nat
  | [] => 0
  | (_, value) :: rest => max (depth value) (depthMembers rest)

end

end Json

end ApiManual
