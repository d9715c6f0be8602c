/-!
Texts with placeholders. A placeholder is a dollar sign and a name in braces; a dollar sign in front
of it makes it literal. Values are inserted as they are and not searched again.
-/
namespace ApiManual

/-- The values of placeholders. A name has one value. -/
structure TemplateValues where
  entries : List (String × String) := []
  deriving DecidableEq, Repr

namespace TemplateValues

def get? (values : TemplateValues) (name : String) : Option String := values.entries.lookup name

def insert (values : TemplateValues) (name value : String) : TemplateValues :=
  ⟨values.entries.filter (·.1 ≠ name) ++ [(name, value)]⟩

/-- Of the entries with one name the last one counts. -/
def ofList (entries : List (String × String)) : TemplateValues :=
  entries.foldl (fun values (name, value) => values.insert name value) {}

def size (values : TemplateValues) : Nat := values.entries.length

@[simp] theorem get?_empty (name : String) : ({} : TemplateValues).get? name = none := rfl

end TemplateValues

namespace Template

/-- Where a scan from left to right stands: in plain text, in a literal placeholder, or in the name
of a placeholder, of which `pending` was read, last character first. -/
inductive Scan where
  | plain
  | literal
  | name (pending : List Char)

/-- The text with its placeholders replaced, from a place of the scan on; or the first name that has
no value or no closing brace. -/
def fill (values : TemplateValues) : Scan → List Char → Except String (List Char)
  | .plain, [] => .ok []
  | .literal, [] => .ok []
  | .name pending, [] => .error (String.ofList pending.reverse)
  | .plain, '$' :: '$' :: '{' :: rest => (['$', '{'] ++ ·) <$> fill values .literal rest
  | .plain, '$' :: '{' :: rest => fill values (.name []) rest
  | .plain, c :: rest => (c :: ·) <$> fill values .plain rest
  | .literal, c :: rest =>
    (c :: ·) <$> fill values (if c = '}' then .plain else .literal) rest
  | .name pending, c :: rest =>
    if c = '}' then
      let name := String.ofList pending.reverse
      match values.get? name with
      | some value => (value.toList ++ ·) <$> fill values .plain rest
      | none => .error name
    else fill values (.name (c :: pending)) rest

end Template

/-- The text with its placeholders replaced, or the first placeholder that cannot be. -/
def TemplateValues.substitute (values : TemplateValues) (text : String) : Except String String :=
  String.ofList <$> Template.fill values .plain text.toList

end ApiManual
