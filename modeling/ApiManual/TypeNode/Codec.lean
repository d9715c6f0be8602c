import ApiManual.Json.Reader
import ApiManual.Json.Record
import ApiManual.TypeNode

/-!
Type nodes as JSON. A node is an object with a member `kind` and the members of that kind, or an
array that holds the kind and then the members. Every part of a node, also a member that is passed
over, has to be text and numbers in range, and a document nests at most 127 arrays and objects down
to its types.
-/
namespace ApiManual.TypeNode

open Json (Value Spelled)

mutual

def toJson : TypeNode → Value
  | primitive name => .object [("kind", .string "primitive"), ("name", .string name)]
  | object name fields =>
    .object [("kind", .string "object"), ("name", .string name),
      ("fields", .array (fieldsToJson fields))]
  | container kind element =>
    .object [("kind", .string "container"), ("container", .string kind.name),
      ("element", element.toJson)]
  | enumeration name literals =>
    .object [("kind", .string "enumeration"), ("name", .string name),
      ("literals", Json.strings literals)]
  | reference target path =>
    .object [("kind", .string "reference"), ("target", .string target),
      ("path", Json.strings path)]

def fieldsToJson : List (String × TypeNode) → List Value
  | [] => []
  | (name, type) :: rest =>
    .object [("name", .string name), ("type", type.toJson)] :: fieldsToJson rest

end

/-- The names of the kinds. Inside another node a kind may also be given by its place in this list.
-/
def kindNames : List String := ["primitive", "object", "container", "enumeration", "reference"]

def kindName? (inner : Bool) : Value → Option String
  | .string name => some name
  | .number literal =>
    if inner then
      (kindNames.zipIdx.find? fun (_, index) => toString index = literal).map (·.1)
    else none
  | _ => none

def tagged? : Value → Option (Value × Value)
  | .array (kind :: items) => some (kind, .array items)
  | .object members =>
    match members.filter (·.1 = "kind") with
    | [(_, kind)] => some (kind, .object (members.filter (·.1 ≠ "kind")))
    | _ => none
  | _ => none

def string? : Value → Option String
  | .string text => some text
  | _ => none

/-- A kind of container: its name, or an object whose one member has that name and is empty. -/
def containerKind? : Value → Option ContainerKind
  | .string name => ContainerKind.ofName? name
  | .object [(name, .null)] => ContainerKind.ofName? name
  | .object [(name, .object [])] => ContainerKind.ofName? name
  | _ => none

def ofValue? : Nat → Bool → Value → Option TypeNode
  | 0, _, _ => none
  | fuel + 1, inner, value => do
    let (tag, body) ← tagged? value
    let record := fun names => Json.record? some names body
    match ← kindName? inner tag with
    | "primitive" =>
      let members ← record ["name"]
      return primitive (← Json.required? members "name" string?)
    | "object" =>
      let members ← record ["name", "fields"]
      let name ← Json.required? members "name" string?
      let fields ← Json.required? members "fields" <| Json.list? fun field => do
        let members ← Json.record? some ["name", "type"] field
        let name ← Json.required? members "name" string?
        return (name, ← Json.required? members "type" (ofValue? fuel true))
      return object name fields
    | "container" =>
      let members ← record ["container", "element"]
      let kind ← Json.required? members "container" containerKind?
      return container kind (← Json.required? members "element" (ofValue? fuel true))
    | "enumeration" =>
      let members ← record ["name", "literals"]
      let name ← Json.required? members "name" string?
      return enumeration name (← Json.required? members "literals" (Json.list? string?))
    | "reference" =>
      let members ← record ["target", "path"]
      let target ← Json.required? members "target" string?
      return reference target (← Json.required? members "path" (Json.list? string?))
    | _ => none

/-- The most arrays and objects around a part of a type, counted from the whole document. -/
def depthLimit : Nat := 127

def ofSpelled? (enclosing : Nat) (spelled : Spelled) : Option TypeNode := do
  let value ← Json.clean? spelled
  if enclosing + value.depth ≤ depthLimit then ofValue? (value.depth + 1) false value else none

def ofText? (text : String) : Option TypeNode := Json.ofText? text >>= ofSpelled? 0

end ApiManual.TypeNode
