import ApiManual.Json.Sorted
import ApiManual.TypeNode

/-!
The JSON Schema (draft 4) of a type. A reference becomes a pointer to the schema of the ancestor
that it stands for.
-/
namespace ApiManual.Schema

open Json (Value sortedObject)

def draft : String := "http://json-schema.org/draft-04/schema#"

/-- What a known primitive is, by its name in lower case. -/
def ofKnownPrimitive? (name : String) : Option (List (String × Value)) :=
  if ["string", "char", "character"].contains name then some [("type", .string "string")]
  else if ["int", "integer", "long", "short", "byte", "biginteger"].contains name then
    some [("type", .string "integer")]
  else if ["float", "double", "number", "decimal", "bigdecimal"].contains name then
    some [("type", .string "number")]
  else if ["boolean", "bool"].contains name then some [("type", .string "boolean")]
  else if name = "uuid" then some [("type", .string "string"), ("format", .string "uuid")]
  else if name = "date" then some [("type", .string "string"), ("format", .string "date")]
  else if ["datetime", "date-time", "timestamp", "instant"].contains name then
    some [("type", .string "string"), ("format", .string "date-time")]
  else if ["uri", "url"].contains name then
    some [("type", .string "string"), ("format", .string "uri")]
  else none

def ofPrimitive (name : String) : List (String × Value) :=
  (ofKnownPrimitive? name.toLower).getD [("type", .string "string"), ("title", .string name)]

def escapeLabel (label : String) : String :=
  String.ofList <| label.toList.flatMap fun c =>
    if c = '~' then ['~', '0'] else if c = '/' then ['~', '1'] else [c]

/-- The pointer to the schema at the end of a path of labels, below the schema of a node. A label
that leads to no field is passed over. -/
def pointerFrom : TypeNode → List String → String
  | _, [] => ""
  | .object name fields, label :: rest =>
    "/properties/" ++ escapeLabel label ++
      pointerFrom ((fields.lookup label).getD (.object name fields)) rest
  | .container kind element, label :: rest =>
    if label = TypeNode.elementLabel then
      (if kind.isKeyed then "/additionalProperties" else "/items") ++ pointerFrom element rest
    else ""
  | _, _ :: _ => ""

mutual

/-- The members of the schema of a node in the tree of `root`. -/
def members (root : TypeNode) : TypeNode → List (String × Value)
  | .primitive name => ofPrimitive name
  | .object name fields =>
    [("type", .string "object"), ("title", .string name),
      ("properties", sortedObject (properties root fields))]
  | .container kind element =>
    let schema := sortedObject (members root element)
    match kind with
    | .map => [("type", .string "object"), ("additionalProperties", schema)]
    | .set => [("type", .string "array"), ("items", schema), ("uniqueItems", .bool true)]
    | .array => [("type", .string "array"), ("items", schema)]
    | .list => [("type", .string "array"), ("items", schema)]
  | .enumeration name literals =>
    [("type", .string "string"), ("title", .string name), ("enum", Json.strings literals)]
  | .reference _ path => [("$ref", .string ("#" ++ pointerFrom root path))]

def properties (root : TypeNode) : List (String × TypeNode) → List (String × Value)
  | [] => []
  | (name, type) :: rest => (name, sortedObject (members root type)) :: properties root rest

end

def ofType (root : TypeNode) : Value :=
  sortedObject (members root root ++ [("$schema", .string draft)])

end ApiManual.Schema
