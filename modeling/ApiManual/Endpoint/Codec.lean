import ApiManual.Endpoint
import ApiManual.TypeNode.Codec

/-! Endpoints and their parts as JSON. Optional members are left out when they are absent. -/
namespace ApiManual

open Json (Value Spelled)

def Json.present (members : List (String × Option Value)) : Value :=
  .object <| members.filterMap fun (name, value) => value.map (name, ·)

/-- A value of an enumeration: its name, or an object whose one member has that name and is `null`.
-/
def Json.variantName? : Spelled → Option String
  | .string name => name
  | .object [(name, .null)] => name
  | _ => none

def HttpMethod.ofSpelled? (spelled : Spelled) : Option HttpMethod :=
  Json.variantName? spelled >>= HttpMethod.ofName?

namespace Parameter

def toJson (parameter : Parameter) : Value := Json.present [
  ("name", some (.string parameter.name)),
  ("type", parameter.type.map TypeNode.toJson),
  ("description", parameter.description.map .string),
  ("allowed_values", parameter.allowedValues.map Json.strings),
  ("required", some (.bool parameter.required))]

/-- Reads a parameter with so many arrays and objects of the document around it. -/
def ofSpelled? (enclosing : Nat) (spelled : Spelled) : Option Parameter := do
  let members ← Json.spelledRecord?
    ["name", "type", "description", "allowed_values", "required"] spelled
  return {
    name := ← Json.required? members "name" Json.text?
    type := ← Json.optional? members "type" (TypeNode.ofSpelled? (enclosing + 1))
    description := ← Json.optional? members "description" Json.text?
    allowedValues := ← Json.optional? members "allowed_values" (Json.list? Json.text?)
    required := ← Json.defaulted? members "required" true Json.bool? }

end Parameter

namespace Security

def toJson (security : Security) : Value := .object [
  ("scheme", .string security.scheme),
  ("parameters", .array <| security.parameters.map fun (name, values) =>
    .array [.string name, Json.strings values])]

def parameter? : Spelled → Option (String × List String)
  | .array [name, values] => do return (← Json.text? name, ← Json.list? Json.text? values)
  | _ => none

def ofSpelled? (spelled : Spelled) : Option Security := do
  let members ← Json.spelledRecord? ["scheme", "parameters"] spelled
  return {
    scheme := ← Json.required? members "scheme" Json.text?
    parameters := ← Json.defaulted? members "parameters" [] (Json.list? parameter?) }

end Security

namespace Endpoint

def toJson (endpoint : Endpoint) : Value := Json.present [
  ("method", some (.string endpoint.method.name)),
  ("operation", some (.string endpoint.operation)),
  ("paths", some (Json.strings endpoint.paths)),
  ("path_params", some (.array (endpoint.pathParameters.map Parameter.toJson))),
  ("query_params", some (.array (endpoint.queryParameters.map Parameter.toJson))),
  ("request", endpoint.request.map TypeNode.toJson),
  ("response", endpoint.response.map TypeNode.toJson),
  ("doc", endpoint.doc.map .string),
  ("return_doc", endpoint.returnDoc.map .string),
  ("scopes", some (Json.strings (endpoint.scopes.map (·.name)))),
  ("traits", some (Json.strings (endpoint.traits.map (·.name)))),
  ("security", endpoint.security.map Security.toJson)]

def memberNames : List String :=
  ["method", "operation", "paths", "path_params", "query_params", "request", "response", "doc",
    "return_doc", "scopes", "traits", "security"]

def ofSpelled? (enclosing : Nat) (spelled : Spelled) : Option Endpoint := do
  let members ← Json.spelledRecord? memberNames spelled
  let texts := Json.list? Json.text?
  let parameters := Json.list? (Parameter.ofSpelled? (enclosing + 2))
  let type := TypeNode.ofSpelled? (enclosing + 1)
  return {
    method := ← Json.required? members "method" HttpMethod.ofSpelled?
    operation := ← Json.defaulted? members "operation" "" Json.text?
    paths := ← Json.required? members "paths" texts
    pathParameters := ← Json.defaulted? members "path_params" [] parameters
    queryParameters := ← Json.defaulted? members "query_params" [] parameters
    request := ← Json.optional? members "request" type
    response := ← Json.optional? members "response" type
    doc := ← Json.optional? members "doc" Json.text?
    returnDoc := ← Json.optional? members "return_doc" Json.text?
    scopes := (← Json.defaulted? members "scopes" [Scope.published.name] texts).map Scope.mk
    traits := (← Json.defaulted? members "traits" [] texts).map StabilityTrait.mk
    security := ← Json.optional? members "security" Security.ofSpelled? }

end Endpoint

end ApiManual
