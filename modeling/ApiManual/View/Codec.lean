import ApiManual.Fragment.Codec
import ApiManual.View

/-! Views as JSON. -/
namespace ApiManual

open Json (Value)

def UriParameter.toJson (parameter : UriParameter) : Value := Json.present [
  ("name", some (.string parameter.name)),
  ("position", some (.nat parameter.position)),
  ("description", parameter.description.map .string),
  ("allowed_values", parameter.allowedValues.map Json.strings),
  ("type", parameter.type.map TypeNode.toJson)]

def ResourceMethod.toJson (method : ResourceMethod) : Value := .object [
  ("endpoint", method.endpoint.toJson),
  ("traits", Json.strings (method.traits.map (·.name))),
  ("origin", .string method.origin)]

namespace Resource

mutual

def toJson : Resource → Value
  | ⟨path, relativePath, uriParameters, methods, children⟩ => .object [
    ("path", .string path),
    ("relative_path", .string relativePath),
    ("uri_parameters", .array (uriParameters.map UriParameter.toJson)),
    ("methods", .array (methods.map ResourceMethod.toJson)),
    ("children", .array (listToJson children))]

def listToJson : List Resource → List Value
  | [] => []
  | resource :: rest => resource.toJson :: listToJson rest

end

end Resource

def SecurityScheme.toJson (scheme : SecurityScheme) : Value := .object [
  ("name", .string scheme.name),
  ("scopes", Json.strings scheme.scopes)]

def ApiView.toJson (view : ApiView) : Value := Json.present [
  ("id", some (view.id.elim .null .string)),
  ("title", some (.string view.title)),
  ("version", view.version.map .string),
  ("base_path", view.basePath.map .string),
  ("documentation", some (.array (view.documentation.map DocumentationItem.toJson))),
  ("resources", some (.array (Resource.listToJson view.resources))),
  ("traits", some (Json.strings (view.traits.map (·.name)))),
  ("security_schemes", some (.array (view.securitySchemes.map SecurityScheme.toJson))),
  ("origins", some (Json.strings view.origins))]

end ApiManual
