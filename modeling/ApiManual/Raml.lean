import ApiManual.Filled
import ApiManual.Json.Printer
import ApiManual.Schema
import ApiManual.View
import ApiManual.Yaml

/-! The RAML 0.8 document of an interface. Resources nest in it as they do in the view. -/
namespace ApiManual.Raml

open Yaml (Key texts)

def entry (name : String) (value : Yaml) : Key × Yaml := (.text name, value)

def textEntry (name value : String) : Key × Yaml := entry name (.text value)

def entryIf? (name : String) (value : Option Yaml) : List (Key × Yaml) :=
  (value.map (entry name)).toList

def unlessEmpty? {α : Type} (items : List α) (make : List α → Yaml) : Option Yaml :=
  if items.isEmpty then none else some (make items)

def schemeType (scheme : String) : String :=
  if scheme = Security.oauth2Scheme then "OAuth 2.0"
  else if scheme = "oauth_1_0" then "OAuth 1.0"
  else if scheme = "basic" then "Basic Authentication"
  else if scheme = "digest" then "Digest Authentication"
  else "x-" ++ scheme

/-- The type of a parameter. What is no known primitive is a string. -/
def parameterType : Option TypeNode → String
  | some (.primitive name) =>
    let name := name.toLower
    if ["int", "integer", "long", "short", "byte", "biginteger"].contains name then "integer"
    else if ["float", "double", "number", "decimal", "bigdecimal"].contains name then "number"
    else if ["boolean", "bool"].contains name then "boolean"
    else if ["date", "datetime", "date-time", "timestamp", "instant"].contains name then "date"
    else "string"
  | _ => "string"

def uriParameter (parameter : UriParameter) : Yaml := .ofEntries <|
  textEntry "type" (parameterType parameter.type) ::
    entryIf? "description" (parameter.description.map .text) ++
    entryIf? "enum" (parameter.allowedValues.map texts)

def queryParameter (parameter : Parameter) : Yaml := .ofEntries <|
  textEntry "type" (parameterType parameter.type) ::
    entryIf? "description" (parameter.description.map .text) ++
    entryIf? "enum" ((listed? parameter.allowedValues).map texts) ++
    [entry "required" (.bool parameter.required)]

def requirement (security : Security) : Yaml :=
  .sequence [
    if security.parameters.isEmpty then .text security.scheme
    else .ofEntries [entry security.scheme <| .ofEntries <|
      security.parameters.map fun (name, values) => entry name (texts values)]]

def body (type : TypeNode) : Yaml :=
  .ofEntries [entry "application/json" <|
    .ofEntries [textEntry "schema" (Json.prettyText (Schema.ofType type))]]

def responses? (endpoint : Endpoint) : Option Yaml :=
  let doc := filled? endpoint.returnDoc
  if endpoint.response.isNone && doc.isNone then none
  else some <| .ofEntries [(.number 200, .ofEntries <|
    entryIf? "description" (doc.map .text) ++ entryIf? "body" (endpoint.response.map body))]

def method (method : ResourceMethod) : Yaml :=
  let endpoint := method.endpoint
  .ofEntries <|
    entryIf? "description"
      ((filled? endpoint.doc <|> filled? (some endpoint.operation)).map .text) ++
    entryIf? "is" (unlessEmpty? (method.traits.map (·.name)) texts) ++
    entryIf? "securedBy" (endpoint.security.map requirement) ++
    entryIf? "queryParameters" (unlessEmpty? endpoint.queryParameters fun parameters =>
      .ofEntries <| parameters.map fun parameter =>
        entry parameter.name (queryParameter parameter)) ++
    entryIf? "body" (endpoint.request.map body) ++
    entryIf? "responses" (responses? endpoint)

def parameterEntries (parameters : List UriParameter) : List (Key × Yaml) :=
  parameters.map fun parameter => entry parameter.name (uriParameter parameter)

def methodEntries (methods : List ResourceMethod) : List (Key × Yaml) :=
  methods.map fun m => entry m.endpoint.method.key (method m)

/-- What is put into the mapping of a resource before the resources below it. -/
def resourceFront (uriParameters : List UriParameter) (methods : List ResourceMethod) :
    List (Key × Yaml) :=
  entryIf? "uriParameters"
    (unlessEmpty? uriParameters fun parameters => .ofEntries (parameterEntries parameters)) ++
  methodEntries methods

mutual

def resourceEntries : Resource → List (Key × Yaml)
  | ⟨_, _, uriParameters, methods, children⟩ =>
    resourceFront uriParameters methods ++ resources children

def resources : List Resource → List (Key × Yaml)
  | [] => []
  | ⟨path, relativePath, uriParameters, methods, children⟩ :: rest =>
    entry relativePath
        (.ofEntries (resourceEntries ⟨path, relativePath, uriParameters, methods, children⟩)) ::
      resources rest

end

def documentation (item : DocumentationItem) : Yaml :=
  .ofEntries [textEntry "title" item.title, textEntry "content" item.content]

def securityScheme (scheme : SecurityScheme) : Yaml :=
  .ofEntries [entry scheme.name <| .ofEntries <|
    textEntry "type" (schemeType scheme.name) ::
      entryIf? "settings" (unlessEmpty? scheme.scopes fun scopes =>
        .ofEntries [entry "scopes" (texts scopes)])]

def stabilityTrait (tag : StabilityTrait) : Yaml :=
  .ofEntries [entry tag.name (.ofEntries [textEntry "description" tag.description])]

def documentFront (view : ApiView) : List (Key × Yaml) :=
  textEntry "title" view.title ::
    entryIf? "version" (view.version.map .text) ++
    entryIf? "baseUri" (view.basePath.map .text) ++
    entryIf? "documentation"
      (unlessEmpty? view.documentation fun items => .sequence (items.map documentation)) ++
    entryIf? "securitySchemes"
      (unlessEmpty? view.securitySchemes fun schemes => .sequence (schemes.map securityScheme)) ++
    entryIf? "traits" (unlessEmpty? view.traits fun tags => .sequence (tags.map stabilityTrait))

def documentEntries (view : ApiView) : List (Key × Yaml) :=
  documentFront view ++ resources view.resources

def document (view : ApiView) : List (Key × Yaml) := Yaml.collect (documentEntries view)

end ApiManual.Raml
