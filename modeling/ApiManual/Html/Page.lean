import ApiManual.Filled
import ApiManual.Html.TypeMarkup
import ApiManual.View

/-!
The texts that a page is filled with. The template writes them as they are, so each is escaped here.
A method lists the parameters of its whole path.
-/
namespace ApiManual.Html

/-- A resource, and the parameters that are declared for it from its root down to it. -/
structure Section where
  resource : Resource
  parameters : List UriParameter

/-- The children of a resource, each with what is declared above it. -/
def Section.below (entry : Section) : List (Resource × List UriParameter) :=
  entry.resource.children.map (·, entry.parameters)

def Section.of (waiting : Resource × List UriParameter) : Section :=
  ⟨waiting.1, waiting.2 ++ waiting.1.uriParameters⟩

/-- The sections of the resources that wait, each one followed by those of all that lie below it. -/
def visit : List (Resource × List UriParameter) → List Section
  | [] => []
  | first :: pending => Section.of first :: visit ((Section.of first).below ++ pending)
  termination_by pending => Resource.sizeAll (pending.map (·.1))
  decreasing_by
    simp [Section.below, Section.of, Function.comp_def, Resource.sizeAll_append, Resource.sizeAll,
      Resource.size_eq]

def sections (view : ApiView) : List Section := visit (view.resources.map (·, []))

structure ParamRow where
  name : String
  type : String
  description : Option String
  allowed : Option String
  required : Bool

structure MethodSection where
  anchor : String
  method : String
  operation : String
  doc : Option String
  returnDoc : Option String
  traits : List String
  security : Option String
  uriParameters : List ParamRow
  queryParameters : List ParamRow
  request : Option String
  response : Option String

structure ResourceSection where
  path : String
  methods : List MethodSection

structure DocSection where
  title : String
  content : String

structure TraitRow where
  name : String
  description : String

structure Page where
  title : String
  version : Option String
  basePath : Option String
  documentation : List DocSection
  traits : List TraitRow
  resources : List ResourceSection

def escapeOpt (text : Option String) : Option String := (filled? text).map escapeHtml

def allowedHtml (values : Option (List String)) : Option String :=
  (listed? values).map fun values => escapeHtml (", ".intercalate values)

def requirement (security : Security) : String :=
  if security.scopes.isEmpty then security.scheme
  else security.scheme ++ " (" ++ ", ".intercalate security.scopes ++ ")"

def anchor (path : String) (method : HttpMethod) : String := path ++ ":" ++ method.key

def ParamRow.ofUriParameter (parameter : UriParameter) : ParamRow where
  name := escapeHtml parameter.name
  type := typeHtmlOr parameter.type
  description := escapeOpt parameter.description
  allowed := allowedHtml parameter.allowedValues
  required := true

def ParamRow.ofParameter (parameter : Parameter) : ParamRow where
  name := escapeHtml parameter.name
  type := typeHtmlOr parameter.type
  description := escapeOpt parameter.description
  allowed := allowedHtml parameter.allowedValues
  required := parameter.required

def MethodSection.of (path : String) (parameters : List UriParameter) (method : ResourceMethod) :
    MethodSection :=
  let endpoint := method.endpoint
  { anchor := escapeHtml (Html.anchor path endpoint.method)
    method := endpoint.method.name
    operation := escapeHtml endpoint.operation
    doc := escapeOpt endpoint.doc
    returnDoc := escapeOpt endpoint.returnDoc
    traits := method.traits.map (escapeHtml ·.name)
    security := endpoint.security.map (escapeHtml <| requirement ·)
    uriParameters := parameters.map ParamRow.ofUriParameter
    queryParameters := endpoint.queryParameters.map ParamRow.ofParameter
    request := endpoint.request.map typeHtml
    response := endpoint.response.map typeHtml }

def ResourceSection.of (entry : Section) : ResourceSection where
  path := escapeHtml entry.resource.path
  methods := entry.resource.methods.map (.of entry.resource.path entry.parameters)

def DocSection.of (item : DocumentationItem) : DocSection :=
  ⟨escapeHtml item.title, escapeHtml item.content⟩

def TraitRow.of (tag : StabilityTrait) : TraitRow :=
  ⟨escapeHtml tag.name, escapeHtml tag.description⟩

def Page.of (view : ApiView) : Page where
  title := escapeHtml view.title
  version := escapeOpt view.version
  basePath := escapeOpt view.basePath
  documentation := view.documentation.map .of
  traits := view.traits.map .of
  resources := (sections view).map .of

end ApiManual.Html
