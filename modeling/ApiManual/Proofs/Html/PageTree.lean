import ApiManual.Html.Template
import ApiManual.Proofs.Html.Tree

/-! The page that documents an interface, as a tree. -/
namespace ApiManual

namespace TypeNode

def primitiveMarkup (name : String) : Html :=
  Html.classed "span" "json-primitive-type" [Html.text name]

mutual

def markup : TypeNode → List Html
  | primitive name => [primitiveMarkup name]
  | object name fields =>
    [Html.classed "div" "json-object" [
      Html.classed "span" "json-object-type" [Html.text name],
      Html.text " \x7b",
      Html.element "ul" [] (fieldsMarkup fields),
      Html.text "\x7d"]]
  | container kind element =>
    [Html.classed "span" "json-container-type" [Html.text kind.phrase], Html.text " "] ++
      element.markup
  | enumeration name literals =>
    [Html.element "span" [("class", "json-enum-type"), ("title", name)]
      [Html.text (" | ".intercalate literals)]]
  | reference target _ =>
    [Html.element "span" [("class", "json-recursive-type"), ("title", "recursive reference")]
      [Html.entity "#x21ba", Html.text (" " ++ target)]]

def fieldsMarkup : List (String × TypeNode) → List Html
  | [] => []
  | (name, type) :: rest =>
    Html.element "li" []
      (Html.classed "span" "json-field-name" [Html.text name] :: Html.text ": " :: type.markup) ::
      fieldsMarkup rest

end

def markupOr (type : Option TypeNode) : List Html :=
  (type.map markup).getD [primitiveMarkup "string"]

end TypeNode

namespace Html

structure Row where
  name : String
  type : Option TypeNode
  description : Option String
  allowedValues : Option (List String)
  required : Bool

def Row.ofUriParameter (parameter : UriParameter) : Row :=
  ⟨parameter.name, parameter.type, parameter.description, parameter.allowedValues, true⟩

def Row.ofParameter (parameter : Parameter) : Row :=
  ⟨parameter.name, parameter.type, parameter.description, parameter.allowedValues,
    parameter.required⟩

def line : Html := text "\n"

@[simp] theorem print_line : line.print = ['\n'] := by decide

def unlessEmpty (content : String) (make : String → List Html) : List Html :=
  if content.isEmpty then [] else make content

def unlessAbsent (content : Option String) (make : String → List Html) : List Html :=
  unlessEmpty (content.getD "") make

def row (parameter : Row) : List Html := [
  element "tr" [] [
    classed "td" "param-name"
      (text parameter.name ::
        if parameter.required then [] else [text " ", element "em" [] [text "(optional)"]]),
    element "td" [] (TypeNode.markupOr parameter.type),
    element "td" []
      (unlessAbsent parameter.description (fun description => [text description]) ++
        unlessEmpty (", ".intercalate (parameter.allowedValues.getD [])) fun values =>
          [text " ", classed "span" "allowed" [text ("One of: " ++ values)]])],
  line]

def table (title : String) (rows : List Row) : List Html :=
  if rows.isEmpty then []
  else [
    line, element "h4" [] [text title], line,
    classed "table" "params"
      (line :: element "tr" []
        [element "th" [] [text "Name"], element "th" [] [text "Type"],
          element "th" [] [text "Description"]] ::
        line :: rows.flatMap row),
    line]

def body (title : String) (type : TypeNode) : List Html :=
  [line, element "h4" [] [text title], line, classed "div" "body" type.markup, line]

def response (returnDoc : Option String) (type : Option TypeNode) : List Html :=
  if type.isNone && (returnDoc.getD "").isEmpty then []
  else
    [line, element "h4" [] [text "Response"], line] ++
    unlessAbsent returnDoc (fun doc => [classed "p" "return-doc" [text doc]]) ++ [line] ++
    (type.elim [] fun type => [classed "div" "body" type.markup]) ++ [line]

def methodFront (path : String) (method : ResourceMethod) : List Html :=
  let endpoint := method.endpoint
  [line, element "h3" [] <|
    [element "a" [("id", anchor path endpoint.method)] [],
      classed "span" "http-method" [text endpoint.method.name], text path] ++
    method.traits.map (fun tag => classed "span" "trait" [text tag.name]),
    line] ++
  unlessEmpty endpoint.operation (fun operation =>
    [classed "p" "operation" [element "code" [] [text operation]]]) ++ [line] ++
  unlessAbsent endpoint.doc (fun doc => [classed "div" "doc" [text doc]]) ++ [line] ++
  unlessEmpty ((endpoint.security.map requirement).getD "") (fun requirement =>
    [classed "p" "security" [text ("Requires " ++ requirement)]]) ++ [line]

def methodBack (method : ResourceMethod) : List Html :=
  let endpoint := method.endpoint
  line :: table "Query parameters" (endpoint.queryParameters.map Row.ofParameter) ++ [line] ++
  (endpoint.request.elim [] (body "Request body")) ++ [line] ++
  response endpoint.returnDoc endpoint.response ++ [line]

def method (path : String) (parameters : List UriParameter) (method : ResourceMethod) :
    List Html :=
  [line, classed "div" "method" <|
    methodFront path method ++
      (table "URI parameters" (parameters.map Row.ofUriParameter) ++ methodBack method),
    line]

def resource (entry : Section) : List Html :=
  let path := entry.resource.path
  [line, classed "section" "resource" <|
    [line, element "h2" [] [element "a" [("id", path)] [], text path], line] ++
    entry.resource.methods.flatMap (method path entry.parameters) ++ [line],
    line]

def documentation (item : DocumentationItem) : List Html := [
  line,
  classed "section" "api-documentation" [
    line, element "h2" [] [text item.title], line,
    element "div" [] [text item.content], line],
  line]

def traits (tags : List StabilityTrait) : List Html :=
  if tags.isEmpty then []
  else [
    line,
    classed "section" "api-traits" [
      line, element "h2" [] [text "Stability"], line,
      element "dl" [] (line :: tags.flatMap fun tag =>
        [classed "dt" "trait" [text tag.name], element "dd" [] [text tag.description], line]),
      line],
    line]

def index (entries : List Section) : Html :=
  classed "nav" "api-index" [
    line,
    element "ul" [] (line :: entries.flatMap fun entry =>
      let path := entry.resource.path
      [element "li" [] [element "a" [("href", "#" ++ path)] [text path]], line]),
    line]

def head (view : ApiView) : Html :=
  element "head" [] [
    line, void "meta" [("charset", "utf-8")], line,
    element "title" []
      (text view.title :: unlessAbsent view.version fun version => [text (" " ++ version)]),
    line, element "style" [] [text style], line]

def page (view : ApiView) : List Html :=
  let entries := sections view
  [line, element "html" [("lang", "en")] [
    line, head view, line,
    element "body" [] <|
      [line, element "h1" [] [text view.title], line] ++
      unlessAbsent view.version (fun version =>
        [classed "p" "api-version" [text ("Version " ++ version)]]) ++ [line] ++
      unlessAbsent view.basePath (fun path =>
        [classed "p" "api-base" [text "Base path ", element "code" [] [text path]]]) ++ [line] ++
      view.documentation.flatMap documentation ++ [line] ++
      traits view.traits ++ [line] ++
      [index entries, line] ++
      entries.flatMap resource ++ [line],
    line],
  line]

end Html

end ApiManual
