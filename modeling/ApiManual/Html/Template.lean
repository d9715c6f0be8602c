import ApiManual.Html.Page

/-!
The template of a page. Texts are written into it as they are. A branch is taken if its text is
there and not empty, or its list is not empty, and each leaves the end of its line behind.
-/
namespace ApiManual.Html

/-- Whether the condition of a branch holds for a text. -/
def truthy (text : Option String) : Bool := text.any (!·.isEmpty)

def whenText (text : Option String) (branch : String → String) : String :=
  if truthy text then branch (text.getD "") else ""

def whenItems {α : Type} (items : List α) (branch : String) : String :=
  if items.isEmpty then "" else branch

def forItems {α : Type} (items : List α) (body : α → String) : String :=
  String.join (items.map body)

def styleFront : String := "
body \x7b font-family: sans-serif; margin: 2em auto; max-width: 60em; color: #222; \x7d
code, .json-primitive-type, .json-field-name \x7b font-family: monospace; \x7d
.http-method \x7b font-weight: bold; text-transform: uppercase; margin-right: 0.5em; \x7d
.trait \x7b background: #fde9c8; border-radius: 3px; padding: 0 0.4em; margin-left: 0.4em; "

def styleMiddle : String := "font-size: 0.8em; \x7d
.json-object ul \x7b list-style: none; margin: 0; padding-left: 1.5em; \x7d
.json-primitive-type \x7b color: #0b6e4f; \x7d
.json-recursive-type \x7b color: #8a1c7c; \x7d
table.params \x7b border-collapse: collapse; \x7d
table.params td, table.params th \x7b border: 1px solid #ccc; "

def styleBack : String := "padding: 0.2em 0.6em; text-align: left; \x7d
"

def style : String := styleFront ++ styleMiddle ++ styleBack

def styleHtml : String := "<style>" ++ style ++ "</style>"

def optionalMark (required : Bool) : String := if required then "" else " <em>(optional)</em>"

namespace ParamRow

def html (row : ParamRow) (mark : String) : String :=
  "<tr><td class=\"param-name\">" ++ row.name ++ mark ++ "</td><td>" ++ row.type ++ "</td><td>" ++
    whenText row.description id ++
    whenText row.allowed (fun allowed =>
      " <span class=\"allowed\">One of: " ++ allowed ++ "</span>") ++
    "</td></tr>\n"

def uriHtml (row : ParamRow) : String := row.html ""

def queryHtml (row : ParamRow) : String := row.html (optionalMark row.required)

end ParamRow

def tableHtml (title : String) (rows : List ParamRow) (rowHtml : ParamRow → String) : String :=
  whenItems rows <|
    "\n<h4>" ++ title ++ "</h4>\n<table class=\"params\">\n" ++
      "<tr><th>Name</th><th>Type</th><th>Description</th></tr>\n" ++
      forItems rows rowHtml ++ "</table>\n"

def bodyHtml (title : String) (type : Option String) : String :=
  whenText type fun type =>
    "\n<h4>" ++ title ++ "</h4>\n<div class=\"body\">" ++ type ++ "</div>\n"

def responseHtml (returnDoc type : Option String) : String :=
  if truthy type || truthy returnDoc then
    "\n<h4>Response</h4>\n" ++
      whenText returnDoc (fun doc => "<p class=\"return-doc\">" ++ doc ++ "</p>") ++ "\n" ++
      whenText type (fun type => "<div class=\"body\">" ++ type ++ "</div>") ++ "\n"
  else ""

namespace MethodSection

def html (path : String) (method : MethodSection) : String :=
  "\n<div class=\"method\">\n<h3><a id=\"" ++ method.anchor ++
    "\"></a><span class=\"http-method\">" ++ method.method ++ "</span>" ++ path ++
    forItems method.traits (fun tag => "<span class=\"trait\">" ++ tag ++ "</span>") ++ "</h3>\n" ++
    whenText (some method.operation) (fun operation =>
      "<p class=\"operation\"><code>" ++ operation ++ "</code></p>") ++ "\n" ++
    whenText method.doc (fun doc => "<div class=\"doc\">" ++ doc ++ "</div>") ++ "\n" ++
    whenText method.security (fun security =>
      "<p class=\"security\">Requires " ++ security ++ "</p>") ++ "\n" ++
    tableHtml "URI parameters" method.uriParameters ParamRow.uriHtml ++ "\n" ++
    tableHtml "Query parameters" method.queryParameters ParamRow.queryHtml ++ "\n" ++
    bodyHtml "Request body" method.request ++ "\n" ++
    responseHtml method.returnDoc method.response ++ "\n</div>\n"

end MethodSection

def ResourceSection.html (resource : ResourceSection) : String :=
  "\n<section class=\"resource\">\n<h2><a id=\"" ++ resource.path ++ "\"></a>" ++ resource.path ++
    "</h2>\n" ++ forItems resource.methods (·.html resource.path) ++ "\n</section>\n"

def DocSection.html (item : DocSection) : String :=
  "\n<section class=\"api-documentation\">\n<h2>" ++ item.title ++ "</h2>\n<div>" ++ item.content ++
    "</div>\n</section>\n"

def traitsHtml (tags : List TraitRow) : String :=
  whenItems tags <|
    "\n<section class=\"api-traits\">\n<h2>Stability</h2>\n<dl>\n" ++
      forItems tags (fun tag =>
        "<dt class=\"trait\">" ++ tag.name ++ "</dt><dd>" ++ tag.description ++ "</dd>\n") ++
      "</dl>\n</section>\n"

def indexHtml (resources : List ResourceSection) : String :=
  "<nav class=\"api-index\">\n<ul>\n" ++
    forItems resources (fun resource =>
      "<li><a href=\"#" ++ resource.path ++ "\">" ++ resource.path ++ "</a></li>\n") ++
    "</ul>\n</nav>\n"

namespace Page

def headHtml (page : Page) : String :=
  "<head>\n<meta charset=\"utf-8\">\n<title>" ++ page.title ++
    whenText page.version (" " ++ ·) ++ "</title>\n" ++ styleHtml ++ "\n</head>"

def html (page : Page) : String :=
  "<!DOCTYPE html>\n<html lang=\"en\">\n" ++ page.headHtml ++ "\n<body>\n<h1>" ++ page.title ++
    "</h1>\n" ++
    whenText page.version (fun version =>
      "<p class=\"api-version\">Version " ++ version ++ "</p>") ++ "\n" ++
    whenText page.basePath (fun path =>
      "<p class=\"api-base\">Base path <code>" ++ path ++ "</code></p>") ++ "\n" ++
    forItems page.documentation DocSection.html ++ "\n" ++
    traitsHtml page.traits ++ "\n" ++
    indexHtml page.resources ++
    forItems page.resources ResourceSection.html ++ "\n</body>\n</html>\n"

end Page

def pageHtml (view : ApiView) : String := (Page.of view).html

end ApiManual.Html
