import ApiManual.Html.Escape
import ApiManual.TypeNode

/-! The markup of a type. -/
namespace ApiManual

namespace ContainerKind

/-- What comes before the type of the elements. -/
def phrase : ContainerKind → String
  | array => "array of"
  | list => "list of"
  | set => "set of"
  | map => "map of string to"

end ContainerKind

namespace Html

def primitiveHtml (name : String) : String :=
  "<span class=\"json-primitive-type\">" ++ escapeHtml name ++ "</span>"

mutual

/-- A reference shows the type that it leads back to, which is not written out again. -/
def typeHtml : TypeNode → String
  | .primitive name => primitiveHtml name
  | .object name fields =>
    "<div class=\"json-object\"><span class=\"json-object-type\">" ++ escapeHtml name ++
      "</span> \x7b<ul>" ++ fieldsHtml fields ++ "</ul>\x7d</div>"
  | .container kind item =>
    "<span class=\"json-container-type\">" ++ kind.phrase ++ "</span> " ++ typeHtml item
  | .enumeration name literals =>
    "<span class=\"json-enum-type\" title=\"" ++ escapeHtml name ++ "\">" ++
      escapeHtml (" | ".intercalate literals) ++ "</span>"
  | .reference target _ =>
    "<span class=\"json-recursive-type\" title=\"recursive reference\">&#x21ba; " ++
      escapeHtml target ++ "</span>"

def fieldsHtml : List (String × TypeNode) → String
  | [] => ""
  | (name, type) :: rest =>
    "<li><span class=\"json-field-name\">" ++ escapeHtml name ++ "</span>: " ++ typeHtml type ++
      "</li>" ++ fieldsHtml rest

end

/-- The markup of the type of a parameter, which is a string unless something else is said. -/
def typeHtmlOr (type : Option TypeNode) : String :=
  (type.map typeHtml).getD (primitiveHtml "string")

end Html

end ApiManual
