/-! Texts as they are written into a page. -/
namespace ApiManual.Html

def escape (c : Char) : List Char :=
  if c = '&' then "&amp;".toList
  else if c = '<' then "&lt;".toList
  else if c = '>' then "&gt;".toList
  else if c = '"' then "&quot;".toList
  else if c = '\'' then "&#x27;".toList
  else [c]

def escapeText (text : String) : List Char := text.toList.flatMap escape

/-- Slashes are kept, so that paths stay readable and can be used as anchors. -/
def escapeHtml (text : String) : String := String.ofList (escapeText text)

end ApiManual.Html
