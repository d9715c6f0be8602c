import ApiManual.Html.Template
import ApiManual.Raml
import ApiManual.View.Codec
import ApiManual.Yaml.Printer

/-! Renderers, and the registry that finds one by the name of its format. -/
namespace ApiManual

structure RenderError where
  detail : String
  deriving DecidableEq, Repr

def RenderError.message (error : RenderError) : String := "serialization failed: " ++ error.detail

structure Renderer where
  format : String
  /-- The extension of the files, without the full stop. -/
  extension : String := format
  render : ApiView → Except RenderError String

namespace Renderer

def html : Renderer where
  format := "html"
  render view := .ok (Html.pageHtml view)

def raml : Renderer where
  format := "raml"
  render view :=
    .ok (String.ofList ("#%RAML 0.8\n".toList ++ Yaml.documentText (Raml.document view)))

def json : Renderer where
  format := "json"
  render view := .ok (Json.prettyText view.toJson ++ "\n")

end Renderer

structure RendererRegistry where
  renderers : List Renderer := []

namespace RendererRegistry

/-- Adds a renderer at the end, in place of any whose format has the same spelling. -/
def register (registry : RendererRegistry) (renderer : Renderer) : RendererRegistry :=
  ⟨registry.renderers.filter (·.format ≠ renderer.format) ++ [renderer]⟩

def builtin : RendererRegistry := ⟨[Renderer.html, Renderer.raml, Renderer.json]⟩

/-- The first renderer whose format has this name, upper and lower case of ASCII letters alike. -/
def get? (registry : RendererRegistry) (format : String) : Option Renderer :=
  registry.renderers.find? (·.format.toLower = format.toLower)

def formats (registry : RendererRegistry) : List String := registry.renderers.map (·.format)

end RendererRegistry

end ApiManual
