import ApiManual.Draft
import ApiManual.Template

/-! Drafts with their placeholders replaced. -/
namespace ApiManual.Draft

inductive Slot where
  | id
  | title
  | version
  | basePath
  | documentationTitle
  | documentation
  | path (method : HttpMethod) (origin : String)
  deriving DecidableEq, Repr

def Slot.description : Slot → String
  | id => "id"
  | title => "title"
  | version => "version"
  | basePath => "base path"
  | documentationTitle => "documentation title"
  | documentation => "documentation"
  | path method origin => "path of " ++ method.name ++ " in " ++ origin

/-- A placeholder has no value. The grouping is named as it was before its id was filled in. -/
structure Unresolved where
  placeholder : String
  slot : Slot
  grouping : String
  deriving DecidableEq, Repr

def fill (values : TemplateValues) (draft : Draft) : Except Unresolved Draft := do
  let text := fun (slot : Slot) (template : String) =>
    (values.substitute template).mapError fun placeholder =>
      ({ placeholder, slot, grouping := draft.label } : Unresolved)
  return { draft with
    id := ← draft.id.mapM (text .id)
    title := ← draft.title.mapM (text .title)
    version := ← draft.version.mapM (text .version)
    basePath := ← draft.basePath.mapM (text .basePath)
    documentation := ← draft.documentation.mapM fun item => do
      let title ← text .documentationTitle item.title
      return { title, content := ← text .documentation item.content }
    endpoints := ← draft.endpoints.mapM fun sourced => do
      let slot := Slot.path sourced.endpoint.method sourced.origin
      let paths ← sourced.endpoint.paths.mapM (text slot)
      return { sourced with endpoint := { sourced.endpoint with paths } } }

end ApiManual.Draft
