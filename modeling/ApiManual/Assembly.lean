import ApiManual.Merge
import ApiManual.Render

/-!
One artifact for each format and view. Nothing is rendered unless every format is known, the
fragments can be merged and no two artifacts have one name; a view that cannot be written down fails
alone.
-/
namespace ApiManual

structure Artifact where
  name : String
  format : String
  grouping : Option String
  outcome : Except RenderError String

inductive AssemblyError where
  | merge (cause : MergeError)
  | unknownFormat (format : String) (available : List String)
  | duplicateName (name first second : String)
  deriving DecidableEq, Repr

def AssemblyError.message : AssemblyError → String
  | merge cause => cause.message
  | unknownFormat format available =>
    "unknown output format " ++ format ++ " (available: " ++ ", ".intercalate available ++ ")"
  | duplicateName name first second =>
    "artifact name " ++ name ++ " is shared by groupings " ++ first ++ " and " ++ second

structure AssemblyRequest where
  baseName : String
  formats : List String
  options : MergeOptions

namespace Assembly

def isFileSafe (c : Char) : Bool := c.isAlphanum || c = '-' || c = '_' || c = '.'

/-- The id with all other characters than letters, digits and a few marks replaced. -/
def fileSafe (id : String) : String := id.map fun c => if isFileSafe c then c else '_'

def artifactName (baseName : String) (id : Option String) (extension : String) : String :=
  match id with
  | none => baseName ++ "." ++ extension
  | some id => baseName ++ "-" ++ fileSafe id ++ "." ++ extension

structure Naming where
  name : String
  label : String
  deriving DecidableEq, Repr

/-- Checks that no name is given twice. `earlier` holds the names given so far, the last one first.
-/
def checkDistinct : List Naming → List Naming → Except AssemblyError Unit
  | _, [] => .ok ()
  | earlier, naming :: rest =>
    match earlier.find? (·.name = naming.name) with
    | some first => .error (.duplicateName naming.name first.label naming.label)
    | none => checkDistinct (naming :: earlier) rest

def rendererFor (registry : RendererRegistry) (format : String) : Except AssemblyError Renderer :=
  match registry.get? format with
  | some renderer => .ok renderer
  | none => .error (.unknownFormat format registry.formats)

def fanOut (registry : RendererRegistry) (views : List ApiView) (format baseName : String) :
    Except AssemblyError (List Artifact) := do
  let renderer ← rendererFor registry format
  let name := fun (view : ApiView) => artifactName baseName view.id renderer.extension
  checkDistinct [] (views.map fun view => ⟨name view, view.label⟩)
  return views.map fun view => {
    name := name view
    format := renderer.format
    grouping := view.id
    outcome := renderer.render view }

def run (registry : RendererRegistry) (fragments : List Fragment) (request : AssemblyRequest) :
    Except AssemblyError (List Artifact) := do
  request.formats.forM fun format => discard (rendererFor registry format)
  let views ← (merge fragments request.options).mapError AssemblyError.merge
  let artifacts ← request.formats.mapM (fanOut registry views · request.baseName)
  let artifacts := artifacts.flatten
  checkDistinct [] (artifacts.map fun artifact => ⟨artifact.name, interfaceLabel artifact.grouping⟩)
  return artifacts

end Assembly

end ApiManual
