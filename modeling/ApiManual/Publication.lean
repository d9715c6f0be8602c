import ApiManual.FragmentStore.Discovery
import ApiManual.Settings

/-!
From the files of a tree to views, and to artifacts that are written into the tree. Nothing is
written before all artifacts are known; an artifact that cannot be rendered is left out.
-/
namespace ApiManual

inductive PublicationError where
  | configuration (cause : ConfigurationError)
  | loading (cause : LoadError)
  | pattern (cause : InvalidPattern)
  | assembly (cause : AssemblyError)
  | uncreated (path : String)
  | unwritten (path : String)
  | unrendered (names : List String)
  deriving DecidableEq, Repr

def PublicationError.message : PublicationError → String
  | configuration cause => cause.message
  | loading cause => cause.message
  | pattern cause => cause.message
  | assembly cause => cause.message
  | uncreated path => "Failed to create " ++ path
  | unwritten path => "Failed to write " ++ path
  | unrendered names =>
    toString names.length ++ " artifact(s) failed to render: " ++ ", ".intercalate names

namespace Selection

/-- The fragments that are selected, and how they are merged. -/
def fragments (selection : Selection) (tree : FileTree) :
    Except PublicationError (List Fragment × MergeOptions) := do
  let fragments ← (FragmentStore.load tree selection.inputs).mapError .loading
  return (fragments, ← selection.mergeOptions.mapError .pattern)

def views (selection : Selection) (tree : FileTree) : Except PublicationError (List ApiView) := do
  let (fragments, options) ← selection.fragments tree
  (merge fragments options).mapError fun cause => .assembly (.merge cause)

end Selection

structure AssemblySummary where
  written : List String := []
  failed : List String := []
  deriving DecidableEq, Repr

namespace Publication

def writeInto (tree : FileTree) (directory name text : String) :
    FileTree × Except PublicationError String :=
  let path := FilePath.join directory name
  match tree.makeDirectories directory with
  | (tree, false) => (tree, .error (.uncreated directory))
  | (tree, true) =>
    match tree.write? path text.toUTF8 with
    | some tree => (tree, .ok path)
    | none => (tree, .error (.unwritten path))

def writeAll (tree : FileTree) (directory : String) :
    List Artifact → FileTree × Except PublicationError AssemblySummary
  | [] => (tree, .ok {})
  | artifact :: rest =>
    match artifact.outcome with
    | .error _ =>
      let (tree, summary) := writeAll tree directory rest
      (tree, summary.map fun summary => { summary with failed := artifact.name :: summary.failed })
    | .ok text =>
      match writeInto tree directory artifact.name text with
      | (tree, .error error) => (tree, .error error)
      | (tree, .ok path) =>
        let (tree, summary) := writeAll tree directory rest
        (tree, summary.map fun summary => { summary with written := path :: summary.written })

def artifacts (tree : FileTree) (registry : RendererRegistry) (settings : AssemblySettings) :
    Except PublicationError (List Artifact) := do
  let (fragments, options) ← settings.selection.fragments tree
  let request := { baseName := settings.name, formats := settings.formats, options }
  (Assembly.run registry fragments request).mapError .assembly

def assemble (tree : FileTree) (registry : RendererRegistry) (settings : AssemblySettings) :
    FileTree × Except PublicationError AssemblySummary :=
  match artifacts tree registry settings with
  | .error error => (tree, .error error)
  | .ok artifacts => writeAll tree settings.output artifacts

def summaryLine (view : ApiView) : String :=
  view.label ++ "\t" ++ view.title ++ "\t" ++ toString view.walk.length ++ " resources\t" ++
    toString view.methodCount ++ " methods"

def overview (views : List ApiView) (summary : Bool) : String :=
  if summary then "\n".intercalate (views.map summaryLine)
  else Json.prettyText (.array (views.map ApiView.toJson))

end Publication

end ApiManual
