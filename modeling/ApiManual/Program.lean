import ApiManual.CommandLine.Help
import ApiManual.CommandLine.Reader
import ApiManual.Publication

/-! The program as a function of its command line and of the files that it finds. -/
namespace ApiManual.Program

open CommandLine (Command Request)

structure Outcome where
  tree : FileTree
  output : String := ""
  complaint : Option String := none
  exitCode : UInt32 := 0

def succeeded (tree : FileTree) (output : String) : Outcome := { tree, output }

def failed (tree : FileTree) (error : PublicationError) (output : String := "") : Outcome :=
  { tree, output, complaint := some error.message, exitCode := 1 }

def assemble (tree : FileTree) (options : Options) (configuration : Configuration) : Outcome :=
  let settings := AssemblySettings.resolve options configuration
  match Publication.assemble tree RendererRegistry.builtin settings with
  | (tree, .error error) => failed tree error
  | (tree, .ok summary) =>
    let output := String.join (summary.written.map (· ++ "\n"))
    if summary.failed.isEmpty then succeeded tree output
    else failed tree (.unrendered summary.failed) output

def inspect (tree : FileTree) (options : Options) (configuration : Configuration) : Outcome :=
  match (Selection.resolve options configuration).views tree with
  | .error error => failed tree error
  | .ok views => succeeded tree (Publication.overview views options.summary ++ "\n")

def runCommand (tree : FileTree) (command : Command) (options : Options) : Outcome :=
  match Configuration.load tree options.configuration with
  | .error error => failed tree (.configuration error)
  | .ok configuration =>
    match command with
    | .assemble => assemble tree options configuration
    | .inspect => inspect tree options configuration

def run (tree : FileTree) (arguments : List String) : Outcome :=
  match CommandLine.request arguments with
  | .error error => { tree, complaint := some error.message, exitCode := 2 }
  | .ok .nothing => succeeded tree (CommandLine.Topic.program.text ++ "\n")
  | .ok (.help topic) => succeeded tree topic.text
  | .ok .version => succeeded tree CommandLine.versionText
  | .ok (.run command options) => runCommand tree command options

end ApiManual.Program
