import ApiManual.Assembly
import ApiManual.Configuration
import ApiManual.Exclusion

/-!
What is documented and how. What the command line says counts before the configuration, and the
configuration before the defaults; patterns and placeholders are taken from both.
-/
namespace ApiManual

structure Options where
  inputs : List String := []
  scope : Option String := none
  exclude : List String := []
  definitions : List (String × String) := []
  configuration : Option String := none
  output : Option String := none
  name : Option String := none
  formats : List String := []
  /-- Whether a view is shown as one line. -/
  summary : Bool := false
  deriving DecidableEq, Repr

structure Selection where
  inputs : List String := ["."]
  scope : Scope := Scope.all
  exclude : List String := []
  templates : TemplateValues := {}
  deriving DecidableEq, Repr

structure AssemblySettings where
  selection : Selection := {}
  output : String := "restdoc-out"
  name : String := "ApiDocs"
  formats : List String := ["html"]
  deriving DecidableEq, Repr

def firstFilled {α : Type} (lists : List (List α)) (default : List α) : List α :=
  (lists.find? (!·.isEmpty)).getD default

namespace Selection

def resolve (options : Options) (configuration : Configuration) : Selection :=
  let defaults : Selection := {}
  { inputs := firstFilled [options.inputs, configuration.inputs] defaults.inputs
    scope := ((options.scope <|> configuration.scope).map Scope.mk).getD defaults.scope
    exclude := configuration.exclude ++ options.exclude
    templates := .ofList (configuration.templates ++ options.definitions) }

def exclusions (selection : Selection) : Except InvalidPattern ExclusionSet :=
  ExclusionSet.ofPatterns selection.exclude

def mergeOptions (selection : Selection) : Except InvalidPattern MergeOptions :=
  selection.exclusions.map fun exclusions => {
    excluded := exclusions.isExcluded
    scope := selection.scope
    templates := selection.templates }

end Selection

namespace AssemblySettings

def resolve (options : Options) (configuration : Configuration) : AssemblySettings :=
  let defaults : AssemblySettings := {}
  { selection := .resolve options configuration
    output := (options.output <|> configuration.output).getD defaults.output
    name := (options.name <|> configuration.name).getD defaults.name
    formats := firstFilled [options.formats, configuration.formats] defaults.formats }

end AssemblySettings

end ApiManual
