import ApiManual.FileTree.Lookup
import ApiManual.Toml.Reader

/-!
The configuration of a project: a TOML document with one table `assemble`, which holds what the
command line leaves open.
-/
namespace ApiManual

structure Configuration where
  /-- What the name of every artifact begins with. -/
  name : Option String := none
  output : Option String := none
  inputs : List String := []
  formats : List String := []
  scope : Option String := none
  /-- Patterns for paths that are left out. -/
  exclude : List String := []
  templates : List (String × String) := []
  deriving DecidableEq, Repr

inductive ConfigurationError where
  | unreadable (path : String)
  | malformed (path : String)
  deriving DecidableEq, Repr

def ConfigurationError.message : ConfigurationError → String
  | unreadable path => "Failed to read " ++ path
  | malformed path => "Failed to parse " ++ path

namespace Configuration

open Toml (Entries)

def text? : Toml → Option String
  | .string text => some text
  | _ => none

def texts? : Toml → Option (List String)
  | .list items => items.mapM text?
  | _ => none

def textEntries? : Toml → Option (List (String × String))
  | .table _ entries => entries.mapM fun (key, value) => (text? value).map (key, ·)
  | _ => none

def setting? {α : Type} (entries : Entries) (key : String) (absent : α)
    (read : Toml → Option α) : Option α :=
  match entries.lookup key with
  | some value => read value
  | none => some absent

def keys : List String :=
  ["name", "output", "inputs", "formats", "scope", "exclude", "templates"]

/-- Settings by their keys. No other keys may occur. -/
def ofEntries? (entries : Entries) : Option Configuration :=
  if !entries.all (fun entry => keys.contains entry.1) then none
  else do
    return {
      name := ← setting? entries "name" none fun value => (text? value).map some
      output := ← setting? entries "output" none fun value => (text? value).map some
      inputs := ← setting? entries "inputs" [] texts?
      formats := ← setting? entries "formats" [] texts?
      scope := ← setting? entries "scope" none fun value => (text? value).map some
      exclude := ← setting? entries "exclude" [] texts?
      templates := ← setting? entries "templates" [] textEntries? }

/-- Settings in a table, or in a list, of which items that are too many do not count. -/
def ofToml? : Toml → Option Configuration
  | .table _ entries => ofEntries? entries
  | .list items => ofEntries? (keys.zip items)
  | _ => none

def ofText? (text : String) : Option Configuration := do
  let entries ← Toml.ofText? text
  if entries.all fun entry => entry.1 = "assemble" then
    setting? entries "assemble" {} ofToml?
  else none

def defaultPath : String := "restdoc.toml"

def read (tree : FileTree) (path : String) : Except ConfigurationError Configuration :=
  match tree.text? path with
  | none => .error (.unreadable path)
  | some text =>
    match ofText? text with
    | some configuration => .ok configuration
    | none => .error (.malformed path)

def load (tree : FileTree) (path : Option String) : Except ConfigurationError Configuration :=
  match path with
  | some path => read tree path
  | none => if tree.isFile defaultPath then read tree defaultPath else .ok {}

end Configuration

end ApiManual
