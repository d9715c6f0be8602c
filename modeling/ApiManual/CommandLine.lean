import ApiManual.Settings

/-! The commands and flags of the program, and what may be wrong with a command line. -/
namespace ApiManual.CommandLine

inductive Setting where
  | scope
  | exclude
  | define
  | config
  | output
  | name
  | format
  deriving DecidableEq, Repr

inductive Switch where
  | verbose
  | summary
  | help
  | version
  deriving DecidableEq, Repr

inductive Flag where
  | setting (setting : Setting)
  | switch (switch : Switch)
  deriving DecidableEq, Repr

inductive Command where
  /-- Renders artifacts into files. -/
  | assemble
  /-- Shows the views. -/
  | inspect
  deriving DecidableEq, Repr

namespace Setting

def longName : Setting → String
  | scope => "scope"
  | exclude => "exclude"
  | define => "define"
  | config => "config"
  | output => "output"
  | name => "name"
  | format => "format"

def letter? : Setting → Option Char
  | exclude => some 'x'
  | define => some 'D'
  | output => some 'o'
  | name => some 'n'
  | format => some 'f'
  | _ => none

def valueName : Setting → String
  | scope => "SCOPE"
  | exclude => "REGEX"
  | define => "KEY=VALUE"
  | config => "PATH"
  | output => "DIR"
  | name => "NAME"
  | format => "FORMAT"

def description : Setting → String
  | scope => "Only document endpoints published to this scope (`all` for every endpoint)"
  | exclude => "Drop mounts whose whole path matches this pattern (repeatable)"
  | define => "Value for a $\x7bKEY\x7d placeholder (repeatable)"
  | config => "Configuration file. Defaults to ./restdoc.toml when present"
  | output => "Directory artifacts are written to"
  | name => "Base name of every artifact"
  | format => "Output format: html, raml or json (repeatable)"

end Setting

namespace Switch

def longName : Switch → String
  | verbose => "verbose"
  | summary => "summary"
  | help => "help"
  | version => "version"

def letter? : Switch → Option Char
  | verbose => some 'v'
  | summary => none
  | help => some 'h'
  | version => some 'V'

def description : Switch → String
  | verbose => "Increase log verbosity"
  | summary => "Print one summary line per view instead of full JSON"
  | help => "Print help"
  | version => "Print version"

end Switch

namespace Flag

def longName : Flag → String
  | setting s => s.longName
  | switch s => s.longName

def letter? : Flag → Option Char
  | setting s => s.letter?
  | switch s => s.letter?

def description : Flag → String
  | setting s => s.description
  | switch s => s.description

/-- The flag as messages name it, with its value. Full stops say that a switch counts. -/
def label : Flag → String
  | setting s => "--" ++ s.longName ++ " <" ++ s.valueName ++ ">"
  | switch .verbose => "--verbose..."
  | switch s => "--" ++ s.longName

end Flag

namespace Command

def name : Command → String
  | assemble => "assemble"
  | inspect => "inspect"

def description : Command → String
  | assemble => "Render documentation artifacts"
  | inspect => "Print the merged API views"

def ofName? (word : String) : Option Command := [assemble, inspect].find? (·.name = word)

def flags (command : Command) : List Flag :=
  [.setting .scope, .switch .verbose, .setting .exclude, .setting .define, .setting .config] ++
    (match command with
      | assemble => [.setting .output, .setting .name, .setting .format]
      | inspect => [.switch .summary]) ++
    [.switch .help]

end Command

def globalFlags : List Flag := [.switch .verbose, .switch .help, .switch .version]

def helpWord : String := "help"

def inputsLabel : String := "[INPUT]..."

inductive Topic where
  | program
  | command (command : Command)
  | help
  deriving DecidableEq, Repr

inductive Request where
  | nothing
  | help (topic : Topic)
  | version
  | run (command : Command) (options : Options)
  deriving DecidableEq, Repr

inductive UsageError where
  | unexpectedArgument (argument : String)
  | unknownCommand (word : String)
  | missingValue (label : String)
  /-- A flag that may be given once is given twice. -/
  | repeated (flag : Flag)
  | surplusValue (value : String) (flag : Flag)
  /-- A definition has no equals sign. -/
  | noDefinition (text : String)
  /-- A definition has nothing in front of its equals sign. -/
  | emptyKey (text : String)
  deriving DecidableEq, Repr

namespace UsageError

def invalidDefinition (text reason : String) : String :=
  "invalid value '" ++ text ++ "' for '" ++ (Flag.setting .define).label ++ "': " ++ reason

def message (error : UsageError) : String :=
  "error: " ++ match error with
    | unexpectedArgument argument => "unexpected argument '" ++ argument ++ "' found"
    | unknownCommand word => "unrecognized subcommand '" ++ word ++ "'"
    | missingValue label => "a value is required for '" ++ label ++ "' but none was supplied"
    | repeated flag => "the argument '" ++ flag.label ++ "' cannot be used multiple times"
    | surplusValue value flag =>
      "unexpected value '" ++ value ++ "' for '" ++ flag.label ++ "' found; no more were expected"
    | noDefinition text => invalidDefinition text ("expected KEY=VALUE, got `" ++ text ++ "`")
    | emptyKey text => invalidDefinition text ("empty key in `" ++ text ++ "`")

end UsageError

end ApiManual.CommandLine
