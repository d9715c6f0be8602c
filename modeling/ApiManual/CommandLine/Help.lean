import ApiManual.CommandLine

/-! Help texts. -/
namespace ApiManual.CommandLine

/-- A heading, and entries with their descriptions, which begin in one column. -/
structure HelpSection where
  heading : String
  entries : List (String × String)

namespace HelpSection

def width (helpSection : HelpSection) : Nat :=
  (helpSection.entries.map (·.1.length)).foldl max 0

def text (helpSection : HelpSection) : String :=
  "\n" ++ helpSection.heading ++ ":\n" ++
    String.join (helpSection.entries.map fun (entry, description) =>
      let padding := String.ofList (List.replicate (helpSection.width - entry.length) ' ')
      "  " ++ entry ++ padding ++ "  " ++ description ++ "\n")

end HelpSection

def Flag.entry (flag : Flag) : String × String :=
  let letter := match flag.letter? with
    | some c => "-" ++ c.toString ++ ", "
    | none => "    "
  (letter ++ flag.label, flag.description)

def flagSection (flags : List Flag) : HelpSection := ⟨"Options", flags.map Flag.entry⟩

def inputSection : HelpSection :=
  ⟨"Arguments", [(inputsLabel,
    "Directories or fragment files to read. Defaults to the current working directory")]⟩

def helpDescription : String := "Print this message or the help of the given subcommand(s)"

namespace Topic

def description : Topic → String
  | program => "Assemble REST API documentation from extracted fragments"
  | command c => c.description
  | help => helpDescription

def usage : Topic → String
  | program => "restdoc [OPTIONS] [COMMAND]"
  | command c => "restdoc " ++ c.name ++ " [OPTIONS] " ++ inputsLabel
  | help => "restdoc help [COMMAND]..."

def sections : Topic → List HelpSection
  | program => [
    ⟨"Commands",
      [Command.assemble, Command.inspect].map (fun c => (c.name, c.description)) ++
        [(helpWord, helpDescription)]⟩,
    flagSection globalFlags]
  | command c => [inputSection, flagSection c.flags]
  | help => [⟨"Arguments", [("[COMMAND]...", "Print help for the subcommand(s)")]⟩]

def text (topic : Topic) : String :=
  topic.description ++ "\n\nUsage: " ++ topic.usage ++ "\n" ++
    String.join (topic.sections.map HelpSection.text)

end Topic

def versionText : String := "restdoc 0.3.8\n"

end ApiManual.CommandLine
