import ApiManual.CommandLine
import ApiManual.Text.Blank

/-!
Reading command lines. The value of a flag is a part of its word or the next word; a next word that
begins with a dash is no value. What a flag was given counts only when the next flag or argument, or
the end, is reached, so that an unknown flag is reported before a bad value in front of it.
-/
namespace ApiManual.CommandLine

inductive Held where
  | nothing
  | awaiting (setting : Setting)
  | value (setting : Setting) (text : String)
  | inputs (paths : List String)

structure Reading where
  options : Options := {}
  held : Held := .nothing
  /-- Whether no more flags may come. -/
  flagsEnded : Bool := false

inductive Stop where
  | help
  | version
  | usage (error : UsageError)

def definition? (text : String) : Except UsageError (String × String) :=
  let key := Text.trim (text.toList.takeWhile (· ≠ '='))
  match text.toList.dropWhile (· ≠ '=') with
  | [] => .error (.noDefinition text)
  | _ :: value =>
    if key.isEmpty then .error (.emptyKey text)
    else .ok (String.ofList key, String.ofList value)

def once (setting : Setting) (earlier : Option String) : Except UsageError Unit :=
  if earlier.isSome then .error (.repeated (.setting setting)) else .ok ()

def pathOf (label : String) (text : String) : Except UsageError String :=
  if text = "" then .error (.missingValue label) else .ok text

def Setting.store (setting : Setting) (text : String) (options : Options) :
    Except UsageError Options := do
  let label := (Flag.setting setting).label
  match setting with
  | .scope =>
    once .scope options.scope
    return { options with scope := some text }
  | .exclude => return { options with exclude := options.exclude ++ [text] }
  | .define => return { options with definitions := options.definitions ++ [← definition? text] }
  | .config =>
    once .config options.configuration
    return { options with configuration := some (← pathOf label text) }
  | .output =>
    once .output options.output
    return { options with output := some (← pathOf label text) }
  | .name =>
    once .name options.name
    return { options with name := some text }
  | .format => return { options with formats := options.formats ++ [text] }

def Reading.settle (reading : Reading) : Except UsageError Reading := do
  let options ← match reading.held with
    | .nothing => pure reading.options
    | .awaiting setting => throw (.missingValue (Flag.setting setting).label)
    | .value setting text => setting.store text reading.options
    | .inputs paths => do
      let paths ← paths.mapM (pathOf inputsLabel)
      pure { reading.options with inputs := reading.options.inputs ++ paths }
  return { reading with options, held := .nothing }

def Reading.settled (reading : Reading) : Except Stop Reading := reading.settle.mapError .usage

def Reading.give (reading : Reading) (setting : Setting) (text : String) :
    Except Stop Reading := do
  let reading ← reading.settled
  return { reading with options := ← (setting.store text reading.options).mapError .usage }

def Reading.await (reading : Reading) (setting : Setting) : Except Stop Reading := do
  return { ← reading.settled with held := .awaiting setting }

def Reading.turnOn (reading : Reading) (switch : Switch) : Except Stop Reading := do
  let reading ← reading.settled
  match switch with
  | .verbose => return reading
  | .summary =>
    if reading.options.summary then throw (.usage (.repeated (.switch .summary)))
    else return { reading with options := { reading.options with summary := true } }
  | .help => throw .help
  | .version => throw .version

def Reading.longFlag (reading : Reading) (flags : List Flag) (name : String)
    (value : Option String) : Except Stop Reading :=
  match flags.find? (·.longName = name), value with
  | none, _ => .error (.usage (.unexpectedArgument ("--" ++ name)))
  | some (.setting setting), some value => reading.give setting value
  | some (.setting setting), none => reading.await setting
  | some (.switch switch), some value => .error (.usage (.surplusValue value (.switch switch)))
  | some (.switch switch), none => reading.turnOn switch

/-- Flags by their letters. The letters after that of a flag with a value are the value, with or
without an equals sign in front. -/
def Reading.letterFlags (flags : List Flag) (reading : Reading) : List Char → Except Stop Reading
  | [] => .ok reading
  | c :: rest =>
    match flags.find? (·.letter? = some c) with
    | none => .error (.usage (.unexpectedArgument ("-" ++ c.toString)))
    | some (.switch switch) => do letterFlags flags (← reading.turnOn switch) rest
    | some (.setting setting) =>
      match rest with
      | [] => reading.await setting
      | '=' :: value => reading.give setting (String.ofList value)
      | value => reading.give setting (String.ofList value)

/-- A word by its shape. -/
inductive Word where
  | endOfFlags
  | long (name : String) (value : Option String)
  | letters (letters : List Char)
  | plain

def Word.ofText (word : String) : Word :=
  match word.toList with
  | ['-', '-'] => .endOfFlags
  | '-' :: '-' :: rest =>
    let value := match rest.dropWhile (· ≠ '=') with
      | _ :: value => some (String.ofList value)
      | [] => none
    .long (String.ofList (rest.takeWhile (· ≠ '='))) value
  | '-' :: c :: rest => .letters (c :: rest)
  | _ => .plain

def Reading.argument (reading : Reading) (text : String) : Except Stop Reading :=
  match reading.held with
  | .inputs paths => .ok { reading with held := .inputs (paths ++ [text]) }
  | _ => do return { ← reading.settled with held := .inputs [text] }

def Reading.word (flags : List Flag) (reading : Reading) (text : String) : Except Stop Reading :=
  if reading.flagsEnded then reading.argument text
  else
    match Word.ofText text with
    | .endOfFlags => .ok { reading with flagsEnded := true }
    | .long name value => reading.longFlag flags name value
    | .letters letters => reading.letterFlags flags letters
    | .plain =>
      match reading.held with
      | .awaiting setting => .ok { reading with held := .value setting text }
      | _ => reading.argument text

def requestOfStop (topic : Topic) : Stop → Except UsageError Request
  | .help => .ok (.help topic)
  | .version => .ok .version
  | .usage error => .error error

def ofCommand (command : Command) (words : List String) : Except UsageError Request :=
  match words.foldlM (Reading.word command.flags) {} with
  | .error stop => requestOfStop (.command command) stop
  | .ok reading => reading.settle.map fun reading => .run command reading.options

def ofHelp : List String → Except UsageError Request
  | [] => .ok (.help .program)
  | word :: rest =>
    let topic := match Command.ofName? word with
      | some command => some (.command command)
      | none => if word = helpWord then some .help else none
    match topic, rest with
    | none, _ => .error (.unknownCommand word)
    | some _, next :: _ => .error (.unknownCommand next)
    | some topic, [] => .ok (.help topic)

def isCommandWord (word : String) : Bool := word = helpWord || (Command.ofName? word).isSome

def request (words : List String) : Except UsageError Request :=
  match words with
  | [] => .ok .nothing
  | word :: rest =>
    if word = helpWord then ofHelp rest
    else
      match Command.ofName? word with
      | some command => ofCommand command rest
      | none =>
        let flags : Except Stop Reading := match Word.ofText word with
          | .long name value => Reading.longFlag {} globalFlags name value
          | .letters letters => Reading.letterFlags globalFlags {} letters
          | .endOfFlags =>
            match rest with
            | [] => .ok {}
            | next :: _ =>
              .error (.usage (if isCommandWord next then .unexpectedArgument next
                else .unknownCommand next))
          | .plain => .error (.usage (.unknownCommand word))
        match flags with
        | .error stop => requestOfStop .program stop
        | .ok _ => request rest

end ApiManual.CommandLine
