import ApiManual.Pattern
import ApiManual.Text.Blank
import ApiManual.Text.Hexadecimal
import ApiManual.Unicode.Class

/-!
Reading the parts of a pattern that are no larger than an escape. Each reader takes the text from
where the part begins and gives back what comes after it. In verbose mode, which a flag switches on,
blanks between parts do not count, and a number sign begins a comment that goes on to the end of its
line.
-/
namespace ApiManual.Pattern

open Text (isBlank)

def skipVerbose : (inComment : Bool) → List Char → List Char
  | _, [] => []
  | true, c :: rest => skipVerbose (c ≠ '\n') rest
  | false, c :: rest =>
    if isBlank c then skipVerbose false rest
    else if c = '#' then skipVerbose true rest
    else c :: rest

def skip (verbose : Bool) (text : List Char) : List Char :=
  if verbose then skipVerbose false text else text

inductive Atom where
  | literal (literal : Literal)
  | dot
  | assertion (assertion : Assertion)
  | perl (kind : PerlClass) (negated : Bool)
  | property (property : Property) (negated : Bool)
  deriving Repr

def exactly? (verbose : Bool) : Nat → List Char → Option (List Char × List Char)
  | 0, text => some ([], text)
  | _ + 1, [] => none
  | count + 1, c :: rest => do
    let (digits, rest) ← exactly? verbose count (skip verbose rest)
    return (c :: digits, rest)

def upToBrace? (verbose : Bool) : Nat → List Char → Option (List Char × List Char)
  | 0, _ => none
  | fuel + 1, text =>
    match skip verbose text with
    | [] => none
    | '}' :: rest => some ([], rest)
    | c :: rest => (upToBrace? verbose fuel rest).map fun (body, rest) => (c :: body, rest)

/-- A character by its number: the letter was read that tells how many digits there are, unless they
stand in braces. -/
def hexLiteral? (verbose : Bool) (letter : Char) (text : List Char) :
    Option (Literal × List Char) := do
  match skip verbose text with
  | '{' :: rest =>
    let (digits, rest) ← upToBrace? verbose (rest.length + 1) rest
    if digits.isEmpty then none
    else
      let c ← Text.Hexadecimal.character? digits
      return (⟨c, false⟩, skip verbose rest)
  | text =>
    let count := if letter = 'x' then 2 else if letter = 'u' then 4 else 8
    let (digits, rest) ← exactly? verbose count text
    return (⟨← Text.Hexadecimal.character? digits, letter = 'x'⟩, rest)

def splitAtFirst? (separator : List Char) : List Char → Option (List Char × List Char)
  | [] => none
  | c :: rest =>
    if separator.isPrefixOf (c :: rest) then some ([], (c :: rest).drop separator.length)
    else (splitAtFirst? separator rest).map fun (before, after) => (c :: before, after)

def propertyOf (name : List Char) : Property :=
  match splitAtFirst? ['!', '='] name <|> splitAtFirst? [':'] name <|> splitAtFirst? ['='] name with
  | some (name, value) => .valued (String.ofList name) (String.ofList value)
  | none => .named (String.ofList name)

def property? (verbose : Bool) (text : List Char) : Option (Property × List Char) :=
  match skip verbose text with
  | [] => none
  | '\\' :: _ => none
  | '{' :: rest =>
    (upToBrace? verbose (rest.length + 1) rest).map fun (name, rest) => (propertyOf name, rest)
  | c :: rest => some (.named (String.ofList [c]), skip verbose rest)

def isWordEdgeLetter (c : Char) : Bool := c.isAlpha || c = '-'

def wordEdgeName (verbose : Bool) : Nat → List Char → List Char × List Char
  | 0, text => ([], text)
  | fuel + 1, text =>
    match text with
    | [] => ([], [])
    | c :: rest =>
      if isWordEdgeLetter c then
        let (name, rest) := wordEdgeName verbose fuel (skip verbose rest)
        (c :: name, rest)
      else ([], c :: rest)

/-- What follows the escape of a word edge: its kind in braces, or braces that begin a repetition,
or something else. -/
def wordEdge? (verbose : Bool) (text : List Char) : Option (Assertion × List Char) :=
  match text with
  | '{' :: rest =>
    match skip verbose rest with
    | [] => none
    | c :: body =>
      if isWordEdgeLetter c then
        let (name, rest) := wordEdgeName verbose (body.length + 1) (c :: body)
        match rest with
        | '}' :: rest =>
          match String.ofList name with
          | "start" => some (.wordStart, rest)
          | "end" => some (.wordEnd, rest)
          | "start-half" => some (.wordStartHalf, rest)
          | "end-half" => some (.wordEndHalf, rest)
          | _ => none
        | _ => none
      else some (.wordEdge, text)
  | text => some (.wordEdge, text)

def metaCharacters : List Char := "\\.+*?()|[]\x7b\x7d^$#&-~".toList

/-- Whether a backslash before a character makes it stand for itself: a character of the grammar, or
any ASCII character but letters, digits and angle brackets. -/
def isEscapable (c : Char) : Bool :=
  metaCharacters.contains c || (c.toNat < 0x80 && !c.isAlphanum && c ≠ '<' && c ≠ '>')

/-- The character that a letter stands for after a backslash. -/
def letterEscape? : Char → Option Char
  | 'a' => some '\x07'
  | 'f' => some '\x0c'
  | 't' => some '\t'
  | 'n' => some '\n'
  | 'r' => some '\r'
  | 'v' => some '\x0b'
  | _ => none

def escape? (verbose : Bool) (text : List Char) : Option (Atom × List Char) :=
  match text with
  | [] => none
  | c :: rest =>
    if c = 'x' || c = 'u' || c = 'U' then
      (hexLiteral? verbose c rest).map fun (found, rest) => (.literal found, rest)
    else if c = 'p' || c = 'P' then
      (property? verbose rest).map fun (found, rest) => (.property found (c = 'P'), rest)
    else if isEscapable c then some (.literal ⟨c, false⟩, rest)
    else match letterEscape? c with
      | some found => some (.literal ⟨found, false⟩, rest)
      | none =>
        match c with
        | 'd' => some (.perl .digit false, rest)
        | 'D' => some (.perl .digit true, rest)
        | 's' => some (.perl .space false, rest)
        | 'S' => some (.perl .space true, rest)
        | 'w' => some (.perl .word false, rest)
        | 'W' => some (.perl .word true, rest)
        | 'A' => some (.assertion .textStart, rest)
        | 'z' => some (.assertion .textEnd, rest)
        | 'b' => (wordEdge? verbose rest).map fun (kind, rest) => (.assertion kind, rest)
        | 'B' => some (.assertion .wordInside, rest)
        | '<' => some (.assertion .wordStart, rest)
        | '>' => some (.assertion .wordEnd, rest)
        | _ => none

def atom? (verbose : Bool) (text : List Char) : Option (Atom × List Char) :=
  match text with
  | [] => none
  | '\\' :: rest => escape? verbose rest
  | '.' :: rest => some (.dot, rest)
  | '^' :: rest => some (.assertion .lineStart, rest)
  | '$' :: rest => some (.assertion .lineEnd, rest)
  | c :: rest => some (.literal ⟨c, false⟩, rest)

def decimal? (verbose : Bool) (text : List Char) : Option (Nat × List Char) :=
  let rec digits : Nat → List Char → List Char × List Char
    | 0, text => ([], text)
    | fuel + 1, text =>
      match text with
      | [] => ([], [])
      | c :: rest =>
        if c.isDigit then
          let (found, rest) := digits fuel (skip verbose rest)
          (c :: found, rest)
        else ([], c :: rest)
  let rec trailing : Nat → List Char → List Char
    | 0, text => text
    | fuel + 1, text =>
      match text with
      | [] => []
      | c :: rest => if isBlank c then trailing fuel (skip verbose rest) else c :: rest
  let (found, rest) := digits (text.length + 1) (text.dropWhile isBlank)
  let number := found.foldl (fun n c => 10 * n + (c.toNat - '0'.toNat)) 0
  if found.isEmpty || Nat.pow 2 32 ≤ number then none
  else some (number, trailing (rest.length + 1) rest)

def counts? (verbose : Bool) (text : List Char) : Option ((Nat × Option Nat) × List Char) := do
  let (least, text) ← decimal? verbose (skip verbose text)
  match text with
  | '}' :: rest => return ((least, some least), rest)
  | ',' :: rest =>
    match skip verbose rest with
    | '}' :: rest => return ((least, none), rest)
    | rest =>
      let (most, rest) ← decimal? verbose rest
      match rest with
      | '}' :: rest => if least ≤ most then return ((least, some most), rest) else none
      | _ => none
  | _ => none

end ApiManual.Pattern
