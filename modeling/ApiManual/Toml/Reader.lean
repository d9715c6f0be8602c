import ApiManual.Toml
import ApiManual.Toml.Literal
import ApiManual.Toml.Quoted

/-! Reading TOML documents. -/
namespace ApiManual.Toml

def skipBlanks (text : List Char) : List Char := text.dropWhile isBlank

/-- What comes after blanks, line breaks and comments. A comment ends with its line. -/
def skipLines : (inComment : Bool) → List Char → List Char
  | _, [] => []
  | _, '\n' :: rest => skipLines false rest
  | _, '\r' :: '\n' :: rest => skipLines false rest
  | true, c :: rest => if isPlain c then skipLines true rest else c :: rest
  | false, c :: rest =>
    if c = '#' then skipLines true rest
    else if isBlank c then skipLines false rest
    else c :: rest

def isBareKeyCharacter (c : Char) : Bool := c.isAlphanum || c = '-' || c = '_'

def keyPart? (text : List Char) : Option (String × List Char) :=
  match text.takeWhile isBareKeyCharacter with
  | [] => (lineText? text).map fun (key, rest) => (String.ofList key, rest)
  | key => some (String.ofList key, text.dropWhile isBareKeyCharacter)

def keyParts? : Nat → List Char → Option (List String × List Char)
  | 0, _ => none
  | fuel + 1, text => do
    let (part, rest) ← keyPart? (skipBlanks text)
    match skipBlanks rest with
    | '.' :: rest =>
      let (parts, rest) ← keyParts? fuel rest
      return (part :: parts, rest)
    | rest => return ([part], rest)

def key? (text : List Char) : Option (List String × List Char) := keyParts? (text.length + 1) text

def assignment? (text : List Char) : Option ((List String × String) × List Char) := do
  let (parts, rest) ← key? text
  match parts.getLast?, rest with
  | some last, '=' :: rest => some ((parts.dropLast, last), skipBlanks rest)
  | _, _ => none

mutual

/-- A value, and the text after it. The fuel bounds the nesting and the number of items. -/
def value? : Nat → List Char → Option (Toml × List Char)
  | 0, _ => none
  | fuel + 1, text =>
    match text with
    | '[' :: rest =>
      (items? fuel (skipLines false rest)).map fun (items, rest) => (.list items, rest)
    | '{' :: rest =>
      match skipBlanks rest with
      | '}' :: rest => some (.table .braces [], rest)
      | rest => do
        let (pairs, rest) ← pairs? fuel rest
        return (← ofPairs? pairs, rest)
    | text =>
      match quotedText? text with
      | some (quoted, rest) => some (.string (String.ofList quoted), rest)
      | none => (Literal.value? text).map fun rest => (.other, rest)

def items? : Nat → List Char → Option (List Toml × List Char)
  | 0, _ => none
  | fuel + 1, text =>
    match text with
    | ']' :: rest => some ([], rest)
    | text => do
      let (item, rest) ← value? fuel text
      match skipLines false rest with
      | ',' :: rest =>
        let (items, rest) ← items? fuel (skipLines false rest)
        return (item :: items, rest)
      | ']' :: rest => return ([item], rest)
      | _ => none

def pairs? : Nat → List Char → Option (List (List String × String × Toml) × List Char)
  | 0, _ => none
  | fuel + 1, text => do
    let ((path, key), rest) ← assignment? text
    let (value, rest) ← value? fuel rest
    match skipBlanks rest with
    | ',' :: rest =>
      let (pairs, rest) ← pairs? fuel rest
      return ((path, key, value) :: pairs, rest)
    | '}' :: rest => return ([(path, key, value)], rest)
    | _ => none

end

def lineEnd? (text : List Char) : Option (List Char) :=
  let rest := match skipBlanks text with
    | '#' :: comment => comment.dropWhile isPlain
    | rest => rest
  match rest with
  | [] => some []
  | '\n' :: rest => some rest
  | '\r' :: '\n' :: rest => some rest
  | _ => none

def statement? (text : List Char) : Option (Statement × List Char) :=
  match text with
  | '[' :: rest => do
    let (path, rest) ← key? rest
    match rest with
    | ']' :: rest => some (.header path, rest)
    | _ => none
  | text => do
    let ((path, key), rest) ← assignment? text
    let (value, rest) ← value? (2 * rest.length + 2) rest
    return (.entry path key value, rest)

def statements? : Nat → List Char → Option (List Statement)
  | 0, _ => none
  | fuel + 1, text =>
    match skipLines false text with
    | [] => some []
    | text => do
      let (statement, rest) ← statement? text
      return statement :: (← statements? fuel (← lineEnd? rest))

def ofText? (text : String) : Option Entries := do
  let text := match text.toList with
    | '\ufeff' :: rest => rest
    | text => text
  ofStatements? (← statements? (text.length + 1) text)

end ApiManual.Toml
