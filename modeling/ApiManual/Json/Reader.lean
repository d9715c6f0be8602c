import ApiManual.Json.Basic
import ApiManual.Text.Decimal
import ApiManual.Text.Hexadecimal

/-!
Reading JSON text. The grammar is the strict one: no byte order mark, no comments, no trailing
commas, no leading zeros; blanks are the space, the tab, the line feed and the carriage return.
-/
namespace ApiManual.Json

def isBlank (c : Char) : Bool := c = ' ' || c = '\t' || c = '\n' || c = '\r'

def skipBlanks (text : List Char) : List Char := text.dropWhile isBlank

def escaped? : Char → Option Char
  | '"' => some '"'
  | '\\' => some '\\'
  | '/' => some '/'
  | 'b' => some '\x08'
  | 'f' => some '\x0c'
  | 'n' => some '\n'
  | 'r' => some '\r'
  | 't' => some '\t'
  | _ => none

/-- The code units up to the closing quotation mark, and the text after it. A surrogate can only
come from an escape. -/
def stringUnits? : List Char → Option (List Nat × List Char)
  | [] => none
  | '"' :: rest => some ([], rest)
  | '\\' :: 'u' :: a :: b :: c :: d :: rest => do
    let unit ← Text.Hexadecimal.number? [a, b, c, d]
    let (units, rest) ← stringUnits? rest
    return (unit :: units, rest)
  | '\\' :: e :: rest => do
    let c ← escaped? e
    let (units, rest) ← stringUnits? rest
    return (c.toNat :: units, rest)
  | c :: rest =>
    if c.toNat < 0x20 || c = '\\' then none
    else do
      let (units, rest) ← stringUnits? rest
      return (c.toNat :: units, rest)

def isHighSurrogate (unit : Nat) : Bool := 0xD800 ≤ unit && unit < 0xDC00

def isLowSurrogate (unit : Nat) : Bool := 0xDC00 ≤ unit && unit < 0xE000

/-- The text that code units spell; there is none when a surrogate stands alone. -/
def textOfUnits? : List Nat → Option (List Char)
  | [] => some []
  | [unit] =>
    if isHighSurrogate unit || isLowSurrogate unit then none else some [Char.ofNat unit]
  | unit :: next :: rest =>
    if isHighSurrogate unit then
      if isLowSurrogate next then
        (textOfUnits? rest).map
          (Char.ofNat (0x10000 + 0x400 * (unit - 0xD800) + (next - 0xDC00)) :: ·)
      else none
    else if isLowSurrogate unit then none
    else (textOfUnits? (next :: rest)).map (Char.ofNat unit :: ·)

def string? (text : List Char) : Option (Option String × List Char) :=
  (stringUnits? text).map fun (units, rest) => ((textOfUnits? units).map String.ofList, rest)

def isDigit : Char → Bool := Text.Decimal.isDigit

def digits? (text : List Char) : Option (List Char × List Char) :=
  let digits := text.takeWhile isDigit
  if digits.isEmpty then none else some (digits, text.dropWhile isDigit)

def wholePart? : List Char → Option (List Char × List Char)
  | '0' :: rest => some (['0'], rest)
  | text => digits? text

def fractionPart? : List Char → Option (List Char × List Char)
  | '.' :: rest => (digits? rest).map fun (digits, rest) => ('.' :: digits, rest)
  | text => some ([], text)

def exponentPart? : List Char → Option (List Char × List Char)
  | c :: rest =>
    if c = 'e' || c = 'E' then
      let (sign, rest) := match rest with
        | '+' :: rest => (['+'], rest)
        | '-' :: rest => (['-'], rest)
        | rest => ([], rest)
      (digits? rest).map fun (digits, rest) => (c :: sign ++ digits, rest)
    else some ([], c :: rest)
  | [] => some ([], [])

def number? (text : List Char) : Option (String × List Char) := do
  let (sign, text) := match text with
    | '-' :: rest => (['-'], rest)
    | text => ([], text)
  let (whole, text) ← wholePart? text
  let (fraction, text) ← fractionPart? text
  let (exponent, text) ← exponentPart? text
  return (String.ofList (sign ++ whole ++ fraction ++ exponent), text)

mutual

/-- A value, and the text after it. The fuel bounds the nesting and the number of items. -/
def value? : Nat → List Char → Option (Spelled × List Char)
  | 0, _ => none
  | fuel + 1, text =>
    match skipBlanks text with
    | 'n' :: 'u' :: 'l' :: 'l' :: rest => some (.null, rest)
    | 't' :: 'r' :: 'u' :: 'e' :: rest => some (.bool true, rest)
    | 'f' :: 'a' :: 'l' :: 's' :: 'e' :: rest => some (.bool false, rest)
    | '"' :: rest => (string? rest).map fun (text, rest) => (.string text, rest)
    | '[' :: rest =>
      match skipBlanks rest with
      | ']' :: rest => some (.array [], rest)
      | rest => (items? fuel rest).map fun (items, rest) => (.array items, rest)
    | '{' :: rest =>
      match skipBlanks rest with
      | '}' :: rest => some (.object [], rest)
      | rest => (members? fuel rest).map fun (members, rest) => (.object members, rest)
    | rest => (number? rest).map fun (literal, rest) => (.number literal, rest)

def items? : Nat → List Char → Option (List Spelled × List Char)
  | 0, _ => none
  | fuel + 1, text => do
    let (item, rest) ← value? fuel text
    match skipBlanks rest with
    | ',' :: rest =>
      let (items, rest) ← items? fuel rest
      return (item :: items, rest)
    | ']' :: rest => return ([item], rest)
    | _ => none

def members? : Nat → List Char → Option (List (Option String × Spelled) × List Char)
  | 0, _ => none
  | fuel + 1, text => do
    match skipBlanks text with
    | '"' :: rest =>
      let (name, rest) ← string? rest
      match skipBlanks rest with
      | ':' :: rest =>
        let (value, rest) ← value? fuel rest
        match skipBlanks rest with
        | ',' :: rest =>
          let (members, rest) ← members? fuel rest
          return ((name, value) :: members, rest)
        | '}' :: rest => return ([(name, value)], rest)
        | _ => none
      | _ => none
    | _ => none

end

def ofChars? (text : List Char) : Option Spelled :=
  match value? (2 * text.length + 2) text with
  | some (value, rest) => if (skipBlanks rest).isEmpty then some value else none
  | none => none

def ofText? (text : String) : Option Spelled := ofChars? text.toList

mutual

/-- The value with all strings as text and all numbers within the range of double precision. -/
def clean? : Spelled → Option Value
  | .null => some .null
  | .bool b => some (.bool b)
  | .number literal =>
    match Text.Decimal.ofChars? literal.toList with
    | some d => if d.isFinite then some (.number literal) else none
    | none => none
  | .string text => text.map .string
  | .array items => (cleanItems? items).map .array
  | .object members => (cleanMembers? members).map .object

def cleanItems? : List Spelled → Option (List Value)
  | [] => some []
  | item :: rest => do return (← clean? item) :: (← cleanItems? rest)

def cleanMembers? : List (Option String × Spelled) → Option (List (String × Value))
  | [] => some []
  | (name, value) :: rest => do return (← name, ← clean? value) :: (← cleanMembers? rest)

end

end ApiManual.Json
