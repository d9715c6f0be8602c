import ApiManual.Text.Decimal

/-! The values that TOML documents write without quotes: truth values, numbers, dates and times. -/
namespace ApiManual.Toml.Literal

def isDigit : Char → Bool := Text.Decimal.isDigit

def isRun (isDigit : Char → Bool) : List Char → Bool
  | [] => false
  | [c] => isDigit c
  | c :: '_' :: rest => isDigit c && isRun isDigit rest
  | c :: rest => isDigit c && isRun isDigit rest

def isWhole : List Char → Bool
  | ['0'] => true
  | '0' :: _ => false
  | text => isRun isDigit text

def valueIn (base : Nat) (run : List Char) : Nat :=
  (run.filter (· ≠ '_')).foldl (fun n c =>
    let digit :=
      if isDigit c then c.toNat - '0'.toNat else c.toLower.toNat - 'a'.toNat + 10
    base * n + digit) 0

def isHexDigit (c : Char) : Bool :=
  isDigit c || ('a' ≤ c && c ≤ 'f') || ('A' ≤ c && c ≤ 'F')

def splitSign : List Char → Option Char × List Char
  | '+' :: rest => (some '+', rest)
  | '-' :: rest => (some '-', rest)
  | text => (none, text)

/-- Whether an integer has a sign and at most 63 further bits. -/
def isInteger (text : List Char) : Bool :=
  match text with
  | '0' :: 'x' :: run => isRun isHexDigit run && valueIn 16 run < Nat.pow 2 63
  | '0' :: 'o' :: run => isRun (fun c => '0' ≤ c && c ≤ '7') run && valueIn 8 run < Nat.pow 2 63
  | '0' :: 'b' :: run => isRun (fun c => c = '0' || c = '1') run && valueIn 2 run < Nat.pow 2 63
  | text =>
    let (sign, run) := splitSign text
    isWhole run && valueIn 10 run < Nat.pow 2 63 + (if sign = some '-' then 1 else 0)

def isExponent (text : List Char) : Bool :=
  match text with
  | c :: rest => (c = 'e' || c = 'E') && isRun isDigit (splitSign rest).2
  | [] => false

def isFloat (text : List Char) : Bool :=
  let (_, unsigned) := splitSign text
  if unsigned = "inf".toList || unsigned = "nan".toList then true
  else
    let isRunCharacter := fun c => isDigit c || c = '_'
    isWhole (unsigned.takeWhile isRunCharacter) &&
      match unsigned.dropWhile isRunCharacter with
      | '.' :: rest =>
        let exponent := rest.dropWhile isRunCharacter
        isRun isDigit (rest.takeWhile isRunCharacter) && (exponent.isEmpty || isExponent exponent)
      | exponent => isExponent exponent

def digits? (count : Nat) (text : List Char) : Option Nat :=
  if text.length = count && text.all isDigit then some (Text.Decimal.natOfDigits text) else none

def daysInMonth (year month : Nat) : Nat :=
  if month = 2 then
    if year % 4 = 0 && (year % 100 ≠ 0 || year % 400 = 0) then 29 else 28
  else if month = 4 || month = 6 || month = 9 || month = 11 then 30
  else 31

def isDate : List Char → Bool
  | [a, b, c, d, '-', e, f, '-', g, h] =>
    match digits? 4 [a, b, c, d], digits? 2 [e, f], digits? 2 [g, h] with
    | some year, some month, some day =>
      1 ≤ month && month ≤ 12 && 1 ≤ day && day ≤ daysInMonth year month
    | _, _, _ => false
  | _ => false

def isBelow (limit : Nat) (digits : List Char) : Bool :=
  match digits? 2 digits with
  | some n => n < limit
  | none => false

def isTime : List Char → Bool
  | a :: b :: ':' :: c :: d :: ':' :: e :: f :: fraction =>
    isBelow 24 [a, b] && isBelow 60 [c, d] && isBelow 61 [e, f] &&
      match fraction with
      | [] => true
      | '.' :: digits => !digits.isEmpty && digits.all isDigit
      | _ => false
  | _ => false

def isOffset : List Char → Bool
  | [c] => c = 'Z' || c = 'z'
  | [sign, a, b, ':', c, d] => (sign = '+' || sign = '-') && isBelow 24 [a, b] && isBelow 60 [c, d]
  | _ => false

/-- A date and a time, which a letter or a space stands between, and perhaps an offset. -/
def isDateTime (text : List Char) : Bool :=
  match text.drop 10 with
  | separator :: rest =>
    let isTimeCharacter := fun c => isDigit c || c = ':' || c = '.'
    let offset := rest.dropWhile isTimeCharacter
    isDate (text.take 10) && (separator = 'T' || separator = 't' || separator = ' ') &&
      isTime (rest.takeWhile isTimeCharacter) && (offset.isEmpty || isOffset offset)
  | [] => false

def isValue (text : List Char) : Bool :=
  text = "true".toList || text = "false".toList || isInteger text || isFloat text ||
    isDate text || isTime text || isDateTime text

def isCharacter (c : Char) : Bool :=
  c.isAlphanum || c = '+' || c = '-' || c = '_' || c = '.' || c = ':'

/-- The value without quotes that a text begins with, if there is one, and what comes after it. -/
def value? (text : List Char) : Option (List Char) :=
  let word := text.takeWhile isCharacter
  let rest := text.dropWhile isCharacter
  let (word, rest) := match isDate word, rest with
    | true, ' ' :: c :: more =>
      if isDigit c then
        (word ++ ' ' :: (c :: more).takeWhile isCharacter, (c :: more).dropWhile isCharacter)
      else (word, rest)
    | _, _ => (word, rest)
  if isValue word then some rest else none

end ApiManual.Toml.Literal
