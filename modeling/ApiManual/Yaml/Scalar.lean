import ApiManual.Text.Decimal

/-!
The text of a YAML scalar. A text with line feeds is a literal block where a block can hold it; a
text that would be read as something else, or as part of the structure, is quoted; one with
characters that cannot be printed, or with blanks that would be lost, is written with escapes.
-/
namespace ApiManual.Yaml

def isBreak (c : Char) : Bool :=
  c = '\n' || c = '\r' || c = '\u0085' || c = '\u2028' || c = '\u2029'

def endsWord : Option Char → Bool
  | none => true
  | some c => c = ' ' || c = '\t' || c = '\x00' || isBreak c

def isPrintable (c : Char) : Bool :=
  let n := c.toNat
  n = 0x0A || (0x20 ≤ n && n ≤ 0x7E) ||
    (0xA0 ≤ n && n ≠ 0xFEFF && n ≠ 0xFFFE && n ≠ 0xFFFF)

def isIndicator (c : Char) : Bool := "#,[]\x7b\x7d&*!|>'\"%@\x60".toList.contains c

def anyPair (p : Char → Char → Bool) (text : List Char) : Bool :=
  (text.zip text.tail).any fun (a, b) => p a b

/-- Whether a colon at the end of a word, or a number sign at the beginning of one, follows the
first character. -/
def hasInnerIndicator : List Char → Bool
  | a :: b :: rest =>
    (b = ':' && endsWord rest.head?) || (b = '#' && endsWord (some a)) ||
      hasInnerIndicator (b :: rest)
  | _ => false

/-- Whether a text would be read as part of the structure around it. -/
def hasIndicator (text : List Char) : Bool :=
  ['-', '-', '-'].isPrefixOf text || ['.', '.', '.'].isPrefixOf text ||
    (match text with
    | [] => false
    | c :: rest =>
      isIndicator c || ((c = '?' || c = ':' || c = '-') && endsWord rest.head?)) ||
    hasInnerIndicator text

def hasBreak (text : List Char) : Bool := text.any isBreak

def isPadding (c : Char) : Bool := c = ' ' || isBreak c

/-- Whether a space before a break, or a character that cannot be printed, asks for escapes. -/
def needsEscapes (text : List Char) : Bool :=
  text.any (!isPrintable ·) || anyPair (fun a b => a = ' ' && isBreak b) text

def fitsSingleQuotes (text : List Char) : Bool :=
  !needsEscapes text && !anyPair (fun a b => isBreak a && b = ' ') text

def fitsBlock (text : List Char) : Bool := !needsEscapes text && text.getLast? ≠ some ' '

def fitsPlain (text : List Char) : Bool :=
  fitsSingleQuotes text && !hasBreak text && !hasIndicator text &&
    !(text.head?.any isPadding) && !(text.getLast?.any isPadding)

def valueOf (base : Nat) (digits : List Char) : Nat :=
  digits.foldl (fun n c =>
    base * n + (if c.isDigit then c.toNat - '0'.toNat else c.toLower.toNat - 'a'.toNat + 10)) 0

def isHexDigit (c : Char) : Bool :=
  c.isDigit || ('a' ≤ c && c ≤ 'f') || ('A' ≤ c && c ≤ 'F')

def spellsBelow (bound base : Nat) (isDigit : Char → Bool) (digits : List Char) : Bool :=
  !digits.isEmpty && digits.all isDigit && valueOf base digits < bound

def isWholeBelow (bound : Nat) : List Char → Bool
  | '0' :: 'x' :: digits => spellsBelow bound 16 isHexDigit digits
  | '0' :: 'o' :: digits => spellsBelow bound 8 (fun c => '0' ≤ c && c ≤ '7') digits
  | '0' :: 'b' :: digits => spellsBelow bound 2 (fun c => c = '0' || c = '1') digits
  | digits => spellsBelow bound 10 Char.isDigit digits

def isSpecialFloat (text : List Char) : Bool :=
  [".inf", ".Inf", ".INF"].any fun name => name.toList = text

/-- Whether a text is read as a number. Digits with a leading zero are quoted as well, although they
are none. -/
def readsAsNumber (text : List Char) : Bool :=
  let unsigned := match text with
    | '+' :: rest => rest
    | '-' :: rest => rest
    | rest => rest
  let withoutPlus := match text with
    | '+' :: rest => rest
    | rest => rest
  (unsigned.head? = some '0' && 1 < unsigned.length && unsigned.all Char.isDigit) ||
    isWholeBelow (Nat.pow 2 128) withoutPlus ||
    (text.head? = some '-' && isWholeBelow (Nat.pow 2 127 + 1) unsigned) ||
    isSpecialFloat withoutPlus ||
    ["-.inf", "-.Inf", "-.INF", ".nan", ".NaN", ".NAN"].any (·.toList = text) ||
    (!(text.head? = some '+' && (unsigned.head? = some '+' || unsigned.head? = some '-')) &&
      ((Text.Decimal.ofChars? withoutPlus).map Text.Decimal.isFinite).getD false)

/-- Whether a text without line feeds is read as something that is no text. -/
def readsAsValue (text : List Char) : Bool :=
  text.isEmpty ||
    ["null", "Null", "NULL", "~", "true", "True", "TRUE", "false", "False", "FALSE"].any
      (·.toList = text) ||
    readsAsNumber text

def hexUpper (n : Nat) : Char :=
  if n < 10 then Char.ofNat ('0'.toNat + n) else Char.ofNat ('A'.toNat + (n - 10))

def hexDigits : Nat → Nat → List Char
  | 0, _ => []
  | count + 1, n => hexDigits count (n / 16) ++ [hexUpper (n % 16)]

def letterEscapes : List (Nat × Char) :=
  [(0, '0'), (7, 'a'), (8, 'b'), (9, 't'), (10, 'n'), (11, 'v'), (12, 'f'), (13, 'r'), (27, 'e'),
    (34, '"'), (92, '\\'), (0x85, 'N'), (0xA0, '_'), (0x2028, 'L'), (0x2029, 'P')]

def escape (c : Char) : List Char :=
  let n := c.toNat
  if isPrintable c && !isBreak c && c ≠ '"' && c ≠ '\\' then [c]
  else match letterEscapes.lookup n with
    | some letter => ['\\', letter]
    | none =>
      if n ≤ 0xFF then '\\' :: 'x' :: hexDigits 2 n
      else if n ≤ 0xFFFF then '\\' :: 'u' :: hexDigits 4 n
      else '\\' :: 'U' :: hexDigits 8 n

def doubleQuoted (text : List Char) : List Char := '"' :: text.flatMap escape ++ ['"']

def spaces (indent : Nat) : List Char := List.replicate indent ' '

/-- Single quotation marks are doubled, and every new line is indented. `fresh` tells whether a line
begins here. -/
def singleQuotedRest (indent : Nat) : Bool → List Char → List Char
  | fresh, [] => (if fresh then spaces indent else []) ++ ['\'']
  | fresh, c :: rest =>
    if isBreak c then c :: singleQuotedRest indent true rest
    else (if fresh then spaces indent else []) ++
      (if c = '\'' then ['\'', '\''] else [c]) ++ singleQuotedRest indent false rest

def singleQuoted (indent : Nat) (text : List Char) : List Char :=
  '\'' :: singleQuotedRest indent false text

def blockLines (indent : Nat) : Bool → List Char → List Char
  | _, [] => []
  | fresh, c :: rest =>
    if isBreak c then c :: blockLines indent true rest
    else (if fresh then spaces indent else []) ++ c :: blockLines indent false rest

/-- What the first line of a block says: its indentation, if the text hides it, and what becomes of
the breaks at its end. -/
def blockHeader (text : List Char) : List Char :=
  '|' :: (if text.head?.any isPadding then ['2'] else []) ++
    (match text.reverse with
    | [] => []
    | last :: before =>
      if !isBreak last then ['-']
      else if before.head?.all isBreak then ['+']
      else [])

structure Written where
  text : List Char
  fresh : Bool := false

def writeText (indent : Nat) (value : String) : Written :=
  let text := value.toList
  if text.contains '\n' then
    if fitsBlock text then
      ⟨blockHeader text ++ '\n' :: blockLines indent true text, text.getLast?.any isBreak⟩
    else ⟨doubleQuoted text, false⟩
  else if fitsPlain text && !readsAsValue text then ⟨text, false⟩
  else if fitsSingleQuotes text then ⟨singleQuoted indent text, false⟩
  else ⟨doubleQuoted text, false⟩

end ApiManual.Yaml
