import ApiManual.Text.Hexadecimal

/-!
Quoted texts of TOML documents: with escapes between quotation marks, as they are between
apostrophes, and over several lines between three of either. The line feed stands for every line
break.
-/
namespace ApiManual.Toml

def isBlank (c : Char) : Bool := c = ' ' || c = '\t'

def isPlain (c : Char) : Bool := (0x20 ≤ c.toNat || c = '\t') && c.toNat ≠ 0x7F

def escaped? : Char → Option Char
  | 'b' => some '\x08'
  | 't' => some '\t'
  | 'n' => some '\n'
  | 'f' => some '\x0c'
  | 'r' => some '\r'
  | '"' => some '"'
  | '\\' => some '\\'
  | _ => none

def withChar (c : Char) (found : Option (List Char × List Char)) : Option (List Char × List Char) :=
  found.map fun (text, rest) => (c :: text, rest)

def quoted? : List Char → Option (List Char × List Char)
  | [] => none
  | '"' :: rest => some ([], rest)
  | '\\' :: 'u' :: a :: b :: c :: d :: rest => do
    withChar (← Text.Hexadecimal.character? [a, b, c, d]) (quoted? rest)
  | '\\' :: 'U' :: a :: b :: c :: d :: e :: f :: g :: h :: rest => do
    withChar (← Text.Hexadecimal.character? [a, b, c, d, e, f, g, h]) (quoted? rest)
  | '\\' :: c :: rest => do withChar (← escaped? c) (quoted? rest)
  | c :: rest => if isPlain c && c ≠ '\\' then withChar c (quoted? rest) else none

def literal? : List Char → Option (List Char × List Char)
  | [] => none
  | '\'' :: rest => some ([], rest)
  | c :: rest => if isPlain c then withChar c (literal? rest) else none

def isLineEnd (text : List Char) : Bool :=
  match text.dropWhile isBlank with
  | '\n' :: _ => true
  | '\r' :: '\n' :: _ => true
  | _ => false

/-- A text up to its three quotation marks; up to two more in front of them belong to the text. With
`joining` blanks and line breaks are left out, as they are after a line that ends with a backslash.
-/
def multilineQuoted? (joining : Bool) : List Char → Option (List Char × List Char)
  | [] => none
  | '"' :: '"' :: '"' :: '"' :: '"' :: rest => some (['"', '"'], rest)
  | '"' :: '"' :: '"' :: '"' :: rest => some (['"'], rest)
  | '"' :: '"' :: '"' :: rest => some ([], rest)
  | '\r' :: '\n' :: rest =>
    if joining then multilineQuoted? true rest else withChar '\n' (multilineQuoted? false rest)
  | '\n' :: rest =>
    if joining then multilineQuoted? true rest else withChar '\n' (multilineQuoted? false rest)
  | '\\' :: 'u' :: a :: b :: c :: d :: rest => do
    withChar (← Text.Hexadecimal.character? [a, b, c, d]) (multilineQuoted? false rest)
  | '\\' :: 'U' :: a :: b :: c :: d :: e :: f :: g :: h :: rest => do
    withChar (← Text.Hexadecimal.character? [a, b, c, d, e, f, g, h]) (multilineQuoted? false rest)
  | '\\' :: c :: rest =>
    if isLineEnd (c :: rest) then multilineQuoted? true (c :: rest)
    else do withChar (← escaped? c) (multilineQuoted? false rest)
  | c :: rest =>
    if joining && isBlank c then multilineQuoted? true rest
    else if isPlain c && c ≠ '\\' then withChar c (multilineQuoted? false rest)
    else none

/-- A text up to its three apostrophes; up to two more in front of them belong to the text. -/
def multilineLiteral? : List Char → Option (List Char × List Char)
  | [] => none
  | '\'' :: '\'' :: '\'' :: '\'' :: '\'' :: rest => some (['\'', '\''], rest)
  | '\'' :: '\'' :: '\'' :: '\'' :: rest => some (['\''], rest)
  | '\'' :: '\'' :: '\'' :: rest => some ([], rest)
  | '\r' :: '\n' :: rest => withChar '\n' (multilineLiteral? rest)
  | '\n' :: rest => withChar '\n' (multilineLiteral? rest)
  | c :: rest => if isPlain c then withChar c (multilineLiteral? rest) else none

/-- What comes after a line break at the beginning, if there is one. -/
def afterLineBreak : List Char → List Char
  | '\n' :: rest => rest
  | '\r' :: '\n' :: rest => rest
  | text => text

def lineText? : List Char → Option (List Char × List Char)
  | '"' :: rest => quoted? rest
  | '\'' :: rest => literal? rest
  | _ => none

def quotedText? : List Char → Option (List Char × List Char)
  | '"' :: '"' :: '"' :: rest => multilineQuoted? false (afterLineBreak rest)
  | '\'' :: '\'' :: '\'' :: rest => multilineLiteral? (afterLineBreak rest)
  | text => lineText? text

end ApiManual.Toml
