/-! Decimal literals, exactly: which ones fall within the range of double precision. -/
namespace ApiManual.Text

structure Decimal where
  significand : Nat
  exponent : Int
  deriving DecidableEq, Repr

namespace Decimal

def isDigit (c : Char) : Bool := '0' ≤ c && c ≤ '9'

def natOfDigits (digits : List Char) : Nat :=
  digits.foldl (fun n c => 10 * n + (c.toNat - '0'.toNat)) 0

def exponentOf? (text : List Char) : Option Int :=
  match text with
  | [] => some 0
  | mark :: rest =>
    if mark = 'e' || mark = 'E' then
      let (negative, digits) := match rest with
        | '-' :: digits => (true, digits)
        | '+' :: digits => (false, digits)
        | digits => (false, digits)
      if digits.isEmpty || !digits.all isDigit then none
      else some (if negative then -(natOfDigits digits : Int) else natOfDigits digits)
    else none

/-- An optional sign, digits with at most one point among or beside them, and an exponent. -/
def ofChars? (text : List Char) : Option Decimal :=
  let unsigned := match text with
    | '-' :: rest => rest
    | '+' :: rest => rest
    | rest => rest
  let whole := unsigned.takeWhile isDigit
  let afterWhole := unsigned.dropWhile isDigit
  let (fraction, afterFraction) := match afterWhole with
    | '.' :: rest => (rest.takeWhile isDigit, rest.dropWhile isDigit)
    | rest => ([], rest)
  if whole.isEmpty && fraction.isEmpty then none
  else (exponentOf? afterFraction).map fun exponent =>
    ⟨natOfDigits (whole ++ fraction), exponent - fraction.length⟩

/-- Half a unit above the largest double: the least value that is rounded to infinity. -/
def overflowBound : Nat := Nat.pow 2 1024 - Nat.pow 2 970

/-- Whether the nearest double is finite. The number of digits decides all but the border. -/
def isFinite (d : Decimal) : Bool :=
  if d.significand = 0 then true
  else
    let magnitude : Int := (Nat.toDigits 10 d.significand).length + d.exponent
    if magnitude > 310 then false
    else if magnitude < 300 then true
    else if d.exponent ≥ 0 then d.significand * Nat.pow 10 d.exponent.toNat < overflowBound
    else d.significand < overflowBound * Nat.pow 10 (-d.exponent).toNat

end Decimal

end ApiManual.Text
