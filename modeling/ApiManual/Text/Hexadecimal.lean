/-! Hexadecimal numbers, in upper or lower case. -/
namespace ApiManual.Text.Hexadecimal

def digit? (c : Char) : Option Nat :=
  if '0' ≤ c && c ≤ '9' then some (c.toNat - '0'.toNat)
  else if 'a' ≤ c && c ≤ 'f' then some (c.toNat - 'a'.toNat + 10)
  else if 'A' ≤ c && c ≤ 'F' then some (c.toNat - 'A'.toNat + 10)
  else none

def number? (digits : List Char) : Option Nat :=
  digits.foldlM (fun n c => (digit? c).map (16 * n + ·)) 0

def character? (digits : List Char) : Option Char := do
  let n ← number? digits
  if n.isValidChar then some (Char.ofNat n) else none

end ApiManual.Text.Hexadecimal
