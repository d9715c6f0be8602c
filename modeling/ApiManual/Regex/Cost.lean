import ApiManual.Regex

/-! About how many bytes a machine for an expression takes. -/
namespace ApiManual

namespace Unicode.CharSet

/-- Whether a set can hold characters that are written with several bytes. -/
def mayBeWide : CharSet → Bool
  | ranges rs => rs.any fun (_, last) => 0x80 ≤ last
  | union a b => a.mayBeWide || b.mayBeWide
  | inter a b => a.mayBeWide && b.mayBeWide
  | diff a _ => a.mayBeWide
  | compl _ => true
  | folded a => a.mayBeWide

def cost : CharSet → Nat
  | ranges [(first, last)] =>
    if first = last then 32 * (Char.ofNat first).utf8Size else if last < 0x80 then 40 else 500
  | set => if set.mayBeWide then 500 + 16 * set.rangeCount else 32 + 8 * set.rangeCount

end Unicode.CharSet

namespace Regex

/-- Whether the expression is built from conditions and empty parts alone, so that it matches
nothing but the empty text. -/
def isNarrow : Regex → Bool
  | empty => true
  | look _ => true
  | one _ => false
  | seq r s => r.isNarrow && s.isNarrow
  | either r s => r.isNarrow && s.isNarrow
  | repeated _ most r => r.isNarrow || most = some 0

def cost : Regex → Nat
  | empty => 0
  | look _ => 32
  | one set => set.cost
  | seq r s => r.cost + s.cost
  | either r s => r.cost + s.cost + 16
  | repeated least most r =>
    match most with
    | none => max least 1 * r.cost + 40
    | some most => least * r.cost + (most - least) * (r.cost + 40)

def costLimit : Nat := 10 * Nat.pow 2 20

end Regex

end ApiManual
