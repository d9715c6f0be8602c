import ApiManual.Unicode.Folding

/-! Sets of characters, as they are put together. -/
namespace ApiManual.Unicode

/-- Ranges of code points, ends included. -/
abbrev Ranges := List (Nat × Nat)

inductive CharSet where
  | ranges (ranges : Ranges)
  | union (a b : CharSet)
  | inter (a b : CharSet)
  | diff (a b : CharSet)
  | compl (a : CharSet)
  /-- All that is like a member but for its case. -/
  | folded (a : CharSet)
  deriving DecidableEq, Repr

def fold (n : Nat) : Nat :=
  match foldingRuns.find? fun (first, last, step, _) =>
      first ≤ n && n ≤ last && (n - first) % step = 0 with
  | some (_, _, _, difference) => (n + difference).toNat
  | none => n

def alike (n : Nat) : List Nat :=
  let target := fold n
  target :: foldingRuns.filterMap fun (first, last, step, difference) =>
    let source := (target - difference).toNat
    if first ≤ source && source ≤ last && (source - first) % step = 0 then some source else none

namespace CharSet

def empty : CharSet := ranges []

def all : CharSet := ranges [(0, 0x10FFFF)]

def has : CharSet → Nat → Bool
  | ranges rs, n => rs.any fun (first, last) => first ≤ n && n ≤ last
  | union a b, n => a.has n || b.has n
  | inter a b, n => a.has n && b.has n
  | diff a b, n => a.has n && !b.has n
  | compl a, n => !a.has n
  | folded a, n => (alike n).any a.has

def hasChar (set : CharSet) (c : Char) : Bool := set.has c.toNat

def single (c : Char) : CharSet := ranges [(c.toNat, c.toNat)]

def unionAll (sets : List CharSet) : CharSet := sets.foldl union empty

def rangeCount : CharSet → Nat
  | ranges rs => rs.length
  | union a b => a.rangeCount + b.rangeCount
  | inter a b => a.rangeCount + b.rangeCount
  | diff a b => a.rangeCount + b.rangeCount
  | compl a => a.rangeCount + 1
  | folded a => 2 * a.rangeCount

end CharSet

def digitValue (c : Char) : Nat :=
  if c.isDigit then c.toNat - '0'.toNat else c.toNat - 'a'.toNat + 10

/-- Reads ranges such as `41-5a aa`: hexadecimal numbers, and pairs of them with a hyphen between.
Of the range that is being read, `first` is its beginning and `number` the number read so far. -/
def rangesOfChars (first number : Option Nat) : List Char → Ranges
  | [] => (number.map fun n => (first.getD n, n)).toList
  | c :: rest =>
    if c = ' ' || c = '\n' then
      (number.map fun n => (first.getD n, n)).toList ++ rangesOfChars none none rest
    else if c = '-' then rangesOfChars number none rest
    else rangesOfChars first (some (16 * number.getD 0 + digitValue c)) rest

def setOfText (text : String) : CharSet := .ranges (rangesOfChars none none text.toList)

end ApiManual.Unicode
