import ApiManual.Pattern.Reader
import Mathlib.Data.Option.Basic

/-!
Groups of a pattern read one turn at a time. A turn reads what is next and does not depend on what
was read before.
-/
namespace ApiManual.Pattern

inductive Turn where
  /-- The text is over. -/
  | finished
  | closing
  | bar
  | flags (changes : FlagChanges)
  | group (changes : FlagChanges) (name : Option String)
  | part (part : Pattern)
  | again (least : Nat) (most : Option Nat)

def GroupStart.turn : GroupStart → Turn
  | flags changes => .flags changes
  | group changes => .group changes none
  | named name => .group [] (some name)

/-- The turn that a text begins with when there is nothing to skip. -/
def turnAt? (verbose : Bool) : List Char → Option (Turn × List Char)
  | [] => some (.finished, [])
  | ')' :: rest => some (.closing, rest)
  | '|' :: rest => some (.bar, rest)
  | '(' :: rest => (groupStart? verbose rest).map fun (start, rest) => (start.turn, rest)
  | '[' :: rest =>
    (set? verbose (2 * rest.length + 2) rest).bind fun (set, rest) =>
      match set with
      | .bracketed negated set => some (.part (bracketed negated set), rest)
      | _ => none
  | '?' :: rest => some (.again 0 (some 1), skipLazy rest)
  | '*' :: rest => some (.again 0 none, skipLazy rest)
  | '+' :: rest => some (.again 1 none, skipLazy rest)
  | '{' :: rest =>
    (counts? verbose rest).bind fun ((least, most), rest) =>
      some (.again least most, skipLazy (skip verbose rest))
  | text => (atom? verbose text).map fun (atom, rest) => (.part (ofAtom atom), rest)

def turn? (verbose : Bool) (text : List Char) : Option (Turn × List Char) :=
  turnAt? verbose (skip verbose text)

def follow (fuel : Nat) (reading : Reading) (done parts : List Pattern) (turn : Turn)
    (rest : List Char) : Option (Pattern × List String × List Char) :=
  match turn with
  | .finished => if reading.inside then none else some (branches done parts, reading.names, [])
  | .closing => if reading.inside then some (branches done parts, reading.names, rest) else none
  | .bar => body? fuel reading (branch parts :: done) [] rest
  | .flags changes =>
    body? fuel { reading with verbose := verboseAfter changes reading.verbose } done
      (flags changes :: parts) rest
  | .group changes name =>
    if name.any reading.names.contains then none
    else
      (body? fuel ⟨true, verboseAfter changes reading.verbose, name.toList ++ reading.names⟩ [] []
        rest).bind fun (body, names, rest) =>
          body? fuel { reading with names } done (group changes body :: parts) rest
  | .part part => body? fuel reading done (part :: parts) rest
  | .again least most =>
    (repeatLast? least most parts).bind fun parts => body? fuel reading done parts rest

theorem body?_succ (fuel : Nat) (reading : Reading) (done parts : List Pattern)
    (text : List Char) :
    body? (fuel + 1) reading done parts text =
      (turn? reading.verbose text).bind fun (turn, rest) =>
        follow fuel reading done parts turn rest := by
  rw [body?, turn?]
  generalize skip reading.verbose text = text
  split <;> simp only [turnAt?]
  · rfl
  · rfl
  · rfl
  · rename_i rest
    cases hstart : groupStart? reading.verbose rest with
    | none => rfl
    | some found =>
      obtain ⟨start, rest⟩ := found
      cases start with
      | flags changes => rfl
      | group changes => rfl
      | named name =>
        simp only [follow, GroupStart.turn]
        rfl
  · rename_i rest
    cases set? reading.verbose (2 * rest.length + 2) rest with
    | none => rfl
    | some found =>
      obtain ⟨set, rest⟩ := found
      cases set <;> rfl
  · rfl
  · rfl
  · rfl
  · rename_i rest
    cases counts? reading.verbose rest <;> rfl
  · rename_i text _ _ _ _ _ _ _ _ _ _
    cases atom? reading.verbose text <;> rfl

end ApiManual.Pattern
