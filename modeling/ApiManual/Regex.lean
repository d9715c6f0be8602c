import ApiManual.Distinct
import ApiManual.Unicode.Class

/-!
Regular expressions and where their matches end. `Matches` says which parts of a text an expression
matches, given what stands around them; `ends` finds the ends of all matches that begin at a place.
-/
namespace ApiManual

inductive WordEdge where
  | edge
  | inside
  | start
  | finish
  | startHalf
  | finishHalf
  deriving DecidableEq, Repr

/-- A condition on a place in a text. -/
inductive Look where
  | textStart
  | textEnd
  /-- The beginning of a line; lines may also end with a carriage return. -/
  | lineStart (carriageReturn : Bool)
  | lineEnd (carriageReturn : Bool)
  | word (kind : WordEdge) (unicode : Bool)
  deriving DecidableEq, Repr

namespace Look

def isAsciiWord (c : Char) : Bool := c.isAlphanum || c = '_'

def isWord (unicode : Bool) (c : Option Char) : Bool :=
  match c with
  | none => false
  | some c => if unicode then Unicode.wordCharacters.hasChar c else isAsciiWord c

def holds (look : Look) (previous next : Option Char) : Bool :=
  match look with
  | textStart => previous.isNone
  | textEnd => next.isNone
  | lineStart false => previous.isNone || previous = some '\n'
  | lineStart true =>
    previous.isNone || previous = some '\n' || (previous = some '\r' && next ≠ some '\n')
  | lineEnd false => next.isNone || next = some '\n'
  | lineEnd true =>
    next.isNone || next = some '\r' || (next = some '\n' && previous ≠ some '\r')
  | word kind unicode =>
    let before := isWord unicode previous
    let after := isWord unicode next
    match kind with
    | .edge => before != after
    | .inside => before == after
    | .start => !before && after
    | .finish => before && !after
    | .startHalf => !before
    | .finishHalf => !after

end Look

inductive Regex where
  | empty
  | look (condition : Look)
  | one (set : Unicode.CharSet)
  | seq (first second : Regex)
  | either (first second : Regex)
  | repeated (least : Nat) (most : Option Nat) (body : Regex)
  deriving DecidableEq, Repr

namespace Regex

/-- A place in a text: the character before it and all that comes after it. -/
structure Place where
  previous : Option Char
  rest : List Char
  deriving DecidableEq, Repr

def Place.behind (place : Place) : List Char → Option Char
  | [] => place.previous
  | c :: word => Place.behind ⟨some c, place.rest⟩ word

mutual

/-- `Matches r place word rest`: at a place where `word ++ rest` follows, `r` matches `word`. -/
inductive Matches : Regex → Option Char → List Char → List Char → Prop
  | empty {previous rest} : Matches .empty previous [] rest
  | look {condition previous rest} (h : condition.holds previous rest.head? = true) :
    Matches (.look condition) previous [] rest
  | one {set previous c rest} (h : set.hasChar c = true) : Matches (.one set) previous [c] rest
  | seq {r s previous u v rest} (hr : Matches r previous u (v ++ rest))
      (hs : Matches s (Place.behind ⟨previous, []⟩ u) v rest) :
    Matches (.seq r s) previous (u ++ v) rest
  | first {r s previous u rest} (h : Matches r previous u rest) :
    Matches (.either r s) previous u rest
  | second {r s previous u rest} (h : Matches s previous u rest) :
    Matches (.either r s) previous u rest
  | repeated {r least most count previous u rest} (hleast : least ≤ count)
      (hmost : ∀ m, most = some m → count ≤ m) (h : MatchesTimes r count previous u rest) :
    Matches (.repeated least most r) previous u rest

inductive MatchesTimes : Regex → Nat → Option Char → List Char → List Char → Prop
  | none {r previous rest} : MatchesTimes r 0 previous [] rest
  | more {r count previous u v rest} (hr : Matches r previous u (v ++ rest))
      (hs : MatchesTimes r count (Place.behind ⟨previous, []⟩ u) v rest) :
    MatchesTimes r (count + 1) previous (u ++ v) rest

end

def times {α : Type} (f : α → α) : Nat → α → α
  | 0, x => x
  | n + 1, x => times f n (f x)

/-- The ends of all matches that begin at a place. A round of a repetition that matches nothing
leads nowhere new, so no more rounds are optional than characters are left. -/
def ends : Regex → Place → List Place
  | empty, place => [place]
  | look condition, place => if condition.holds place.previous place.rest.head? then [place] else []
  | one set, place =>
    match place.rest with
    | [] => []
    | c :: rest => if set.hasChar c then [⟨some c, rest⟩] else []
  | seq r s, place => distinct ((r.ends place).flatMap s.ends)
  | either r s, place => distinct (r.ends place ++ s.ends place)
  | repeated least most r, place =>
    let round := fun places => distinct (places.flatMap r.ends)
    let begun := times round least [place]
    let rounds := (most.map (· - least)).elim place.rest.length (min place.rest.length)
    times (fun places => addNew places (places.flatMap r.ends)) rounds begun

def placesFrom (previous : Option Char) : List Char → List Place
  | [] => [⟨previous, []⟩]
  | c :: rest => ⟨previous, c :: rest⟩ :: placesFrom (some c) rest

def matchesIn (r : Regex) (text : List Char) : Bool :=
  (placesFrom none text).any fun place => !(r.ends place).isEmpty

end Regex

end ApiManual
