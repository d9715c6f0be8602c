/-!
Patterns as they are written: regular expressions before the flags in them are applied and the names
of character classes are looked up.
-/
namespace ApiManual

namespace Pattern

/-- A character, and whether it was written as a byte, by two hexadecimal digits. -/
structure Literal where
  char : Char
  asByte : Bool := false
  deriving DecidableEq, Repr

inductive Flag where
  | ignoreCase
  | multiLine
  | dotMatchesNewLine
  | swapGreed
  | unicode
  | carriageReturn
  | verbose
  deriving DecidableEq, Repr

abbrev FlagChanges := List (Flag × Bool)

inductive PerlClass where
  | digit
  | space
  | word
  deriving DecidableEq, Repr

inductive AsciiClass where
  | alnum | alpha | ascii | blank | cntrl | digit | graph | lower | print | punct | space | upper
  | word | xdigit
  deriving DecidableEq, Repr

inductive Property where
  | named (name : String)
  | valued (property value : String)
  deriving DecidableEq, Repr

inductive SetOperation where
  | intersection
  | difference
  | symmetricDifference
  deriving DecidableEq, Repr

inductive SetPattern where
  | literal (literal : Literal)
  | range (first last : Literal)
  | ascii (kind : AsciiClass) (negated : Bool)
  | perl (kind : PerlClass) (negated : Bool)
  | property (property : Property) (negated : Bool)
  | bracketed (negated : Bool) (body : SetPattern)
  | union (items : List SetPattern)
  | operation (operation : SetOperation) (left right : SetPattern)
  deriving Repr, Inhabited

inductive Assertion where
  | lineStart
  | lineEnd
  | textStart
  | textEnd
  | wordEdge
  | wordInside
  | wordStart
  | wordEnd
  | wordStartHalf
  | wordEndHalf
  deriving DecidableEq, Repr

end Pattern

open Pattern in
inductive Pattern where
  | flags (changes : FlagChanges)
  | literal (literal : Literal)
  | dot
  | assertion (assertion : Assertion)
  | perl (kind : PerlClass) (negated : Bool)
  | property (property : Property) (negated : Bool)
  | bracketed (negated : Bool) (body : SetPattern)
  | repeated (least : Nat) (most : Option Nat) (body : Pattern)
  | group (changes : FlagChanges) (body : Pattern)
  | concatenation (parts : List Pattern)
  | alternation (branches : List Pattern)
  deriving Repr, Inhabited

namespace Pattern

mutual

def SetPattern.nesting : SetPattern → Nat
  | .bracketed _ body => body.nesting + 1
  | .union [] => 0
  | .union items => SetPattern.nestingOf items + 1
  | .operation _ left right => max left.nesting right.nesting + 1
  | _ => 0

def SetPattern.nestingOf : List SetPattern → Nat
  | [] => 0
  | item :: rest => max item.nesting (SetPattern.nestingOf rest)

end

mutual

def nesting : Pattern → Nat
  | bracketed _ body => body.nesting + 1
  | repeated _ _ body => body.nesting + 1
  | group _ body => body.nesting + 1
  | concatenation [] => 0
  | concatenation parts => nestingOf parts + 1
  | alternation branches => nestingOf branches + 1
  | _ => 0

def nestingOf : List Pattern → Nat
  | [] => 0
  | part :: rest => max part.nesting (nestingOf rest)

end

end Pattern

end ApiManual
