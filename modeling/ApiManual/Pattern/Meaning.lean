import ApiManual.Pattern.Reader
import ApiManual.Regex.Cost

/-!
The expression that a pattern stands for. Without the Unicode flag only ASCII characters are known,
so whatever could match a part of another character is refused.
-/
namespace ApiManual.Pattern

open Unicode (CharSet)

structure Flags where
  ignoreCase : Bool := false
  multiLine : Bool := false
  dotMatchesNewLine : Bool := false
  unicode : Bool := true
  carriageReturn : Bool := false
  deriving DecidableEq, Repr

def Flags.set (flags : Flags) (flag : Flag) (on : Bool) : Flags :=
  match flag with
  | .ignoreCase => { flags with ignoreCase := on }
  | .multiLine => { flags with multiLine := on }
  | .dotMatchesNewLine => { flags with dotMatchesNewLine := on }
  | .unicode => { flags with unicode := on }
  | .carriageReturn => { flags with carriageReturn := on }
  | .swapGreed => flags
  | .verbose => flags

def Flags.apply (flags : Flags) (changes : FlagChanges) : Flags :=
  changes.foldl (fun flags (flag, on) => flags.set flag on) flags

def asciiSet : CharSet := .ranges [(0, 0x7F)]

def AsciiClass.set (kind : AsciiClass) : CharSet :=
  .ranges <| match kind with
    | .alnum => [(0x30, 0x39), (0x41, 0x5A), (0x61, 0x7A)]
    | .alpha => [(0x41, 0x5A), (0x61, 0x7A)]
    | .ascii => [(0, 0x7F)]
    | .blank => [(0x09, 0x09), (0x20, 0x20)]
    | .cntrl => [(0, 0x1F), (0x7F, 0x7F)]
    | .digit => [(0x30, 0x39)]
    | .graph => [(0x21, 0x7E)]
    | .lower => [(0x61, 0x7A)]
    | .print => [(0x20, 0x7E)]
    | .punct => [(0x21, 0x2F), (0x3A, 0x40), (0x5B, 0x60), (0x7B, 0x7E)]
    | .space => [(0x09, 0x0D), (0x20, 0x20)]
    | .upper => [(0x41, 0x5A)]
    | .word => [(0x30, 0x39), (0x41, 0x5A), (0x5F, 0x5F), (0x61, 0x7A)]
    | .xdigit => [(0x30, 0x39), (0x41, 0x46), (0x61, 0x66)]

def PerlClass.set (unicode : Bool) : PerlClass → CharSet
  | .digit => if unicode then Unicode.decimalDigits else AsciiClass.digit.set
  | .space => if unicode then Unicode.whiteSpace else AsciiClass.space.set
  | .word => if unicode then Unicode.wordCharacters else AsciiClass.word.set

/-- A set with all that is like its members but for case, if case is ignored. -/
def withCases (flags : Flags) (set : CharSet) : CharSet :=
  if flags.ignoreCase then
    if flags.unicode then .folded set else .inter (.folded set) asciiSet
  else set

/-- The complement of a set, which needs the Unicode flag. -/
def negate? (flags : Flags) (negated : Bool) (set : CharSet) : Option CharSet :=
  if negated then if flags.unicode then some (.compl set) else none else some set

def perlSet? (flags : Flags) (kind : PerlClass) (negated : Bool) : Option CharSet :=
  negate? flags negated (kind.set flags.unicode)

def propertySet? (flags : Flags) (property : Property) (negated : Bool) : Option CharSet := do
  if flags.unicode then
    let set ← match property with
      | .named name => Unicode.namedSet? name
      | .valued name value => Unicode.valuedSet? name value
    negate? flags negated (withCases flags set)
  else none

def setMember? (flags : Flags) (literal : Literal) : Option Char :=
  if flags.unicode || literal.char.toNat < 0x80 then some literal.char else none

mutual

def SetPattern.set? (flags : Flags) : SetPattern → Option CharSet
  | .literal l => (setMember? flags l).map CharSet.single
  | .range first last => do
    return .ranges [((← setMember? flags first).toNat, (← setMember? flags last).toNat)]
  | .ascii kind negated => negate? flags negated (withCases flags kind.set)
  | .perl kind negated => perlSet? flags kind negated
  | .property p negated => propertySet? flags p negated
  | .bracketed negated body => do
    negate? flags negated (withCases flags (← body.set? flags))
  | .union items => SetPattern.unionSet? flags items
  | .operation op left right => do
    let left := withCases flags (← left.set? flags)
    let right := withCases flags (← right.set? flags)
    return match op with
      | .intersection => .inter left right
      | .difference => .diff left right
      | .symmetricDifference => Unicode.symmetric left right

def SetPattern.unionSet? (flags : Flags) : List SetPattern → Option CharSet
  | [] => some CharSet.empty
  | item :: rest => do return .union (← item.set? flags) (← SetPattern.unionSet? flags rest)

end

def literalSet? (flags : Flags) (literal : Literal) : Option CharSet :=
  let c := literal.char
  if flags.unicode then some (withCases flags (CharSet.single c))
  else if literal.asByte && 0x80 ≤ c.toNat then none
  else if c.toNat < 0x80 then some (withCases flags (CharSet.single c))
  else some (CharSet.single c)

def dotSet? (flags : Flags) : Option CharSet :=
  if !flags.unicode then none
  else if flags.dotMatchesNewLine then some CharSet.all
  else if flags.carriageReturn then some (.compl (.ranges [(0x0A, 0x0A), (0x0D, 0x0D)]))
  else some (.compl (.ranges [(0x0A, 0x0A)]))

def Assertion.look (flags : Flags) : Assertion → Look
  | .lineStart => if flags.multiLine then .lineStart flags.carriageReturn else .textStart
  | .lineEnd => if flags.multiLine then .lineEnd flags.carriageReturn else .textEnd
  | .textStart => .textStart
  | .textEnd => .textEnd
  | .wordEdge => .word .edge flags.unicode
  | .wordInside => .word .inside flags.unicode
  | .wordStart => .word .start flags.unicode
  | .wordEnd => .word .finish flags.unicode
  | .wordStartHalf => .word .startHalf flags.unicode
  | .wordEndHalf => .word .finishHalf flags.unicode

/-- A repetition. What matches nothing but the empty text needs no second round. -/
def repetition (least : Nat) (most : Option Nat) (body : Regex) : Regex :=
  if body.isNarrow then .repeated (min least 1) (some (min (most.getD 1) 1)) body
  else .repeated least most body

mutual

def regex? (flags : Flags) : Pattern → Option (Regex × Flags)
  | .flags changes => some (.empty, flags.apply changes)
  | .literal l => (literalSet? flags l).map (.one ·, flags)
  | .dot => (dotSet? flags).map (.one ·, flags)
  | .assertion a => some (.look (a.look flags), flags)
  | .perl kind negated => (perlSet? flags kind negated).map (.one ·, flags)
  | .property p negated => (propertySet? flags p negated).map (.one ·, flags)
  | .bracketed negated body => do
    let set ← negate? flags negated (withCases flags (← body.set? flags))
    return (.one set, flags)
  | .repeated least most body => do
    let (body, flags) ← regex? flags body
    return (repetition least most body, flags)
  | .group changes body => do
    let (body, _) ← regex? (flags.apply changes) body
    return (body, flags)
  | .concatenation parts => sequence? flags parts
  | .alternation branches => choice? flags branches

def sequence? (flags : Flags) : List Pattern → Option (Regex × Flags)
  | [] => some (.empty, flags)
  | part :: rest => do
    let (first, flags) ← regex? flags part
    let (second, flags) ← sequence? flags rest
    return (.seq first second, flags)

def choice? (flags : Flags) : List Pattern → Option (Regex × Flags)
  | [] => some (.one CharSet.empty, flags)
  | branch :: rest => do
    let (first, flags) ← regex? flags branch
    let (second, flags) ← choice? flags rest
    return (.either first second, flags)

end

end ApiManual.Pattern
