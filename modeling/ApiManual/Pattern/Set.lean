import ApiManual.Pattern.Atom

/-! Reading what stands between square brackets. -/
namespace ApiManual.Pattern

def asciiClass? : String → Option AsciiClass
  | "alnum" => some .alnum
  | "alpha" => some .alpha
  | "ascii" => some .ascii
  | "blank" => some .blank
  | "cntrl" => some .cntrl
  | "digit" => some .digit
  | "graph" => some .graph
  | "lower" => some .lower
  | "print" => some .print
  | "punct" => some .punct
  | "space" => some .space
  | "upper" => some .upper
  | "word" => some .word
  | "xdigit" => some .xdigit
  | _ => none

/-- A class such as `[:alpha:]`, after its bracket. Anything else is no class but a set in a set. -/
def asciiSet? (text : List Char) : Option (SetPattern × List Char) := do
  match text with
  | ':' :: rest =>
    let (negated, rest) := match rest with
      | '^' :: rest => (true, rest)
      | rest => (false, rest)
    let kind ← asciiClass? (String.ofList (rest.takeWhile (· ≠ ':')))
    match rest.dropWhile (· ≠ ':') with
    | ':' :: ']' :: rest => return (.ascii kind negated, rest)
    | _ => none
  | _ => none

def SetPattern.ofAtom? : Atom → Option SetPattern
  | .literal l => some (.literal l)
  | .perl kind negated => some (.perl kind negated)
  | .property p negated => some (.property p negated)
  | _ => none

def setAtom? (verbose : Bool) (text : List Char) : Option (Atom × List Char) :=
  match text with
  | [] => none
  | '\\' :: rest => escape? verbose rest
  | c :: rest => some (.literal ⟨c, false⟩, rest)

/-- The character that decides what a hyphen means: the next one, in verbose mode the next one that
is no blank, where a number sign is passed over once. -/
def afterHyphen? (verbose : Bool) (text : List Char) : Option Char :=
  if verbose then
    let next := match text.dropWhile Text.isBlank with
      | '#' :: rest => (rest.dropWhile Text.isBlank).head?
      | rest => rest.head?
    next <|> text.head?
  else text.head?

def rangeOrItem? (verbose : Bool) (text : List Char) : Option (SetPattern × List Char) := do
  let (first, rest) ← setAtom? verbose text
  match skip verbose rest with
  | [] => none
  | '-' :: rest =>
    let next := afterHyphen? verbose rest
    if next = some ']' || next = some '-' then
      return (← SetPattern.ofAtom? first, '-' :: rest)
    else
      let (last, rest) ← setAtom? verbose (skip verbose rest)
      match first, last with
      | .literal first, .literal last =>
        if first.char ≤ last.char then return (.range first last, rest) else none
      | _, _ => none
  | rest => return (← SetPattern.ofAtom? first, rest)

/-- The hyphens at the beginning of a set, which stand for themselves. The fuel is the length of the
text. -/
def leadingHyphens (verbose : Bool) : Nat → List Char → List SetPattern × List Char
  | fuel + 1, '-' :: rest =>
    let (items, rest) := leadingHyphens verbose fuel (skip verbose rest)
    (.literal ⟨'-', false⟩ :: items, rest)
  | _, text => ([], text)

def operand (pending : Option (SetPattern × SetOperation)) (items : List SetPattern) : SetPattern :=
  let item := match items with
    | [item] => item
    | items => .union items.reverse
  match pending with
  | none => item
  | some (left, operation) => .operation operation left item

def setStart (verbose : Bool) (text : List Char) : Bool × List SetPattern × List Char :=
  let (negated, text) := match skip verbose text with
    | '^' :: rest => (true, skip verbose rest)
    | text => (false, text)
  match leadingHyphens verbose (text.length + 1) text with
  | ([], ']' :: rest) => (negated, [.literal ⟨']', false⟩], skip verbose rest)
  | (items, rest) => (negated, items.reverse, rest)

mutual

/-- A set after its opening bracket. The fuel bounds the number of items. -/
def set? (verbose : Bool) : Nat → List Char → Option (SetPattern × List Char)
  | 0, _ => none
  | fuel + 1, text => do
    let (negated, items, text) := setStart verbose text
    let (body, rest) ← setItems? verbose fuel none items text
    return (.bracketed negated body, rest)

def setItems? (verbose : Bool) : Nat → Option (SetPattern × SetOperation) → List SetPattern →
    List Char → Option (SetPattern × List Char)
  | 0, _, _, _ => none
  | fuel + 1, pending, items, text => do
    let operate := fun (operation : SetOperation) (rest : List Char) =>
      setItems? verbose fuel (some (operand pending items, operation)) [] rest
    match skip verbose text with
    | [] => none
    | '[' :: rest =>
      match asciiSet? rest with
      | some (item, rest) => setItems? verbose fuel pending (item :: items) rest
      | none =>
        let (item, rest) ← set? verbose fuel rest
        setItems? verbose fuel pending (item :: items) rest
    | ']' :: rest => return (operand pending items, rest)
    | '&' :: '&' :: rest => operate .intersection rest
    | '-' :: '-' :: rest => operate .difference rest
    | '~' :: '~' :: rest => operate .symmetricDifference rest
    | text =>
      let (item, rest) ← rangeOrItem? verbose text
      setItems? verbose fuel pending (item :: items) rest

end

end ApiManual.Pattern
