import ApiManual.Pattern.Set

/-! Reading a whole pattern. -/
namespace ApiManual.Pattern

def flagOf? : Char → Option Flag
  | 'i' => some .ignoreCase
  | 'm' => some .multiLine
  | 's' => some .dotMatchesNewLine
  | 'U' => some .swapGreed
  | 'u' => some .unicode
  | 'R' => some .carriageReturn
  | 'x' => some .verbose
  | _ => none

/-- Flags up to a colon or a closing parenthesis: each at most once, and at most one hyphen, which
switches off the flags behind it and is not the last. The first part of the result holds the flags
read so far, the last one first. -/
def flags? (on : Bool) (hyphenLast : Bool) (changes : FlagChanges) :
    List Char → Option (FlagChanges × List Char)
  | [] => none
  | c :: rest =>
    if c = ':' || c = ')' then if hyphenLast then none else some (changes.reverse, c :: rest)
    else if c = '-' then if on then flags? false true changes rest else none
    else do
      let flag ← flagOf? c
      if changes.any (·.1 = flag) then none
      else flags? on false ((flag, on) :: changes) rest

def isGroupName : List Char → Bool
  | [] => false
  | c :: rest =>
    (c = '_' || Unicode.isAlphabetic c) && rest.all fun c =>
      c = '_' || c = '.' || c = '[' || c = ']' || Unicode.isAlphanumeric c

inductive GroupStart where
  /-- Flags for the rest of the group around them. -/
  | flags (changes : FlagChanges)
  | group (changes : FlagChanges)
  | named (name : String)

/-- What an opening parenthesis begins. Conditions on what stands before or behind are refused. -/
def groupStart? (verbose : Bool) (text : List Char) : Option (GroupStart × List Char) := do
  let text := skip verbose text
  let named := fun (text : List Char) =>
    let name := text.takeWhile (· ≠ '>')
    match text.dropWhile (· ≠ '>') with
    | '>' :: rest =>
      if isGroupName name then some (GroupStart.named (String.ofList name), rest) else none
    | _ => none
  match text with
  | '?' :: 'P' :: '<' :: rest => named rest
  | '?' :: '<' :: rest =>
    if rest.head? = some '=' || rest.head? = some '!' then none else named rest
  | '?' :: rest =>
    let (changes, rest) ← flags? true false [] rest
    match rest with
    | ')' :: rest => if changes.isEmpty then none else return (.flags changes, rest)
    | ':' :: rest => return (.group changes, rest)
    | _ => none
  | text => return (.group [], text)

/-- Whether blanks are skipped once flags have been switched. -/
def verboseAfter (changes : FlagChanges) (verbose : Bool) : Bool :=
  (changes.lookup .verbose).getD verbose

def branch : List Pattern → Pattern
  | [part] => part
  | parts => concatenation parts.reverse

def branches (done : List Pattern) (parts : List Pattern) : Pattern :=
  match done with
  | [] => branch parts
  | done => alternation (branch parts :: done).reverse

def ofAtom : Atom → Pattern
  | .literal l => literal l
  | .dot => dot
  | .assertion kind => assertion kind
  | .perl kind negated => perl kind negated
  | .property p negated => property p negated

/-- The last part of a branch repeated. Flags and the beginning of a branch cannot be. -/
def repeatLast? (least : Nat) (most : Option Nat) : List Pattern → Option (List Pattern)
  | [] => none
  | flags _ :: _ => none
  | part :: parts => some (repeated least most part :: parts)

def skipLazy : List Char → List Char
  | '?' :: rest => rest
  | text => text

/-- What a reader of a group knows: whether it is inside one, whether blanks are skipped, and the
names that were given to groups. -/
structure Reading where
  inside : Bool
  verbose : Bool
  names : List String

/-- A group up to its closing parenthesis, or the whole pattern; with the names given until then.
The fuel bounds the number of parts. -/
def body? : Nat → Reading → List Pattern → List Pattern → List Char →
    Option (Pattern × List String × List Char)
  | 0, _, _, _, _ => none
  | fuel + 1, reading, done, parts, text => do
    let verbose := reading.verbose
    let repeatWith := fun (least : Nat) (most : Option Nat) (rest : List Char) => do
      body? fuel reading done (← repeatLast? least most parts) (skipLazy rest)
    match skip verbose text with
    | [] => if reading.inside then none else return (branches done parts, reading.names, [])
    | ')' :: rest =>
      if reading.inside then return (branches done parts, reading.names, rest) else none
    | '|' :: rest => body? fuel reading (branch parts :: done) [] rest
    | '(' :: rest =>
      let (start, rest) ← groupStart? verbose rest
      let inner := fun (changes : FlagChanges) (names : List String) => do
        let inside := { inside := true, verbose := verboseAfter changes verbose, names := names }
        let (body, names, rest) ← body? fuel inside [] [] rest
        body? fuel { reading with names } done (group changes body :: parts) rest
      match start with
      | .flags changes =>
        body? fuel { reading with verbose := verboseAfter changes verbose } done
          (flags changes :: parts) rest
      | .group changes => inner changes reading.names
      | .named name =>
        if reading.names.contains name then none else inner [] (name :: reading.names)
    | '[' :: rest =>
      let (set, rest) ← set? verbose (2 * rest.length + 2) rest
      match set with
      | .bracketed negated set => body? fuel reading done (bracketed negated set :: parts) rest
      | _ => none
    | '?' :: rest => repeatWith 0 (some 1) rest
    | '*' :: rest => repeatWith 0 none rest
    | '+' :: rest => repeatWith 1 none rest
    | '{' :: rest =>
      let ((least, most), rest) ← counts? verbose rest
      repeatWith least most (skip verbose rest)
    | text =>
      let (atom, rest) ← atom? verbose text
      body? fuel reading done (ofAtom atom :: parts) rest

def nestingLimit : Nat := 250

def ofChars? (text : List Char) : Option Pattern := do
  let (pattern, _, _) ← body? (text.length + 1) ⟨false, false, []⟩ [] [] text
  if pattern.nesting ≤ nestingLimit then some pattern else none

end ApiManual.Pattern
