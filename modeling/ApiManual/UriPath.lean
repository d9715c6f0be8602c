import ApiManual.Text.Blank
import ApiManual.Text.Fields

/-!
URI path templates such as `/widgets/{id:[0-9]+}`. A path in normal form starts with one slash, has
no empty segment and no slash at its end, and its tokens carry no constraints; the root is `/`.
-/
namespace ApiManual.UriPath

/-- Where a scan from left to right stands: in a literal, or in a token with `inner` more braces
open, before or behind the colon that begins its constraint. -/
inductive Scan where
  | literal
  | token (inner : Nat) (constrained : Bool)

/-- The text without the constraints of its tokens, from a place of the scan on. The braces of a
constraint balance, so `{id:[0-9]{3}}` is left as `{id}`. -/
def withoutConstraints : Scan → List Char → List Char
  | _, [] => []
  | .literal, c :: rest =>
    c :: withoutConstraints (if c = '{' then .token 0 false else .literal) rest
  | .token 0 constrained, c :: rest =>
    if c = '}' then c :: withoutConstraints .literal rest
    else if c = ':' then withoutConstraints (.token 0 true) rest
    else
      let next := withoutConstraints (.token (if c = '{' then 1 else 0) constrained) rest
      if constrained then next else c :: next
  | .token (inner + 1) constrained, c :: rest =>
    let depth := if c = '{' then inner + 2 else if c = '}' then inner else inner + 1
    let next := withoutConstraints (.token depth constrained) rest
    if constrained then next else c :: next

/-- The segments between slashes, the empty ones left out. -/
def segments (path : List Char) : List (List Char) :=
  (Text.fields '/' path).filter fun segment => !segment.isEmpty

def ofSegments (parts : List (List Char)) : List Char := '/' :: ['/'].intercalate parts

def normalForm (path : List Char) : List Char :=
  ofSegments (segments (withoutConstraints .literal path))

/-- The names of the tokens of a segment, trimmed, the blank ones left out. A token goes from an
opening brace to the next closing one; `pending` holds the name read so far, last character first.
-/
def tokenNames : Option (List Char) → List Char → List (List Char)
  | _, [] => []
  | none, c :: rest => tokenNames (if c = '{' then some [] else none) rest
  | some pending, c :: rest =>
    if c = '}' then
      let name := Text.trim pending.reverse
      if name.isEmpty then tokenNames none rest else name :: tokenNames none rest
    else tokenNames (some (c :: pending)) rest

def tokensFrom (first : Nat) : List (List Char) → List (List Char × Nat)
  | [] => []
  | segment :: rest =>
    (tokenNames none segment).map (·, first) ++ tokensFrom (first + 1) rest

def isBelow (parent path : List Char) : Bool :=
  if parent = ['/'] then path ≠ parent else (parent ++ ['/']).isPrefixOf path

def below (parent path : List Char) : List Char :=
  if parent = ['/'] then path
  else if parent.isPrefixOf path then path.drop parent.length else path

def normalize (path : String) : String := String.ofList (normalForm path.toList)

structure Token where
  name : String
  position : Nat
  deriving DecidableEq, Repr

def parameters (path : String) : List Token :=
  (tokensFrom 0 (segments path.toList)).map fun (name, position) =>
    ⟨String.ofList name, position⟩

def segmentCount (path : String) : Nat := (segments path.toList).length

/-- Whether `parent` is a proper initial part of the path, cut between segments. Both paths are in
normal form. -/
def isProperPrefix (parent path : String) : Bool := isBelow parent.toList path.toList

/-- The path as it is written below `parent`. Both are in normal form. -/
def relativeTo (parent path : String) : String := String.ofList (below parent.toList path.toList)

end ApiManual.UriPath
