import ApiManual.Yaml
import ApiManual.Yaml.Scalar

/-!
YAML text in block style. The entries of a mapping stand on lines of their own, indented by two
spaces for each mapping around them; a sequence in a mapping is not indented further. A value that
begins right behind a dash, a question mark or a colon of its own line goes on in that line.
-/
namespace ApiManual.Yaml

/-- Where a value begins: behind a key and its colon, or behind a mark in the first column of a
level, so that its own first line goes on behind the mark. -/
inductive Place where
  | afterKey
  | afterMark
  deriving DecidableEq

def startLine (indent : Nat) (fresh : Bool) : List Char :=
  (if fresh then [] else ['\n']) ++ spaces indent

/-- The beginning of the first line of a value. Behind a mark it is on the line of the mark. -/
def startFirst (indent : Nat) : Place → List Char
  | .afterKey => startLine indent false
  | .afterMark => [' ']

/-- A key that is short and in one line stands before its value; any other one is marked. -/
def isPlainKey : Key → Bool
  | .text value => !hasBreak value.toList && value.utf8ByteSize ≤ 128
  | .number _ => true

def writeKey (indent : Nat) : Key → Written
  | .text value => writeText indent value
  | .number value => ⟨(toString value).toList, false⟩

def placeOf (key : Key) : Place := if isPlainKey key then .afterKey else .afterMark

def writeEntry (indent : Nat) (key : Key) (value : Written) : Written :=
  let name := writeKey (indent + 2) key
  if isPlainKey key then ⟨name.text ++ ':' :: value.text, value.fresh⟩
  else ⟨'?' :: ' ' :: name.text ++ startLine indent name.fresh ++ ':' :: value.text, value.fresh⟩

mutual

/-- A value below the indentation `indent`, and whether a new line has begun behind it. -/
def write (indent : Nat) (place : Place) : Yaml → Written
  | bool value => ⟨' ' :: (toString value).toList, false⟩
  | text value =>
    let written := writeText (indent + 2) value
    ⟨' ' :: written.text, written.fresh⟩
  | sequence [] => ⟨[' ', '[', ']'], false⟩
  | sequence (item :: rest) =>
    let inner := if place = .afterKey then indent else indent + 2
    let first := write inner .afterMark item
    let others := writeItems inner first.fresh rest
    ⟨startFirst inner place ++ '-' :: first.text ++ others.text, others.fresh⟩
  | mapping [] => ⟨[' ', '\x7b', '\x7d'], false⟩
  | mapping ((key, value) :: rest) =>
    let first := writeEntry (indent + 2) key (write (indent + 2) (placeOf key) value)
    let others := writeEntries (indent + 2) first.fresh rest
    ⟨startFirst (indent + 2) place ++ first.text ++ others.text, others.fresh⟩

def writeItems (indent : Nat) (fresh : Bool) : List Yaml → Written
  | [] => ⟨[], fresh⟩
  | item :: rest =>
    let first := write indent .afterMark item
    let others := writeItems indent first.fresh rest
    ⟨startLine indent fresh ++ '-' :: first.text ++ others.text, others.fresh⟩

def writeEntries (indent : Nat) (fresh : Bool) : List (Key × Yaml) → Written
  | [] => ⟨[], fresh⟩
  | (key, value) :: rest =>
    let first := writeEntry indent key (write indent (placeOf key) value)
    let others := writeEntries indent first.fresh rest
    ⟨startLine indent fresh ++ first.text ++ others.text, others.fresh⟩

end

def documentText (entries : List (Key × Yaml)) : List Char :=
  match entries with
  | [] => ['\x7b', '\x7d', '\n']
  | (key, value) :: rest =>
    let first := writeEntry 0 key (write 0 (placeOf key) value)
    let others := writeEntries 0 first.fresh rest
    first.text ++ others.text ++ if others.fresh then [] else ['\n']

end ApiManual.Yaml
