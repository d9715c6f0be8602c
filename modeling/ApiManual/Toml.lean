/-!
TOML documents, as far as settings need them: texts, lists and tables, and how the tables of a
document are put together. Other values are not told apart, and there are no lists of tables with
headers of their own.
-/
namespace ApiManual

inductive Toml.TableKind where
  | header
  | innerHeader
  | dottedKey
  | braces
  deriving DecidableEq, Repr

inductive Toml where
  | string (value : String)
  /-- A number, a date, a time or a truth value. -/
  | other
  | list (items : List Toml)
  | table (kind : Toml.TableKind) (entries : List (String × Toml))
  deriving Inhabited

namespace Toml

abbrev Entries := List (String × Toml)

def replace (key : String) (value : Toml) (entries : Entries) : Entries :=
  entries.map fun entry => if entry.1 = key then (key, value) else entry

/-- Adds an entry under a dotted key, of which `path` holds all parts but the last. A key is given
only once; a dotted key leads only through tables that dotted keys made, or through the outer tables
of a header to such a table. -/
def assign (entries : Entries) (path : List String) (key : String) (value : Toml) :
    Option Entries :=
  match path with
  | [] =>
    match entries.lookup key with
    | none => some (entries ++ [(key, value)])
    | some _ => none
  | name :: rest =>
    match entries.lookup name with
    | none => do return entries ++ [(name, .table .dottedKey (← assign [] rest key value))]
    | some (.table kind inner) =>
      if kind = .dottedKey || (kind = .innerHeader && !rest.isEmpty) then do
        return replace name (.table kind (← assign inner rest key value)) entries
      else none
    | some _ => none

def openTable (entries : Entries) (path : List String) : Option Entries :=
  match path with
  | [] => none
  | [key] =>
    match entries.lookup key with
    | none => some (entries ++ [(key, .table .header [])])
    | some (.table .innerHeader inner) => some (replace key (.table .header inner) entries)
    | some _ => none
  | name :: rest =>
    match entries.lookup name with
    | none => do return entries ++ [(name, .table .innerHeader (← openTable [] rest))]
    | some (.table kind inner) =>
      if kind = .braces then none
      else do return replace name (.table kind (← openTable inner rest)) entries
    | some _ => none

def assignIn (entries : Entries) (tablePath : List String) (path : List String) (key : String)
    (value : Toml) : Option Entries :=
  match tablePath with
  | [] => assign entries path key value
  | name :: rest =>
    match entries.lookup name with
    | some (.table kind inner) => do
      return replace name (.table kind (← assignIn inner rest path key value)) entries
    | _ => none

inductive Statement where
  | header (path : List String)
  | entry (path : List String) (key : String) (value : Toml)

structure Progress where
  entries : Entries := []
  current : List String := []

def Progress.step (progress : Progress) : Statement → Option Progress
  | .header path => do return ⟨← openTable progress.entries path, path⟩
  | .entry path key value => do
    return { progress with entries := ← assignIn progress.entries progress.current path key value }

def ofStatements? (statements : List Statement) : Option Entries :=
  (statements.foldlM Progress.step {}).map Progress.entries

/-- The table that is written in braces. -/
def ofPairs? (pairs : List (List String × String × Toml)) : Option Toml :=
  (pairs.foldlM (fun entries (path, key, value) => assign entries path key value)
    ([] : Entries)).map (.table .braces)

end Toml

end ApiManual
