/-!
YAML values. A mapping keeps the order in which its keys were first put into it.
-/
namespace ApiManual

inductive Yaml.Key where
  | text (value : String)
  | number (value : Nat)
  deriving DecidableEq, Repr, Inhabited

inductive Yaml where
  | bool (value : Bool)
  | text (value : String)
  | sequence (items : List Yaml)
  | mapping (entries : List (Yaml.Key × Yaml))
  deriving Inhabited

namespace Yaml

/-- Puts an entry at the end, or in place of the one with its key. -/
def put (key : Key) (value : Yaml) : List (Key × Yaml) → List (Key × Yaml)
  | [] => [(key, value)]
  | (other, old) :: rest =>
    if other = key then (key, value) :: rest else (other, old) :: put key value rest

def collect (entries : List (Key × Yaml)) : List (Key × Yaml) :=
  entries.foldl (fun done (key, value) => put key value done) []

def ofEntries (entries : List (Key × Yaml)) : Yaml := mapping (collect entries)

def texts (values : List String) : Yaml := sequence (values.map text)

end Yaml

end ApiManual
