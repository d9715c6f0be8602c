import ApiManual.Proofs.Lookup
import ApiManual.Yaml

/-!
Reading a value. Names lead down from mapping to mapping; of entries with one key that are put into
a mapping, the last one is found there.
-/
namespace ApiManual.Yaml

theorem lookup_put (first : Key) (value : Yaml) (entries : List (Key × Yaml)) (key : Key) :
    (put first value entries).lookup key =
      if key = first then some value else entries.lookup key := by
  induction entries with
  | nil => exact List.lookup_cons_eq_ite first key value []
  | cons entry rest ih =>
    obtain ⟨other, old⟩ := entry
    rw [put, List.lookup_cons_eq_ite other]
    by_cases hother : other = first
    · rw [if_pos hother, List.lookup_cons_eq_ite, hother]
      split_ifs <;> rfl
    · rw [if_neg hother, List.lookup_cons_eq_ite, ih]
      by_cases hkey : key = first
      · rw [if_pos hkey, if_neg (hkey ▸ Ne.symm hother), if_pos hkey]
      · rw [if_neg hkey, if_neg hkey]

theorem lookup_collect (entries : List (Key × Yaml)) (key : Key) :
    (collect entries).lookup key = entries.reverse.lookup key :=
  List.lookup_foldl_put lookup_put entries key

/-- The value that a mapping has under a name. -/
def child? : Yaml → String → Option Yaml
  | mapping entries, name => entries.lookup (.text name)
  | _, _ => none

def atNames? (value : Yaml) (names : List String) : Option Yaml := names.foldlM child? value

def text? : Yaml → Option String
  | text value => some value
  | _ => none

def items : Yaml → List Yaml
  | sequence items => items
  | _ => []

/-- The items of the sequence that names lead to, if they lead to one. -/
def itemsAt (value : Yaml) (names : List String) : List Yaml := (value.atNames? names).elim [] items

def textsAt (value : Yaml) (names : List String) : List String :=
  (value.itemsAt names).filterMap text?

@[simp] theorem atNames?_nil (value : Yaml) : value.atNames? [] = some value := rfl

@[simp] theorem atNames?_cons (value : Yaml) (name : String) (names : List String) :
    value.atNames? (name :: names) = (value.child? name).bind (·.atNames? names) := rfl

theorem atNames?_append (value : Yaml) (names names' : List String) :
    value.atNames? (names ++ names') = (value.atNames? names).bind (·.atNames? names') :=
  List.foldlM_append

@[simp] theorem child?_ofEntries (entries : List (Key × Yaml)) (name : String) :
    (ofEntries entries).child? name = entries.reverse.lookup (.text name) :=
  lookup_collect entries _

@[simp] theorem textsAt_texts (values : List String) : (texts values).textsAt [] = values := by
  change (values.map text).filterMap text? = values
  rw [List.filterMap_map]
  exact List.filterMap_some

theorem textsAt_cons_of_some {value below : Yaml} {name : String}
    (h : value.child? name = some below) (names : List String) :
    value.textsAt (name :: names) = below.textsAt names := by
  rw [textsAt, itemsAt, atNames?_cons, h]
  rfl

theorem textsAt_cons_of_none {value : Yaml} {name : String} (h : value.child? name = none)
    (names : List String) : value.textsAt (name :: names) = [] := by
  rw [textsAt, itemsAt, atNames?_cons, h]
  rfl

end ApiManual.Yaml
