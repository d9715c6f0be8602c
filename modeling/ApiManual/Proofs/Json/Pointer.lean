import ApiManual.Json.Sorted
import ApiManual.Proofs.TypeNode.Position
import ApiManual.Proofs.UriPath.Segments
import ApiManual.Schema

/-!
JSON pointers in the form of URI fragments. A pointer is cut at its slashes, and each piece names a
member, or counts an item, of the value that the pieces before it lead to.
-/
namespace ApiManual.Json

/-- The value that one name of a pointer leads to. Items are counted in decimal, without zeros in
front. -/
def child? : Value → String → Option Value
  | .object members, name => members.lookup name
  | .array items, name => (items.zipIdx.find? fun item => toString item.2 = name).map (·.1)
  | _, _ => none

def atNames? (value : Value) (names : List String) : Option Value := names.foldlM child? value

def unescape : List Char → List Char
  | [] => []
  | '~' :: '0' :: rest => '~' :: unescape rest
  | '~' :: '1' :: rest => '/' :: unescape rest
  | c :: rest => c :: unescape rest

/-- The names of a pointer. After the number sign it is empty or begins with a slash. -/
def namesOf? (pointer : String) : Option (List String) :=
  match pointer.toList with
  | '#' :: text =>
    match Text.fields '/' text with
    | [] :: pieces => some (pieces.map fun piece => String.ofList (unescape piece))
    | _ => none
  | _ => none

/-- The part of a document that a pointer designates. -/
def atPointer? (document : Value) (pointer : String) : Option Value :=
  namesOf? pointer >>= document.atNames?

theorem atNames?_append (value : Value) (names names' : List String) :
    value.atNames? (names ++ names') = value.atNames? names >>= (·.atNames? names') :=
  List.foldlM_append

theorem lookup_putSorted {α : Type} (name key : String) (value : α) (members : List (String × α)) :
    (putSorted name value members).lookup key =
      if key = name then some value else members.lookup key := by
  induction members with
  | nil => by_cases h : key = name <;> simp [putSorted, h]
  | cons member rest ih =>
    obtain ⟨other, old⟩ := member
    unfold putSorted
    split
    · rename_i hsame
      subst hsame
      by_cases h : key = name <;> simp [List.lookup_cons, beq_eq_decide, h]
    · rename_i hother
      split
      · by_cases h : key = name <;> simp [List.lookup_cons, beq_eq_decide, h]
      · rw [List.lookup_cons, ih, List.lookup_cons]
        by_cases h : key = other
        · simp [h, Ne.symm hother]
        · simp [beq_eq_decide, h]

theorem lookup_sorted {α : Type} (key : String) (members : List (String × α)) :
    (sorted members).lookup key = members.reverse.lookup key :=
  List.lookup_foldl_put (fun name value members key => lookup_putSorted name key value members)
    members key

theorem lookup_sorted_of_mem {α : Type} {members : List (String × α)} {key : String} {value : α}
    (nodup : (members.map (·.1)).Nodup) (h : (key, value) ∈ members) :
    (sorted members).lookup key = some value := by
  rw [lookup_sorted]
  apply List.lookup_eq_some_of_mem
  · rw [List.map_reverse]
    exact List.nodup_reverse.mpr nodup
  · exact List.mem_reverse.mpr h

def written (names : List String) : List Char :=
  names.flatMap fun name => '/' :: (Schema.escapeLabel name).toList

theorem unescape_cons_of_ne {c : Char} (h : c ≠ '~') (rest : List Char) :
    unescape (c :: rest) = c :: unescape rest := by
  simp [unescape, h]

theorem unescape_escapeLabel (name : String) :
    unescape (Schema.escapeLabel name).toList = name.toList := by
  rw [Schema.escapeLabel, String.toList_ofList]
  induction name.toList with
  | nil => rfl
  | cons c rest ih =>
    rw [List.flatMap_cons]
    split
    · rename_i htilde
      rw [List.cons_append, List.cons_append, List.nil_append, unescape, ih, htilde]
    · rename_i htilde
      split
      · rename_i hslash
        rw [List.cons_append, List.cons_append, List.nil_append, unescape, ih, hslash]
      · rw [List.singleton_append, unescape_cons_of_ne htilde, ih]

theorem slash_not_mem_escapeLabel (name : String) : '/' ∉ (Schema.escapeLabel name).toList := by
  rw [Schema.escapeLabel, String.toList_ofList, List.mem_flatMap]
  rintro ⟨c, -, hslash⟩
  split at hslash
  · simp at hslash
  · rename_i htilde
    split at hslash
    · simp at hslash
    · rename_i hne
      exact hne (List.mem_singleton.mp hslash).symm

/-- Escaped, a name has no slash, so that the pointer is cut right behind it. -/
theorem fields_written {piece : List Char} (h : '/' ∉ piece) (names : List String) :
    Text.fields '/' (piece ++ written names) =
      piece :: names.map fun name => (Schema.escapeLabel name).toList := by
  induction names generalizing piece with
  | nil =>
    rw [written, List.flatMap_nil, List.append_nil, Text.fields_of_not_mem h]
    rfl
  | cons name rest ih =>
    rw [written, List.flatMap_cons, List.cons_append, Text.fields_append_cons,
      Text.fields_of_not_mem h, ← written, ih (slash_not_mem_escapeLabel name)]
    rfl

theorem namesOf?_written (names : List String) :
    namesOf? ("#" ++ String.ofList (written names)) = some names := by
  have hfields := fields_written List.not_mem_nil names
  rw [List.nil_append] at hfields
  have hpointer : ("#" ++ String.ofList (written names)).toList = '#' :: written names := by
    have htext : (String.ofList (written names)).toList = written names := String.toList_ofList
    rw [String.toList_append, htext]
    rfl
  unfold namesOf?
  rw [hpointer]
  simp only [hfields, List.map_map, Option.some.injEq]
  conv_rhs => rw [← List.map_id names]
  apply List.map_congr_left
  intro name _
  rw [Function.comp_apply, unescape_escapeLabel, String.ofList_toList]
  rfl

theorem atPointer?_written (document : Value) (names : List String) :
    document.atPointer? ("#" ++ String.ofList (written names)) = document.atNames? names := by
  rw [atPointer?, namesOf?_written]
  rfl

end ApiManual.Json
