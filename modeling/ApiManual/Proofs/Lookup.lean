import Mathlib.Data.List.Nodup

/-!
Looking up a key among entries. The first entry with the key counts; of entries that are put in one
after the other, each one in place of an earlier one with its key, it is the last.
-/
namespace List

variable {κ α : Type} [DecidableEq κ]

theorem lookup_eq_some_iff_mem {entries : List (κ × α)} {key : κ}
    (agree : ∀ value, (key, value) ∈ entries → ∀ value', (key, value') ∈ entries → value = value')
    {value : α} : entries.lookup key = some value ↔ (key, value) ∈ entries := by
  have hmem : ∀ {found}, entries.lookup key = some found → (key, found) ∈ entries := by
    intro found hfound
    obtain ⟨before, after, rfl, -⟩ := lookup_eq_some_iff.mp hfound
    exact mem_append_right _ mem_cons_self
  refine ⟨hmem, fun h => ?_⟩
  cases hfound : entries.lookup key with
  | none =>
    have hne := lookup_eq_none_iff.mp hfound _ h
    simp at hne
  | some found => rw [agree found (hmem hfound) value h]

theorem lookup_eq_some_of_mem {entries : List (κ × α)} {key : κ} {value : α}
    (nodup : (entries.map (·.1)).Nodup) (h : (key, value) ∈ entries) :
    entries.lookup key = some value := by
  refine (lookup_eq_some_iff_mem fun value hvalue value' hvalue' => ?_).mpr h
  exact congrArg Prod.snd (inj_on_of_nodup_map nodup hvalue hvalue' rfl)

theorem lookup_eq_none_of_not_mem {entries : List (κ × α)} {key : κ}
    (h : key ∉ entries.map (·.1)) : entries.lookup key = none := by
  refine lookup_eq_none_iff.mpr fun entry hentry => ?_
  rw [bne_iff_ne]
  rintro rfl
  exact h (mem_map_of_mem hentry)

theorem lookup_reverse_of_agree {entries : List (κ × α)} {key : κ}
    (agree : ∀ value, (key, value) ∈ entries → ∀ value', (key, value') ∈ entries → value = value') :
    entries.reverse.lookup key = entries.lookup key := by
  apply Option.ext
  intro value
  rw [lookup_eq_some_iff_mem agree, lookup_eq_some_iff_mem (by simpa using agree), mem_reverse]

theorem lookup_cons_eq_ite (first key : κ) (value : α) (rest : List (κ × α)) :
    ((first, value) :: rest).lookup key = if key = first then some value else rest.lookup key := by
  by_cases h : key = first
  · rw [h, lookup_cons_self, if_pos rfl]
  · rw [lookup_cons, beq_false_of_ne h, if_neg h]

theorem lookup_foldl_put {put : κ → α → List (κ × α) → List (κ × α)}
    (hput : ∀ first value entries key, (put first value entries).lookup key =
      if key = first then some value else entries.lookup key)
    (entries : List (κ × α)) (key : κ) :
    (entries.foldl (fun done (first, value) => put first value done) []).lookup key =
      entries.reverse.lookup key := by
  rw [← foldr_reverse]
  induction entries.reverse with
  | nil => rfl
  | cons entry earlier ih => rw [foldr_cons, hput, ih, ← lookup_cons_eq_ite]

theorem lookup_map {κ' β : Type} [DecidableEq κ'] {name : κ → κ'} (hname : Function.Injective name)
    (f : α → β) (entries : List (κ × α)) (key : κ) :
    (entries.map fun entry => (name entry.1, f entry.2)).lookup (name key) =
      (entries.lookup key).map f := by
  induction entries with
  | nil => rfl
  | cons entry rest ih =>
    obtain ⟨first, value⟩ := entry
    rw [map_cons, lookup_cons_eq_ite, lookup_cons_eq_ite, ih]
    by_cases h : key = first
    · rw [if_pos h, if_pos (congrArg name h), Option.map_some]
    · rw [if_neg h, if_neg (hname.ne h)]

end List
