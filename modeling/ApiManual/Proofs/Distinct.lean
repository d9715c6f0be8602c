import ApiManual.Distinct
import Mathlib.Data.List.Basic
import Mathlib.Data.List.Nodup

/-!
Lists without repetitions keep the order of first occurrences, and by distinct keys any list falls
into parts that together hold each of its items as often as it does.
-/
namespace ApiManual

section

variable {α : Type} [DecidableEq α]

theorem distinct_filter (keep : α → Bool) (xs : List α) :
    distinct (xs.filter keep) = (distinct xs).filter keep := by
  induction xs with
  | nil => rfl
  | cons x rest ih =>
    by_cases hx : keep x = true
    · rw [List.filter_cons_of_pos hx, distinct, distinct, List.filter_cons_of_pos hx, ih,
        List.filter_comm]
    · rw [List.filter_cons_of_neg hx, distinct, List.filter_cons_of_neg hx, ih, List.filter_filter]
      -- an item that is left out takes no kept one with it
      apply List.filter_congr
      intro y _
      by_cases hy : keep y = true
      · have hne : y ≠ x := fun heq => hx (heq ▸ hy)
        simp [hy, hne]
      · simp [hy]

theorem distinct_append_singleton (xs : List α) (x : α) :
    distinct (xs ++ [x]) = if x ∈ xs then distinct xs else distinct xs ++ [x] := by
  induction xs with
  | nil => rfl
  | cons y rest ih =>
    rw [List.cons_append, distinct, distinct, ih]
    by_cases hmem : x ∈ rest
    · rw [if_pos hmem, if_pos (List.mem_cons_of_mem y hmem)]
    · rw [if_neg hmem, List.filter_append]
      by_cases heq : x = y
      · simp [heq]
      · have hnot : x ∉ y :: rest := by simp [heq, hmem]
        simp [hnot, heq]

theorem distinct_map_distinct {β : Type} [DecidableEq β] (f : α → β) (xs : List α) :
    distinct ((distinct xs).map f) = distinct (xs.map f) := by
  induction xs with
  | nil => rfl
  | cons x rest ih =>
    -- items that are equal to the first one have its value
    have hothers : (((distinct rest).filter (· ≠ x)).map f).filter (· ≠ f x) =
        ((distinct rest).map f).filter (· ≠ f x) := by
      rw [List.filter_map, List.filter_map, List.filter_filter]
      congr 1
      apply List.filter_congr
      intro y _
      by_cases h : y = x <;> simp [h]
    rw [distinct, List.map_cons, distinct, List.map_cons, distinct, ← ih, ← distinct_filter,
      hothers, distinct_filter]

theorem distinct_eq_self {xs : List α} (h : xs.Nodup) : distinct xs = xs := by
  induction xs with
  | nil => rfl
  | cons x rest ih =>
    obtain ⟨hnew, hrest⟩ := List.nodup_cons.mp h
    rw [distinct, ih hrest, List.filter_eq_self.mpr]
    intro y hy
    exact decide_eq_true fun heq => hnew (heq ▸ hy)

@[simp] theorem addNew_nil (xs : List α) : addNew xs [] = xs := by
  simp [addNew, distinct]

theorem distinct_append (xs ys : List α) : distinct (xs ++ ys) = addNew (distinct xs) ys := by
  induction xs with
  | nil => simp [addNew, distinct]
  | cons x rest ih =>
    rw [List.cons_append, distinct, distinct, ih, addNew, addNew, List.filter_append,
      List.cons_append, List.filter_filter]
    congr 2
    apply List.filter_congr
    intro y _
    by_cases heq : y = x <;> simp [heq]

theorem addNew_addNew (xs ys zs : List α) : addNew (addNew xs ys) zs = addNew xs (ys ++ zs) := by
  rw [addNew, addNew, addNew, distinct_append, addNew, List.filter_append, List.append_assoc,
    List.filter_filter]
  congr 2
  apply List.filter_congr
  intro z _
  by_cases hx : z ∈ xs <;> simp [hx]

theorem foldl_pushNew (xs ys : List α) : ys.foldl pushNew xs = addNew xs ys := by
  induction ys generalizing xs with
  | nil => rw [List.foldl_nil, addNew_nil]
  | cons y rest ih =>
    have hfirst : pushNew xs y = addNew xs [y] := by
      by_cases hy : y ∈ xs <;> simp [pushNew, addNew, distinct, hy]
    rw [List.foldl_cons, ih, hfirst, addNew_addNew, List.singleton_append]

theorem foldl_pushNew_nil (xs : List α) : xs.foldl pushNew [] = distinct xs := by
  simp [foldl_pushNew, addNew]

theorem distinct_flatMap_distinct {β : Type} (items : List β) (parts : β → List α) :
    distinct (items.flatMap fun item => distinct (parts item)) =
      distinct (items.flatMap parts) := by
  induction items with
  | nil => rfl
  | cons item rest ih =>
    rw [List.flatMap_cons, List.flatMap_cons, distinct_append, distinct_append, addNew, addNew, ih,
      distinct_eq_self (nodup_distinct _)]

theorem nodup_addNew_iff {xs ys : List α} : (addNew xs ys).Nodup ↔ xs.Nodup := by
  rw [addNew, List.nodup_append']
  refine ⟨fun h => h.1, fun h => ⟨h, (nodup_distinct ys).filter _, fun y hx hy => ?_⟩⟩
  have hnew := (List.mem_filter.mp hy).2
  simp [hx] at hnew

theorem pairwise_idxOf_distinct [BEq α] [LawfulBEq α] (xs : List α) :
    (distinct xs).Pairwise fun x y => xs.idxOf x < xs.idxOf y := by
  induction xs with
  | nil => exact List.Pairwise.nil
  | cons x rest ih =>
    unfold distinct
    rw [List.pairwise_cons]
    have hlater : ∀ y ∈ (distinct rest).filter (· ≠ x), (x :: rest).idxOf y = rest.idxOf y + 1 := by
      intro y hy
      have hne : y ≠ x := of_decide_eq_true (List.mem_filter.mp hy).2
      rw [List.idxOf_cons_ne rest hne.symm]
    constructor
    · intro y hy
      rw [hlater y hy, List.idxOf_cons_self]
      exact Nat.succ_pos _
    · refine (ih.filter _).imp_of_mem fun hy hz hlt => ?_
      rw [hlater _ hy, hlater _ hz]
      exact Nat.succ_lt_succ hlt

/-- The items are those that were seen, without repetitions, in the order in which they first
occur. -/
structure FirstSeen (seen items : List α) : Prop where
  nodup : items.Nodup
  mem_iff : ∀ x, x ∈ items ↔ x ∈ seen
  inOrder : items.Pairwise fun x y => seen.idxOf x < seen.idxOf y

theorem firstSeen_distinct (xs : List α) : FirstSeen xs (distinct xs) where
  nodup := nodup_distinct xs
  mem_iff _ := mem_distinct
  inOrder := pairwise_idxOf_distinct xs

end

section

variable {α κ : Type} (key : α → κ) (keep : κ → Bool) (items : List α)

theorem map_filter_key : (items.filter (keep <| key ·)).map key = (items.map key).filter keep := by
  rw [List.filter_map]
  rfl

theorem filter_filter_key [DecidableEq κ] {k : κ} (h : keep k = true) :
    (items.filter (keep <| key ·)).filter (key · = k) = items.filter (key · = k) := by
  rw [List.filter_filter]
  apply List.filter_congr
  intro item _
  by_cases heq : key item = k
  · simp [heq, h]
  · simp [heq]

end

theorem filter_flatMap_key {α β κ : Type} [DecidableEq κ] {group : α → κ} {items : α → List β}
    {key : β → κ} {groups : List α} (nodup : (groups.map group).Nodup)
    (keyed : ∀ x ∈ groups, ∀ item ∈ items x, key item = group x) {x : α} (hx : x ∈ groups) :
    ((groups.flatMap items).filter fun item => key item = group x) = items x := by
  induction groups with
  | nil => exact absurd hx List.not_mem_nil
  | cons first rest ih =>
    simp only [List.map_cons, List.nodup_cons] at nodup
    have hrest : ∀ y ∈ rest, ∀ item ∈ items y, key item = group y :=
      fun y hy => keyed y (List.mem_cons_of_mem first hy)
    have hfirst : ∀ item ∈ items first, key item = group first := keyed first List.mem_cons_self
    simp only [List.flatMap_cons, List.filter_append]
    rcases List.mem_cons.mp hx with rfl | hx
    · have hothers : ((rest.flatMap items).filter fun item => key item = group x) = [] := by
        rw [List.filter_eq_nil_iff]
        intro item hitem hkey
        obtain ⟨y, hy, hmem⟩ := List.mem_flatMap.mp hitem
        rw [hrest y hy item hmem, decide_eq_true_eq] at hkey
        exact nodup.1 (hkey ▸ List.mem_map_of_mem hy)
      rw [List.filter_eq_self.mpr fun item hitem => decide_eq_true (hfirst item hitem), hothers,
        List.append_nil]
    · have hothers : ((items first).filter fun item => key item = group x) = [] := by
        rw [List.filter_eq_nil_iff]
        intro item hitem hkey
        rw [hfirst item hitem, decide_eq_true_eq] at hkey
        exact nodup.1 (hkey ▸ List.mem_map_of_mem hx)
      rw [hothers, List.nil_append, ih nodup.2 hrest hx]

theorem filter_key_eq_singleton {α κ : Type} [DecidableEq κ] {key : α → κ} {items : List α}
    (nodup : (items.map key).Nodup) {item : α} (hitem : item ∈ items) :
    items.filter (key · = key item) = [item] := by
  have hgroup : ∀ other ∈ items, ∀ part ∈ [other], key part = key other :=
    fun _ _ _ hpart => congrArg key (List.mem_singleton.mp hpart)
  have hown := filter_flatMap_key nodup hgroup hitem
  rwa [List.flatMap_singleton'] at hown

theorem modify_findIdx?_key {α κ : Type} [DecidableEq κ] {key : α → κ} {items : List α}
    (nodup : (items.map key).Nodup) {k : κ} {position : Nat}
    (h : items.findIdx? (key · = k) = some position) (f : α → α) :
    items.modify position f = items.map fun item => if key item = k then f item else item := by
  induction items generalizing position with
  | nil => cases h
  | cons item rest ih =>
    obtain ⟨hnew, hrest⟩ := List.nodup_cons.mp nodup
    rw [List.findIdx?_cons] at h
    by_cases hkey : key item = k
    · rw [if_pos (decide_eq_true hkey)] at h
      obtain rfl := Option.some.inj h
      have hothers : rest.map (fun other => if key other = k then f other else other) = rest := by
        refine (List.map_congr_left fun other hother => if_neg fun heq => ?_).trans rest.map_id
        exact hnew (List.mem_map.mpr ⟨other, hother, heq.trans hkey.symm⟩)
      rw [List.modify_zero_cons, List.map_cons, if_pos hkey, hothers]
    · rw [if_neg (by simpa using hkey)] at h
      obtain ⟨position, hposition, rfl⟩ := Option.map_eq_some_iff.mp h
      rw [List.modify_succ_cons, List.map_cons, if_neg hkey, ih hrest hposition]

/-- An item does not come again once another one has come. -/
def Unbroken {α : Type} : List α → Prop
  | [] => True
  | x :: rest => (x ∈ rest → rest.head? = some x) ∧ Unbroken rest

instance Unbroken.decidable {α : Type} [DecidableEq α] : ∀ xs : List α, Decidable (Unbroken xs)
  | [] => inferInstanceAs (Decidable True)
  | x :: rest =>
    have := decidable rest
    inferInstanceAs (Decidable ((x ∈ rest → rest.head? = some x) ∧ Unbroken rest))

/-- Grouped by their keys, items keep their order if no key comes back. -/
theorem flatMap_filter_distinct {α κ : Type} [DecidableEq κ] {key : α → κ} {items : List α}
    (unbroken : Unbroken (items.map key)) :
    ((distinct (items.map key)).flatMap fun k => items.filter (key · = k)) = items := by
  induction items with
  | nil => rfl
  | cons item rest ih =>
    obtain ⟨hnext, hrest⟩ := unbroken
    have hfirst : (item :: rest).filter (key · = key item) =
        item :: rest.filter (key · = key item) := List.filter_cons_of_pos (by simp)
    have hothers : (((distinct (rest.map key)).filter (· ≠ key item)).flatMap fun k =>
        (item :: rest).filter (key · = k)) =
          ((distinct (rest.map key)).filter (· ≠ key item)).flatMap fun k =>
            rest.filter (key · = k) := by
      apply List.flatMap_congr
      intro k hk
      have hne : k ≠ key item := of_decide_eq_true (List.mem_filter.mp hk).2
      exact List.filter_cons_of_neg (by simpa using hne.symm)
    rw [List.map_cons, distinct, List.flatMap_cons, hfirst, hothers, List.cons_append]
    congr 1
    by_cases hmem : key item ∈ rest.map key
    · cases rest with
      | nil => exact absurd hmem List.not_mem_nil
      | cons next others =>
        -- the key goes on, so it is the first of those that follow
        have hkey : key next = key item := Option.some.inj (hnext hmem)
        have hkeys : (distinct ((next :: others).map key)).filter (· ≠ key item) =
            (distinct (others.map key)).filter (· ≠ key item) := by
          rw [List.map_cons, distinct, hkey, List.filter_cons_of_neg (by simp),
            List.filter_filter]
          simp only [Bool.and_self]
        rw [hkeys]
        have hgrouped := ih hrest
        rwa [List.map_cons, distinct, hkey, List.flatMap_cons] at hgrouped
    · have hnone : rest.filter (key · = key item) = [] := by
        rw [List.filter_eq_nil_iff]
        intro other hother heq
        exact hmem (of_decide_eq_true heq ▸ List.mem_map_of_mem hother)
      have hkeys : (distinct (rest.map key)).filter (· ≠ key item) = distinct (rest.map key) := by
        rw [List.filter_eq_self]
        intro k hk
        exact decide_eq_true fun heq => hmem (heq ▸ mem_distinct.mp hk)
      rw [hnone, hkeys, List.nil_append]
      exact ih hrest

theorem perm_flatMap_filter {α κ : Type} [DecidableEq κ] (key : α → κ) {keys : List κ}
    (nodup : keys.Nodup) {items : List α} (covered : ∀ item ∈ items, key item ∈ keys) :
    (keys.flatMap fun k => items.filter fun item => key item = k).Perm items := by
  induction keys generalizing items with
  | nil =>
    have hnil : items = [] :=
      List.eq_nil_iff_forall_not_mem.mpr fun item hitem => List.not_mem_nil (covered item hitem)
    rw [hnil, List.flatMap_nil]
  | cons k rest ih =>
    obtain ⟨hk, hrest⟩ := List.nodup_cons.mp nodup
    rw [List.flatMap_cons]
    have hothers : (rest.flatMap fun k' => items.filter fun item => key item = k') =
        rest.flatMap fun k' =>
          (items.filter fun item => key item ≠ k).filter fun item => key item = k' := by
      apply List.flatMap_congr
      intro k' hk'
      rw [List.filter_filter]
      apply List.filter_congr
      intro item _
      by_cases heq : key item = k'
      · have hne : k' ≠ k := fun h => hk (h ▸ hk')
        simp [heq, hne]
      · simp [heq]
    have hcovered : ∀ item ∈ items.filter fun item => key item ≠ k, key item ∈ rest := by
      intro item hitem
      obtain ⟨hmem, hne⟩ := List.mem_filter.mp hitem
      exact (List.mem_cons.mp (covered item hmem)).resolve_left (of_decide_eq_true hne)
    rw [hothers]
    have hsplit := List.filter_append_perm (fun item => decide (key item = k)) items
    simp only [decide_not] at ih hcovered ⊢
    exact ((ih hrest hcovered).append_left _).trans hsplit

end ApiManual
