import Mathlib.Data.List.Sort

/-! Sorting by a key is stable: items with one key stay in the order in which they came. -/
namespace List

variable {α : Type} (key : α → Nat)

theorem filter_insertionSort_key (items : List α) (k : Nat) :
    (items.insertionSort (key · ≤ key ·)).filter (key · = k) = items.filter (key · = k) := by
  have halike : (items.filter (key · = k)).Pairwise (key · ≤ key ·) := by
    apply pairwise_of_forall_mem_list
    intro x hx y hy
    simp only [mem_filter, decide_eq_true_eq] at hx hy
    exact (hx.2.trans hy.2.symm).le
  have hsub := (sublist_insertionSort halike filter_sublist).filter (key · = k)
  simp only [filter_filter, Bool.and_self] at hsub
  exact (hsub.eq_of_length ((perm_insertionSort _ items).filter _).length_eq.symm).symm

theorem Pairwise.insertionSort_key {r : α → α → Prop} {items : List α}
    (ordered : items.Pairwise r) : (items.insertionSort (key · ≤ key ·)).Pairwise
      fun x y => key x < key y ∨ key x = key y ∧ r x y := by
  have : Std.Total (key · ≤ key ·) := ⟨fun x y => Nat.le_total (key x) (key y)⟩
  have : IsTrans α (key · ≤ key ·) := ⟨fun _ _ _ => Nat.le_trans⟩
  rw [pairwise_iff_forall_sublist]
  intro x y hsub
  have hle : key x ≤ key y :=
    pairwise_iff_forall_sublist.mp (pairwise_insertionSort (key · ≤ key ·) items) hsub
  refine hle.lt_or_eq.imp_right fun heq => ⟨heq, ?_⟩
  have hown := hsub.filter (key · = key y)
  rw [filter_insertionSort_key, filter_eq_self.mpr (by simp [heq])] at hown
  exact pairwise_iff_forall_sublist.mp ordered (hown.trans filter_sublist)

end List
