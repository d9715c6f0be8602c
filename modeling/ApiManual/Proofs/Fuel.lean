import Mathlib.Data.List.Basic

/-!
Fuel that suffices. Where every step of a recursion on fuel leads to a smaller height, fuel beyond
the height changes nothing; heights are often counts of the items that are still ahead.
-/
namespace ApiManual

/-- Each step looks only at places of smaller height, so the height is fuel enough. -/
theorem eq_succ_of_height_le {Place Result : Type} (run : Nat → Place → Result)
    (height : Place → Nat) (zero : ∀ place, height place = 0 → run 0 place = run 1 place)
    (succ : ∀ fuel place,
      (∀ next, height next < height place → run fuel next = run (fuel + 1) next) →
        run (fuel + 1) place = run (fuel + 2) place)
    {fuel : Nat} {place : Place} (h : height place ≤ fuel) :
    run fuel place = run (fuel + 1) place := by
  induction fuel generalizing place with
  | zero => exact zero place (Nat.le_zero.mp h)
  | succ fuel ih =>
    apply succ
    intro next hnext
    exact ih (by omega)

theorem countP_lt_countP {α : Type} {p q : α → Bool} {items : List α} (item : α)
    (imp : ∀ x ∈ items, p x = true → q x = true) (hmem : item ∈ items) (hq : q item = true)
    (hp : p item = false) : items.countP p < items.countP q := by
  obtain ⟨before, after, rfl⟩ := List.append_of_mem hmem
  have hbefore : before.countP p ≤ before.countP q :=
    List.countP_mono_left fun x hx => imp x (List.mem_append_left _ hx)
  have hafter : after.countP p ≤ after.countP q :=
    List.countP_mono_left fun x hx =>
      imp x (List.mem_append_right _ (List.mem_cons_of_mem item hx))
  simp only [List.countP_append, List.countP_cons, hq, hp, if_true]
  simp only [Bool.false_eq_true, if_false]
  omega

end ApiManual
