import Mathlib.Data.List.Forall2

/-! Lists whose items belong together one by one. -/
namespace List.Forall₂

variable {α β γ : Type} {related : α → β → Prop} {xs : List α} {ys : List β}

theorem exists_left (h : Forall₂ related xs ys) {y : β} (hy : y ∈ ys) :
    ∃ x ∈ xs, related x y := by
  induction h with
  | nil => exact absurd hy not_mem_nil
  | cons hfirst _ ih =>
    rcases mem_cons.mp hy with rfl | hy
    · exact ⟨_, mem_cons_self, hfirst⟩
    · obtain ⟨x, hx, hrelated⟩ := ih hy
      exact ⟨x, mem_cons_of_mem _ hx, hrelated⟩

theorem exists_right (h : Forall₂ related xs ys) {x : α} (hx : x ∈ xs) :
    ∃ y ∈ ys, related x y := h.flip.exists_left hx

theorem exists_between {left : α → γ → Prop} {right : β → γ → Prop} (h : Forall₂ related xs ys)
    (step : ∀ x y, related x y → ∃ z, left x z ∧ right y z) :
    ∃ zs, Forall₂ left xs zs ∧ Forall₂ right ys zs := by
  induction h with
  | nil => exact ⟨[], Forall₂.nil, Forall₂.nil⟩
  | cons hfirst _ ih =>
    obtain ⟨z, hleft, hright⟩ := step _ _ hfirst
    obtain ⟨zs, hlefts, hrights⟩ := ih
    exact ⟨z :: zs, Forall₂.cons hleft hlefts, Forall₂.cons hright hrights⟩

theorem map_eq_map {f : α → γ} {g : β → γ} (h : Forall₂ related xs ys)
    (same : ∀ x ∈ xs, ∀ y, related x y → f x = g y) : xs.map f = ys.map g := by
  induction h with
  | nil => rfl
  | cons hfirst _ ih =>
    rw [map_cons, map_cons, same _ mem_cons_self _ hfirst,
      ih fun x hx => same x (mem_cons_of_mem _ hx)]

end List.Forall₂
