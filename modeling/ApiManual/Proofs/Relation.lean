import Mathlib.Logic.Relation

/-! Ways along a relation. -/
namespace Relation.ReflTransGen

/-- A way to another place need not come back to where it starts. -/
theorem exists_departure {α : Type} {r : α → α → Prop} {start goal : α}
    (way : Relation.ReflTransGen r start goal) (ne : goal ≠ start) :
    ∃ next, r start next ∧ next ≠ start ∧
      Relation.ReflTransGen (fun a b => r a b ∧ b ≠ start) next goal := by
  induction way with
  | refl => exact absurd rfl ne
  | @tail middle goal _ last ih =>
    by_cases hback : middle = start
    · exact ⟨goal, hback ▸ last, ne, .refl⟩
    · obtain ⟨next, hfirst, hnext, hrest⟩ := ih hback
      exact ⟨next, hfirst, hnext, hrest.tail ⟨last, ne⟩⟩

end Relation.ReflTransGen
