import ApiManual.Proofs.Except

/-!
Two computations that may fail go alike if both give results and these are related, or both stop at
one error. What goes alike step by step goes alike as a whole.
-/
namespace Except

variable {ε α β γ δ : Type} {related : α → β → Prop} {related' : γ → δ → Prop}

inductive Alike (related : α → β → Prop) : Except ε α → Except ε β → Prop
  | ok {a : α} {b : β} (h : related a b) : Alike related (.ok a) (.ok b)
  | error (e : ε) : Alike related (.error e) (.error e)

theorem Alike.refl {related : α → α → Prop} (reflexive : ∀ a, related a a) (x : Except ε α) :
    Alike related x x := by
  cases x with
  | error e => exact Alike.error e
  | ok a => exact Alike.ok (reflexive a)

theorem Alike.eq {x y : Except ε α} (h : Alike (· = ·) x y) : x = y := by
  cases h with
  | error e => rfl
  | ok h => rw [h]

theorem Alike.bind {x : Except ε α} {y : Except ε β} {f : α → Except ε γ} {g : β → Except ε δ}
    (h : Alike related x y) (step : ∀ a b, related a b → Alike related' (f a) (g b)) :
    Alike related' (x >>= f) (y >>= g) := by
  cases h with
  | error e => exact Alike.error e
  | ok h => exact step _ _ h

theorem Alike.bind_same {x : Except ε α} {f : α → Except ε γ} {g : α → Except ε δ}
    (step : ∀ a, Alike related' (f a) (g a)) : Alike related' (x >>= f) (x >>= g) := by
  refine Alike.bind (Alike.refl (fun _ => rfl) x) ?_
  rintro a _ rfl
  exact step a

theorem Alike.mapError {ζ : Type} {x : Except ε α} {y : Except ε β} (h : Alike related x y)
    (f : ε → ζ) : Alike related (x.mapError f) (y.mapError f) := by
  cases h with
  | error e => exact Alike.error (f e)
  | ok h => exact Alike.ok h

theorem Alike.mapM {f : α → Except ε γ} {g : β → Except ε δ} {xs : List α} {ys : List β}
    (h : List.Forall₂ related xs ys)
    (step : ∀ x y, related x y → Alike related' (f x) (g y)) :
    Alike (List.Forall₂ related') (xs.mapM f) (ys.mapM g) := by
  induction h with
  | nil =>
    rw [List.mapM_nil, List.mapM_nil]
    exact Alike.ok List.Forall₂.nil
  | cons hfirst _ ih =>
    rw [List.mapM_cons, List.mapM_cons]
    refine Alike.bind (step _ _ hfirst) fun first first' hstep => ?_
    exact Alike.bind ih fun rest rest' hrest => Alike.ok (List.Forall₂.cons hstep hrest)

end Except
