import Mathlib.Data.List.Perm.Basic

/-! When a computation that may fail gives a result, and what its steps gave before. -/
namespace Except

variable {ε α β : Type}

theorem bind_eq_ok_iff {x : Except ε α} {f : α → Except ε β} {b : β} :
    x >>= f = .ok b ↔ ∃ a, x = .ok a ∧ f a = .ok b := by
  cases x with
  | error e => simp [bind, Except.bind]
  | ok a => simp [bind, Except.bind]

theorem bind_eq_error_iff {x : Except ε α} {f : α → Except ε β} {e : ε} :
    x >>= f = .error e ↔ x = .error e ∨ ∃ a, x = .ok a ∧ f a = .error e := by
  cases x with
  | error e => simp [bind, Except.bind]
  | ok a => simp [bind, Except.bind]

theorem pure_eq_ok_iff {a b : α} : (pure a : Except ε α) = .ok b ↔ a = b := by
  simp [pure, Except.pure]

theorem map_eq_ok_iff {x : Except ε α} {f : α → β} {b : β} :
    f <$> x = .ok b ↔ ∃ a, x = .ok a ∧ f a = b := by
  cases x <;> simp [Functor.map, Except.map]

theorem map_eq_error_iff {x : Except ε α} {f : α → β} {e : ε} :
    x.map f = .error e ↔ x = .error e := by
  cases x <;> simp [Except.map]

theorem exists_of_map_eq_singleton {x : Except ε (List α)} {f : α → β} {b : β}
    (h : x.map (List.map f) = .ok [b]) : ∃ a, x = .ok [a] ∧ f a = b := by
  obtain ⟨items, rfl, hitems⟩ := map_eq_ok_iff.mp h
  obtain ⟨a, rfl, ha⟩ := List.map_eq_singleton_iff.mp hitems
  exact ⟨a, rfl, ha⟩

theorem isOk_iff {x : Except ε α} : x.isOk = true ↔ ∃ a, x = .ok a := by
  cases x <;> simp [Except.isOk, Except.toBool]

theorem toOption_eq_some_iff {x : Except ε α} {a : α} : x.toOption = some a ↔ x = .ok a := by
  cases x <;> simp [Except.toOption]

theorem mapError_eq_ok_iff {δ : Type} {x : Except ε α} {f : ε → δ} {a : α} :
    x.mapError f = .ok a ↔ x = .ok a := by
  cases x <;> simp [Except.mapError]

theorem mapM_eq_ok_iff {f : α → Except ε β} {xs : List α} {ys : List β} :
    xs.mapM f = .ok ys ↔ List.Forall₂ (fun x y => f x = .ok y) xs ys := by
  induction xs generalizing ys with
  | nil =>
    rw [List.mapM_nil, pure_eq_ok_iff, List.forall₂_nil_left_iff, eq_comm]
  | cons x rest ih =>
    simp only [List.mapM_cons, bind_eq_ok_iff, pure_eq_ok_iff, ih, List.forall₂_cons_left_iff]
    constructor
    · rintro ⟨y, hy, ys, hys, rfl⟩
      exact ⟨y, ys, hy, hys, rfl⟩
    · rintro ⟨y, ys, hy, hys, rfl⟩
      exact ⟨y, hy, ys, hys, rfl⟩

theorem mapM_congr {f g : α → Except ε β} {xs : List α} (h : ∀ x ∈ xs, f x = g x) :
    xs.mapM f = xs.mapM g := by
  induction xs with
  | nil => rfl
  | cons x rest ih =>
    obtain ⟨hx, hrest⟩ := List.forall_mem_cons.mp h
    rw [List.mapM_cons, List.mapM_cons, hx, ih hrest]

theorem mapM_eq_map_mapM {γ : Type} {f : α → Except ε γ} {f' : α → Except ε β} {g : β → γ}
    {xs : List α} (h : ∀ x ∈ xs, f x = g <$> f' x) :
    xs.mapM f = List.map g <$> xs.mapM f' := by
  induction xs with
  | nil => rfl
  | cons x rest ih =>
    obtain ⟨hx, hrest⟩ := List.forall_mem_cons.mp h
    rw [List.mapM_cons, List.mapM_cons, hx, ih hrest]
    cases f' x with
    | error e => rfl
    | ok b => cases rest.mapM f' <;> rfl

theorem mapM_eq_ok_map {f : α → Except ε β} {g : α → β} {xs : List α}
    (h : ∀ x ∈ xs, f x = .ok (g x)) : xs.mapM f = .ok (xs.map g) := by
  rw [mapM_eq_ok_iff, List.forall₂_map_right_iff, List.forall₂_same]
  exact h

theorem perm_of_mapM_eq_ok {f : α → Except ε β} {xs xs' : List α} {ys ys' : List β}
    (perm : xs.Perm xs') (h : xs.mapM f = .ok ys) (h' : xs'.mapM f = .ok ys') : ys.Perm ys' := by
  obtain ⟨middle, hmiddle, hperm⟩ := List.perm_comp_forall₂ perm.symm (mapM_eq_ok_iff.mp h)
  rw [mapM_eq_ok_iff.mpr hmiddle] at h'
  exact Except.ok.inj h' ▸ hperm.symm

theorem mapM_mapError_eq_ok_iff {δ : Type} {f : α → Except ε β} {g : ε → δ} {xs : List α}
    {ys : List β} : (xs.mapM fun x => (f x).mapError g) = .ok ys ↔ xs.mapM f = .ok ys := by
  simp only [mapM_eq_ok_iff, mapError_eq_ok_iff]

theorem optionMapM_eq_ok_iff {f : α → Except ε β} {x : Option α} {y : Option β} :
    x.mapM f = .ok y ↔ Option.Rel (fun a b => f a = .ok b) x y := by
  cases x with
  | none => cases y <;> simp [pure_eq_ok_iff]
  | some a => cases y <;> simp [map_eq_ok_iff]

theorem optionMapM_eq_ok_map {f : α → Except ε β} {g : α → β} {x : Option α}
    (h : ∀ a ∈ x, f a = .ok (g a)) : x.mapM f = .ok (x.map g) := by
  cases x with
  | none => rfl
  | some a => rw [Option.mapM_some, h a rfl]; rfl

def failure? : Except ε α → Option ε
  | .ok _ => none
  | .error e => some e

theorem failure?_eq_some_iff {x : Except ε α} {e : ε} : x.failure? = some e ↔ x = .error e := by
  cases x <;> simp [failure?]

@[simp] theorem failure?_ok (a : α) : (.ok a : Except ε α).failure? = none := rfl

@[simp] theorem failure?_error (e : ε) : (.error e : Except ε α).failure? = some e := rfl

@[simp] theorem failure?_map (x : Except ε α) (f : α → β) : (f <$> x).failure? = x.failure? := by
  cases x <;> rfl

theorem failure?_mapM {f : α → Except ε β} {wrong : α → Option ε} {xs : List α}
    (h : ∀ x ∈ xs, (f x).failure? = wrong x) : (xs.mapM f).failure? = xs.findSome? wrong := by
  induction xs with
  | nil => rfl
  | cons x rest ih =>
    obtain ⟨hx, hrest⟩ := List.forall_mem_cons.mp h
    rw [List.mapM_cons, List.findSome?_cons, ← hx, ← ih hrest]
    cases f x with
    | error e => rfl
    | ok b => cases rest.mapM f <;> rfl

end Except
