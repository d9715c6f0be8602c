import ApiManual.Proofs.Mounts
import Mathlib.Data.List.Induction

/-!
The checks of the mounts, each one against those before it. They pass exactly if no operation comes
twice and no two statements about one parameter list other values; else the first mount that breaks
one of the two decides the error, the repeated operation before the statements.
-/
namespace ApiManual

theorem exists_first_failure {α : Type} (holds : List α → Prop) (nil : holds [])
    (items : List α) :
    holds items ∨ ∃ before item after, items = before ++ item :: after ∧ holds before ∧
      ¬ holds (before ++ [item]) := by
  induction items using List.reverseRecOn with
  | nil => exact Or.inl nil
  | append_singleton items last ih =>
    rcases ih with hitems | ⟨before, item, after, rfl, hbefore, hitem⟩
    · by_cases hlast : holds (items ++ [last])
      · exact Or.inl hlast
      · exact Or.inr ⟨items, last, [], rfl, hitems, hlast⟩
    · exact Or.inr ⟨before, item, after ++ [last], by simp, hbefore, hitem⟩

namespace Statement

/-- Two statements about one declared parameter that both list its allowed values list the same. -/
def Compatible (left right : Statement) : Prop :=
  left.owner = right.owner → left.parameter.name = right.parameter.name →
    ∀ values, left.allowedValues? = some values →
      ∀ values', right.allowedValues? = some values' → values = values'

theorem Compatible.refl (statement : Statement) : Compatible statement statement := by
  intro _ _ values hvalues values' hvalues'
  rw [hvalues] at hvalues'
  exact Option.some.inj hvalues'

theorem Compatible.symm {left right : Statement} (h : Compatible left right) :
    Compatible right left :=
  fun howner hname values hvalues values' hvalues' =>
    (h howner.symm hname.symm values' hvalues' values hvalues).symm

/-- All that list the allowed values of one declared parameter list the same ones. -/
def Consistent (statements : List Statement) : Prop :=
  ∀ statement ∈ statements, ∀ statement' ∈ statements, Compatible statement statement'

theorem mem_about {owner name : String} {statements : List Statement} {statement : Statement} :
    statement ∈ about owner name statements ↔
      statement ∈ statements ∧ statement.owner = owner ∧ statement.parameter.name = name := by
  simp [about]

theorem Consistent.of_subset {statements larger : List Statement} (h : Consistent larger)
    (hsub : statements ⊆ larger) : Consistent statements :=
  fun statement hmem statement' hmem' => h statement (hsub hmem) statement' (hsub hmem')

theorem consistent_append_singleton {earlier : List Statement} {statement : Statement}
    (h : Consistent earlier) :
    Consistent (earlier ++ [statement]) ↔ ∀ other ∈ earlier, Compatible statement other := by
  constructor
  · intro hall other hother
    exact hall statement (by simp) other (List.mem_append_left _ hother)
  · intro hnew left hleft right hright
    simp only [List.mem_append, List.mem_singleton] at hleft hright
    rcases hleft with hleft | rfl
    · rcases hright with hright | rfl
      · exact h left hleft right hright
      · exact (hnew left hleft).symm
    · rcases hright with hright | rfl
      · exact hnew right hright
      · exact Compatible.refl right

/-- A statement agrees with those before it if it agrees with the first one that lists values. -/
theorem consistent_append_singleton_iff {earlier : List Statement} {statement : Statement}
    (h : Consistent earlier) :
    Consistent (earlier ++ [statement]) ↔
      ∀ stated, statement.allowedValues? = some stated → ∀ declared,
        (about statement.owner statement.parameter.name earlier).findSome? allowedValues? =
          some declared → stated = declared := by
  rw [consistent_append_singleton h]
  constructor
  · intro hnew stated hstated declared hdeclared
    obtain ⟨first, hfirst, hvalues⟩ := List.exists_of_findSome?_eq_some hdeclared
    obtain ⟨hmem, howner, hname⟩ := mem_about.mp hfirst
    exact hnew first hmem howner.symm hname.symm stated hstated declared hvalues
  · intro hagree other hother howner hname values hvalues values' hvalues'
    have habout : other ∈ about statement.owner statement.parameter.name earlier :=
      mem_about.mpr ⟨hother, howner.symm, hname.symm⟩
    cases hfound : (about statement.owner statement.parameter.name earlier).findSome?
        allowedValues? with
    | none =>
      rw [List.findSome?_eq_none_iff.mp hfound other habout] at hvalues'
      cases hvalues'
    | some declared =>
      obtain ⟨first, hfirst, hdeclared⟩ := List.exists_of_findSome?_eq_some hfound
      obtain ⟨hmem, howner', hname'⟩ := mem_about.mp hfirst
      rw [hagree values hvalues declared hfound]
      exact h first hmem other hother (howner'.trans howner) (hname'.trans hname) declared
        hdeclared values' hvalues'

/-- Of consistent statements the first one that lists values lists those that any of them lists. -/
theorem Consistent.findSome?_eq_some_iff {statements : List Statement} (h : Consistent statements)
    {owner name : String} {values : List String} :
    (about owner name statements).findSome? allowedValues? = some values ↔
      ∃ statement ∈ about owner name statements, statement.allowedValues? = some values := by
  refine ⟨List.exists_of_findSome?_eq_some, ?_⟩
  rintro ⟨statement, habout, hvalues⟩
  cases hfound : (about owner name statements).findSome? allowedValues? with
  | none =>
    rw [List.findSome?_eq_none_iff.mp hfound statement habout] at hvalues
    cases hvalues
  | some declared =>
    obtain ⟨first, hfirst, hdeclared⟩ := List.exists_of_findSome?_eq_some hfound
    obtain ⟨hmem, howner, hname⟩ := mem_about.mp habout
    obtain ⟨hmem', howner', hname'⟩ := mem_about.mp hfirst
    rw [h first hmem' statement hmem (howner'.trans howner.symm) (hname'.trans hname.symm) declared
      hdeclared values hvalues]

end Statement

namespace Resolution

open Statement Mount

variable {grouping : String}

theorem checkStatements_error {earlier rest : List Statement} {error : ResolutionError}
    (h : checkStatements grouping earlier rest = .error error) :
    ∃ name path reason, error = .ambiguousParameter name path grouping reason := by
  induction rest generalizing earlier with
  | nil => cases h
  | cons statement rest ih =>
    unfold checkStatements at h
    dsimp only at h
    split at h
    · split at h
      · exact ih h
      · exact ⟨_, _, _, (Except.error.inj h).symm⟩
    · exact ih h

theorem checkStatements_eq_ok_iff {earlier rest : List Statement} (h : Consistent earlier) :
    checkStatements grouping earlier rest = .ok () ↔ Consistent (earlier ++ rest) := by
  induction rest generalizing earlier with
  | nil => simp [checkStatements, h]
  | cons statement rest ih =>
    have hsplit : earlier ++ statement :: rest = earlier ++ [statement] ++ rest := by simp
    have hsub : earlier ++ [statement] ⊆ earlier ++ statement :: rest :=
      hsplit ▸ List.subset_append_left _ _
    have hstep : Consistent (earlier ++ [statement]) ↔ _ := consistent_append_singleton_iff h
    unfold checkStatements
    dsimp only
    split
    · rename_i stated declared hstated hdeclared
      split
      · rename_i hsame
        rw [ih, hsplit]
        refine hstep.mpr fun values hvalues values' hvalues' => ?_
        rw [hstated] at hvalues
        rw [hdeclared] at hvalues'
        cases hvalues
        cases hvalues'
        exact hsame
      · rename_i hdiffer
        refine ⟨nofun, fun hall => absurd ?_ hdiffer⟩
        exact hstep.mp (hall.of_subset hsub) stated hstated declared hdeclared
    · rename_i hnone
      rw [ih, hsplit]
      exact hstep.mpr fun values hvalues values' hvalues' =>
        absurd hvalues' (hnone values values' hvalues)

theorem checkOperation_eq_ok_iff {earlier : List Mount} {mount : Mount} :
    checkOperation grouping earlier mount = .ok () ↔
      ∀ other ∈ earlier, other.operation ≠ mount.operation := by
  unfold checkOperation
  dsimp only
  split
  · rename_i other hother
    have hsame := List.find?_some hother
    rw [Bool.and_eq_true, decide_eq_true_eq, decide_eq_true_eq] at hsame
    refine ⟨nofun, fun h => ?_⟩
    exact absurd (Prod.ext hsame.1 hsame.2) (h other (List.mem_of_find?_eq_some hother))
  · rename_i hnone
    refine ⟨fun _ other hother heq => ?_, fun _ => rfl⟩
    have hnot := List.find?_eq_none.mp hnone other hother
    rw [operation, operation, Prod.mk.injEq] at heq
    simp [heq] at hnot

theorem checkOperation_repeated {earlier : List Mount} {mount other : Mount}
    (h : Unrepeated earlier) (hother : other ∈ earlier)
    (hsame : other.operation = mount.operation) :
    checkOperation grouping earlier mount = .error (.duplicateOperation
      mount.sourced.endpoint.method mount.path grouping other.sourced.origin
        mount.sourced.origin) := by
  unfold checkOperation
  dsimp only
  split
  · rename_i found hfound
    have heq := List.find?_some hfound
    rw [Bool.and_eq_true, decide_eq_true_eq, decide_eq_true_eq] at heq
    have hop : found.operation = other.operation := (Prod.ext heq.1 heq.2).trans hsame.symm
    rw [List.inj_on_of_nodup_map h (List.mem_of_find?_eq_some hfound) hother hop]
  · rename_i hnone
    have hnot := List.find?_eq_none.mp hnone other hother
    rw [operation, operation, Prod.mk.injEq] at hsame
    simp [hsame] at hnot

section

variable (grouping) (statements : Mount → List Statement)

/-- No mount repeats an operation or states something else than those before it. -/
structure Sound (mounts : List Mount) : Prop where
  unrepeated : Unrepeated mounts
  consistent : Consistent (mounts.flatMap statements)

variable {statements}

theorem checkMounts_cons {earlier rest : List Mount} {mount : Mount}
    (h : Sound statements (earlier ++ [mount])) :
    checkMounts grouping statements earlier (mount :: rest) =
      checkMounts grouping statements (earlier ++ [mount]) rest := by
  have hunrepeated : Unrepeated earlier :=
    List.Nodup.sublist ((List.sublist_append_left earlier [mount]).map _) h.unrepeated
  have hconsistent := h.consistent
  simp only [List.flatMap_append, List.flatMap_singleton] at hconsistent
  have hoperation : checkOperation grouping earlier mount = .ok () :=
    checkOperation_eq_ok_iff.mpr
      ((unrepeated_append_singleton_iff hunrepeated).mp h.unrepeated)
  have hstatements : checkStatements grouping (earlier.flatMap statements) (statements mount) =
      .ok () := (checkStatements_eq_ok_iff
        (hconsistent.of_subset (List.subset_append_left _ _))).mpr hconsistent
  rw [checkMounts, hoperation, hstatements]
  rfl

theorem Sound.of_append {mounts later : List Mount} (h : Sound statements (mounts ++ later)) :
    Sound statements mounts := by
  constructor
  · exact List.Nodup.sublist ((List.sublist_append_left mounts later).map _) h.unrepeated
  · apply h.consistent.of_subset
    rw [List.flatMap_append]
    exact List.subset_append_left _ _

theorem checkMounts_append {earlier before rest : List Mount}
    (h : Sound statements (earlier ++ before)) :
    checkMounts grouping statements earlier (before ++ rest) =
      checkMounts grouping statements (earlier ++ before) rest := by
  induction before generalizing earlier with
  | nil => rw [List.nil_append, List.append_nil]
  | cons mount before ih =>
    have hsplit : earlier ++ mount :: before = earlier ++ [mount] ++ before := by simp
    rw [hsplit] at h
    rw [List.cons_append, checkMounts_cons grouping h.of_append, ih h, hsplit]

theorem checkMounts_of_sound {mounts : List Mount} (h : Sound statements mounts) :
    checkMounts grouping statements [] mounts = .ok () := by
  have happend : checkMounts grouping statements [] (mounts ++ []) = _ :=
    checkMounts_append grouping h
  rwa [List.append_nil] at happend

theorem checkMounts_repeated {before after : List Mount} {mount other : Mount}
    (h : Sound statements before) (hother : other ∈ before)
    (hsame : other.operation = mount.operation) :
    checkMounts grouping statements [] (before ++ mount :: after) =
      .error (.duplicateOperation mount.sourced.endpoint.method mount.path grouping
        other.sourced.origin mount.sourced.origin) := by
  rw [checkMounts_append grouping (show Sound statements ([] ++ before) from h),
    List.nil_append, checkMounts, checkOperation_repeated h.unrepeated hother hsame]
  rfl

theorem checkMounts_disputed {before : List Mount} {mount : Mount} (after : List Mount)
    (h : Sound statements before) (hnew : ∀ other ∈ before, other.operation ≠ mount.operation)
    (hdispute : ¬ Consistent ((before ++ [mount]).flatMap statements)) :
    ∃ name path reason, checkMounts grouping statements [] (before ++ mount :: after) =
      .error (.ambiguousParameter name path grouping reason) := by
  simp only [List.flatMap_append, List.flatMap_singleton] at hdispute
  have hok : checkStatements grouping (before.flatMap statements) (statements mount) ≠ .ok () :=
    (checkStatements_eq_ok_iff h.consistent).not.mpr hdispute
  cases hcheck : checkStatements grouping (before.flatMap statements) (statements mount) with
  | ok result => exact absurd hcheck hok
  | error error =>
    obtain ⟨name, path, reason, rfl⟩ := checkStatements_error hcheck
    refine ⟨name, path, reason, ?_⟩
    rw [checkMounts_append grouping (show Sound statements ([] ++ before) from h),
      List.nil_append, checkMounts, checkOperation_eq_ok_iff.mpr hnew, hcheck]
    rfl

end

end Resolution

end ApiManual
