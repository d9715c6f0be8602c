import ApiManual.Proofs.Resolution.Checks
import ApiManual.Proofs.Resolution.Ownership

/-!
The outcome of a resolution. A draft has a view exactly if no path of it holds a name twice, no
operation comes twice, and the values listed for a parameter agree at and below the path that
introduces it. Otherwise a name held twice decides the error, or else the first mount at fault.
-/
namespace ApiManual

open Outline UriPath Resolution

namespace Mount

/-- The endpoint of a mount lists these values, at least one, for a parameter. -/
def Lists (mount : Mount) (name : String) (values : List String) : Prop :=
  ∃ parameter ∈ mount.sourced.endpoint.pathParameters,
    parameter.name = name ∧ parameter.allowedValues = some values ∧ values ≠ []

/-- All values listed at or below a path for a parameter that it introduces are the same. -/
def Agree (paths : List String) (mounts : List Mount) : Prop :=
  ∀ path name, Introduces paths path name →
    ∀ mount ∈ mounts, Covers path mount.path → ∀ mount' ∈ mounts, Covers path mount'.path →
      ∀ values, mount.Lists name values → ∀ values', mount'.Lists name values' → values = values'

end Mount

section

variable {paths : List String} (slashed : ∀ path ∈ paths, WellSlashed path)
  (once : ∀ path ∈ paths, (parameterNames path).Nodup)

include slashed once

/-- What is said of one declaration is what is said of one name at and below one path. -/
theorem consistent_iff_agree {mounts : List Mount}
    (hmounts : ∀ mount ∈ mounts, mount.path ∈ paths) :
    Statement.Consistent
        (mounts.flatMap (Mount.statements (ofPaths paths) (declarationsOf paths))) ↔
      Mount.Agree paths mounts := by
  constructor
  · intro hconsistent path name hintroduces mount hmount hcovers mount' hmount' hcovers' values
      hlists values' hlists'
    obtain ⟨parameter, hparameter, rfl, hvalues⟩ := hlists
    obtain ⟨parameter', hparameter', hname, hvalues'⟩ := hlists'
    have hmem : ⟨path, parameter⟩ ∈
        mounts.flatMap (Mount.statements (ofPaths paths) (declarationsOf paths)) :=
      List.mem_flatMap.mpr ⟨mount, hmount, (mem_statements slashed once (hmounts mount hmount)).mpr
        ⟨hparameter, hcovers, hintroduces⟩⟩
    have hmem' : ⟨path, parameter'⟩ ∈
        mounts.flatMap (Mount.statements (ofPaths paths) (declarationsOf paths)) :=
      List.mem_flatMap.mpr ⟨mount', hmount',
        (mem_statements slashed once (hmounts mount' hmount')).mpr
          ⟨hparameter', hcovers', hname ▸ hintroduces⟩⟩
    exact hconsistent _ hmem _ hmem' rfl hname.symm values (listed?_eq_some_iff.mpr hvalues) values'
      (listed?_eq_some_iff.mpr hvalues')
  · intro hagree statement hmem statement' hmem' howner hname values hvalues values' hvalues'
    obtain ⟨mount, hmount, hmem⟩ := List.mem_flatMap.mp hmem
    obtain ⟨mount', hmount', hmem'⟩ := List.mem_flatMap.mp hmem'
    obtain ⟨hparameter, hcovers, hintroduces⟩ :=
      (mem_statements slashed once (hmounts mount hmount)).mp hmem
    obtain ⟨hparameter', hcovers', -⟩ :=
      (mem_statements slashed once (hmounts mount' hmount')).mp hmem'
    exact hagree statement.owner statement.parameter.name hintroduces mount hmount hcovers mount'
      hmount' (howner ▸ hcovers') values
      ⟨statement.parameter, hparameter, rfl, listed?_eq_some_iff.mp hvalues⟩ values'
      ⟨statement'.parameter, hparameter', hname.symm, listed?_eq_some_iff.mp hvalues'⟩

theorem sound_iff_agree {mounts : List Mount} (hmounts : ∀ mount ∈ mounts, mount.path ∈ paths) :
    Sound (Mount.statements (ofPaths paths) (declarationsOf paths)) mounts ↔
      Mount.Unrepeated mounts ∧ Mount.Agree paths mounts := by
  rw [← consistent_iff_agree slashed once hmounts]
  exact ⟨fun h => ⟨h.unrepeated, h.consistent⟩, fun h => ⟨h.1, h.2⟩⟩

end

namespace Draft

def NamesOnce (draft : Draft) : Prop :=
  ∀ path ∈ draft.mountPaths, (parameterNames path).Nodup

/-- Of all mounts `later` is the first one at fault, and it repeats the operation of `first`. -/
def Repeats (draft : Draft) (first later : Mount) : Prop :=
  ∃ before after, draft.mounts = before ++ later :: after ∧
    Mount.Unrepeated before ∧ Mount.Agree draft.mountPaths before ∧
      first ∈ before ∧ first.operation = later.operation

/-- Of all mounts this is the first one at fault; it repeats no operation, but lists other values
than mounts before it. -/
def Disputes (draft : Draft) (mount : Mount) : Prop :=
  ∃ before after, draft.mounts = before ++ mount :: after ∧
    Mount.Agree draft.mountPaths before ∧ Mount.Unrepeated (before ++ [mount]) ∧
      ¬ Mount.Agree draft.mountPaths (before ++ [mount])

section

variable {draft : Draft} (normal : draft.Normal)

include normal

theorem resolve_eq (once : draft.NamesOnce) :
    draft.resolve =
      checkMounts draft.label
          (Mount.statements (ofPaths draft.mountPaths) (declarationsOf draft.mountPaths)) []
          draft.mounts >>= fun _ => .ok (draft.view (declarationsOf draft.mountPaths)) := by
  have hdeclare : declare draft.label draft.outline = .ok (declarationsOf draft.mountPaths) :=
    (declare_eq_ok_iff normal.wellSlashed).mpr ⟨once, rfl⟩
  unfold resolve
  rw [hdeclare]
  rfl

theorem resolve_eq_ok (once : draft.NamesOnce) (unrepeated : Mount.Unrepeated draft.mounts)
    (agree : Mount.Agree draft.mountPaths draft.mounts) :
    draft.resolve = .ok (draft.view (declarationsOf draft.mountPaths)) := by
  have hsound := (sound_iff_agree normal.wellSlashed once fun _ => path_mem_mountPaths).mpr
    ⟨unrepeated, agree⟩
  rw [resolve_eq normal once, checkMounts_of_sound _ hsound]
  rfl

theorem resolve_of_not_namesOnce (h : ¬ draft.NamesOnce) :
    ∃ name path reason,
      draft.resolve = .error (.ambiguousParameter name path draft.label reason) := by
  cases hdeclare : declare draft.label draft.outline with
  | ok declared => exact absurd ((declare_eq_ok_iff normal.wellSlashed).mp hdeclare).1 h
  | error error =>
    obtain ⟨name, path, reason, rfl⟩ := declare_error hdeclare
    refine ⟨name, path, reason, ?_⟩
    unfold resolve
    rw [hdeclare]
    rfl

theorem sound_before (once : draft.NamesOnce) {before after : List Mount} {mount : Mount}
    (h : draft.mounts = before ++ mount :: after) (unrepeated : Mount.Unrepeated before)
    (agree : Mount.Agree draft.mountPaths before) :
    Sound (Mount.statements (ofPaths draft.mountPaths) (declarationsOf draft.mountPaths))
      before := by
  refine (sound_iff_agree normal.wellSlashed once fun other hother => ?_).mpr ⟨unrepeated, agree⟩
  exact path_mem_mountPaths (h ▸ List.mem_append_left _ hother)

theorem resolve_of_repeats (once : draft.NamesOnce) {first later : Mount}
    (h : draft.Repeats first later) :
    draft.resolve = .error (.duplicateOperation later.sourced.endpoint.method later.path
      draft.label first.sourced.origin later.sourced.origin) := by
  obtain ⟨before, after, hmounts, hunrepeated, hagree, hfirst, hsame⟩ := h
  have hsound := sound_before normal once hmounts hunrepeated hagree
  rw [resolve_eq normal once, hmounts, checkMounts_repeated _ hsound hfirst hsame]
  rfl

theorem resolve_of_disputes (once : draft.NamesOnce) {mount : Mount} (h : draft.Disputes mount) :
    ∃ name path reason,
      draft.resolve = .error (.ambiguousParameter name path draft.label reason) := by
  obtain ⟨before, after, hmounts, hagree, hunrepeated, hdispute⟩ := h
  have hbefore : Mount.Unrepeated before :=
    hunrepeated.sublist ((List.sublist_append_left before [mount]).map _)
  have hsound := sound_before normal once hmounts hbefore hagree
  have hpaths : ∀ other ∈ before ++ [mount], other.path ∈ draft.mountPaths := by
    intro other hother
    apply path_mem_mountPaths
    rw [hmounts]
    simp only [List.mem_append, List.mem_cons] at hother ⊢
    tauto
  rw [← consistent_iff_agree normal.wellSlashed once hpaths] at hdispute
  have hnew := (Mount.unrepeated_append_singleton_iff hbefore).mp hunrepeated
  obtain ⟨name, path, reason, hcheck⟩ := checkMounts_disputed draft.label after hsound hnew hdispute
  refine ⟨name, path, reason, ?_⟩
  rw [resolve_eq normal once, hmounts, hcheck]
  rfl

end

/-- If the mounts are not sound, then one of them is the first at fault. -/
theorem sound_or_at_fault (draft : Draft) :
    (Mount.Unrepeated draft.mounts ∧ Mount.Agree draft.mountPaths draft.mounts) ∨
      (∃ first later, draft.Repeats first later) ∨ ∃ mount, draft.Disputes mount := by
  have hnil : Mount.Unrepeated [] ∧ Mount.Agree draft.mountPaths [] :=
    ⟨List.nodup_nil, fun _ _ _ _ h => absurd h List.not_mem_nil⟩
  refine (exists_first_failure
    (fun mounts => Mount.Unrepeated mounts ∧ Mount.Agree draft.mountPaths mounts) hnil
    draft.mounts).imp_right ?_
  rintro ⟨before, mount, after, hmounts, ⟨hunrepeated, hagree⟩, hfault⟩
  by_cases hrepeated : ∃ other ∈ before, other.operation = mount.operation
  · obtain ⟨other, hother, hsame⟩ := hrepeated
    exact Or.inl ⟨other, mount, before, after, hmounts, hunrepeated, hagree, hother, hsame⟩
  · have hnew : Mount.Unrepeated (before ++ [mount]) :=
      (Mount.unrepeated_append_singleton_iff hunrepeated).mpr
        fun other hother hsame => hrepeated ⟨other, hother, hsame⟩
    refine Or.inr ⟨mount, before, after, hmounts, hagree, hnew, fun hdispute => ?_⟩
    exact hfault ⟨hnew, hdispute⟩

section

variable {draft : Draft} (normal : draft.Normal)

include normal

theorem resolve_cases :
    (draft.NamesOnce ∧ Mount.Unrepeated draft.mounts ∧ Mount.Agree draft.mountPaths draft.mounts ∧
      ∃ view, draft.resolve = .ok view) ∨
    (draft.NamesOnce ∧ ∃ first later, draft.Repeats first later ∧
      draft.resolve = .error (.duplicateOperation later.sourced.endpoint.method later.path
        draft.label first.sourced.origin later.sourced.origin)) ∨
    (¬ draft.NamesOnce ∨ ∃ mount, draft.Disputes mount) ∧ ∃ name path reason,
      draft.resolve = .error (.ambiguousParameter name path draft.label reason) := by
  by_cases once : draft.NamesOnce
  · rcases draft.sound_or_at_fault with ⟨hunrepeated, hagree⟩ | ⟨first, later, h⟩ | ⟨mount, h⟩
    · exact Or.inl ⟨once, hunrepeated, hagree, _, resolve_eq_ok normal once hunrepeated hagree⟩
    · exact Or.inr (Or.inl ⟨once, first, later, h, resolve_of_repeats normal once h⟩)
    · exact Or.inr (Or.inr ⟨Or.inr ⟨mount, h⟩, resolve_of_disputes normal once h⟩)
  · exact Or.inr (Or.inr ⟨Or.inl once, resolve_of_not_namesOnce normal once⟩)

theorem exists_resolve_eq_ok_iff :
    (∃ view, draft.resolve = .ok view) ↔
      draft.NamesOnce ∧ Mount.Unrepeated draft.mounts ∧
        Mount.Agree draft.mountPaths draft.mounts := by
  constructor
  · rintro ⟨view, hview⟩
    rcases resolve_cases normal with
      ⟨once, hunrepeated, hagree, -⟩ | ⟨-, _, _, -, herror⟩ | ⟨-, _, _, _, herror⟩
    · exact ⟨once, hunrepeated, hagree⟩
    · rw [herror] at hview
      cases hview
    · rw [herror] at hview
      cases hview
  · rintro ⟨once, hunrepeated, hagree⟩
    exact ⟨_, resolve_eq_ok normal once hunrepeated hagree⟩

theorem resolve_eq_duplicateOperation_iff {method : HttpMethod}
    {path grouping first second : String} :
    draft.resolve = .error (.duplicateOperation method path grouping first second) ↔
      draft.NamesOnce ∧ grouping = draft.label ∧ ∃ earlier later, draft.Repeats earlier later ∧
        later.operation = (path, method) ∧ earlier.sourced.origin = first ∧
          later.sourced.origin = second := by
  constructor
  · intro hrepeated
    rcases resolve_cases normal with
      ⟨-, -, -, view, hview⟩ | ⟨once, earlier, later, h, herror⟩ | ⟨-, _, _, _, herror⟩
    · rw [hview] at hrepeated
      cases hrepeated
    · rw [herror] at hrepeated
      cases hrepeated
      exact ⟨once, rfl, earlier, later, h, rfl, rfl, rfl⟩
    · rw [herror] at hrepeated
      cases hrepeated
  · rintro ⟨once, rfl, earlier, later, h, hoperation, rfl, rfl⟩
    obtain ⟨rfl, rfl⟩ := Prod.mk.inj hoperation
    exact resolve_of_repeats normal once h

theorem resolve_eq_ambiguousParameter_iff :
    (∃ name path reason,
        draft.resolve = .error (.ambiguousParameter name path draft.label reason)) ↔
      ¬ draft.NamesOnce ∨ ∃ mount, draft.Disputes mount := by
  constructor
  · rintro ⟨name, path, reason, hambiguous⟩
    rcases resolve_cases normal with
      ⟨-, -, -, view, hview⟩ | ⟨-, earlier, later, -, herror⟩ | ⟨hdispute, -⟩
    · rw [hview] at hambiguous
      cases hambiguous
    · rw [herror] at hambiguous
      cases hambiguous
    · exact hdispute
  · intro h
    by_cases once : draft.NamesOnce
    · obtain ⟨mount, hdispute⟩ := h.resolve_left (not_not_intro once)
      exact resolve_of_disputes normal once hdispute
    · exact resolve_of_not_namesOnce normal once

end

/-- Whether a draft has a view, and if not, which error it has, depends on its paths and on the
first of its mounts that repeats an operation or lists other values than those before it. -/
theorem resolve_outcome (draft : Draft) (normal : draft.Normal) :
    ((∃ view, draft.resolve = .ok view) ↔
      draft.NamesOnce ∧ Mount.Unrepeated draft.mounts ∧
        Mount.Agree draft.mountPaths draft.mounts) ∧
    (∀ method path grouping first second,
      draft.resolve = .error (.duplicateOperation method path grouping first second) ↔
        draft.NamesOnce ∧ grouping = draft.label ∧ ∃ earlier later, draft.Repeats earlier later ∧
          later.operation = (path, method) ∧ earlier.sourced.origin = first ∧
            later.sourced.origin = second) ∧
    ((∃ name path reason,
        draft.resolve = .error (.ambiguousParameter name path draft.label reason)) ↔
      ¬ draft.NamesOnce ∨ ∃ mount, draft.Disputes mount) :=
  ⟨exists_resolve_eq_ok_iff normal, fun _ _ _ _ _ => resolve_eq_duplicateOperation_iff normal,
    resolve_eq_ambiguousParameter_iff normal⟩

/-- The second endpoint lists other values than the first one, before the third one repeats it. -/
def contested : Draft where
  endpoints :=
    let shops := Parameter.mk "id" none none (some ["north", "south"]) true
    let staff := Parameter.mk "id" none none (some ["east"]) true
    [⟨"shops", { method := .get, paths := ["/shops/{id}"], pathParameters := [shops] }⟩,
      ⟨"staff", { method := .get, paths := ["/shops/{id}/staff"], pathParameters := [staff] }⟩,
      ⟨"again", { method := .get, paths := ["/shops/{id}"] }⟩]

theorem resolve_outcome_contested :
    contested.Normal ∧ contested.NamesOnce ∧ ¬ Mount.Unrepeated contested.mounts ∧
      ∃ mount, contested.Disputes mount := by
  have hpaths : ∀ path ∈ contested.mountPaths, normalize path = path := by decide +kernel
  have hnormal : contested.Normal := fun path hpath => ⟨path, hpaths path hpath⟩
  have honce : contested.NamesOnce := by
    unfold NamesOnce
    decide +kernel
  have hrepeated : ¬ Mount.Unrepeated contested.mounts := by
    unfold Mount.Unrepeated
    decide +kernel
  have hresolve : contested.resolve = .error (.ambiguousParameter "id" "/shops/{id}" "<default>"
      (.allowedValues ["east"] ["north", "south"])) := rfl
  have houtcome := (resolve_outcome contested hnormal).2.2.mp ⟨_, _, _, hresolve⟩
  exact ⟨hnormal, honce, hrepeated, houtcome.resolve_left (not_not_intro honce)⟩

end Draft

end ApiManual
