import ApiManual.Proofs.Distinct
import ApiManual.Proofs.Resolution.Declaration

/-!
Once all parameters are declared, each one that a path holds belongs to the one path at or above it
that brings it in, and what an endpoint says about the parameter is said about that declaration.
-/
namespace ApiManual.Resolution

open Outline UriPath Declaration

/-- A path holds a name that its parent does not hold. -/
structure Introduces (paths : List String) (path name : String) : Prop where
  mem : path ∈ paths
  holds : name ∈ parameterNames path
  fresh : ∀ parent, IsParent paths parent path → name ∉ parameterNames parent

/-- All declarations, above before below. -/
def declarationsOf (paths : List String) : List Declaration :=
  (ofPaths paths).preOrder.flatMap Entry.declarations

section

variable {paths : List String} (slashed : ∀ path ∈ paths, WellSlashed path)

include slashed

theorem mem_declarationsOf {declaration : Declaration} :
    declaration ∈ declarationsOf paths ↔ declaration.owner ∈ paths ∧
      declaration.token ∈ (entryOf paths declaration.owner).tokens := by
  unfold declarationsOf
  rw [mem_flatMap_declarations]
  constructor
  · rintro ⟨entry, hentry, howner, htoken⟩
    obtain ⟨path, hpath, rfl⟩ := (mem_preOrder slashed).mp hentry
    rw [entryOf_path] at howner
    rw [howner]
    exact ⟨hpath, htoken⟩
  · rintro ⟨hpath, htoken⟩
    exact ⟨_, (mem_preOrder slashed).mpr ⟨_, hpath, rfl⟩, (entryOf_path _ _).symm, htoken⟩

theorem filter_declarationsOf {path : String} (hpath : path ∈ paths) :
    (declarationsOf paths).filter (·.owner = path) = (entryOf paths path).declarations := by
  have hkeyed : ∀ entry ∈ (ofPaths paths).preOrder, ∀ declaration ∈ entry.declarations,
      declaration.owner = entry.path := by
    intro entry _ declaration hdeclaration
    obtain ⟨token, -, rfl⟩ := List.mem_map.mp hdeclaration
    rfl
  have hmem := (mem_preOrder slashed).mpr ⟨path, hpath, rfl⟩
  have hown := filter_flatMap_key (nodup_preOrder_paths slashed) hkeyed hmem
  rwa [entryOf_path] at hown

theorem parameterNames_sublist {upper lower : String} (hu : upper ∈ paths) (hl : lower ∈ paths)
    (h : Covers upper lower) : (parameterNames upper).Sublist (parameterNames lower) := by
  by_cases heq : upper = lower
  · rw [heq]
  · unfold parameterNames
    rw [parameters_eq_append_relativeTo (slashed upper hu) (slashed lower hl) h heq,
      List.map_append]
    exact List.sublist_append_left _ _

theorem Introduces.unique {upper upper' path name : String} (h : Introduces paths upper name)
    (h' : Introduces paths upper' name) (hcovers : Covers upper path)
    (hcovers' : Covers upper' path) : upper = upper' := by
  wlog hle : segmentCount upper ≤ segmentCount upper' generalizing upper upper'
  · exact (this h' h hcovers' hcovers (by omega)).symm
  by_contra hne
  have hupper := hcovers.of_segmentCount_le hcovers' hle
  cases hparent : (entryOf paths upper').parent with
  | none =>
    exact hne ((entryOf_parent_eq_none_iff slashed h'.mem).mp hparent upper h.mem hupper)
  | some parent =>
    have hp := (entryOf_parent_eq_some_iff slashed h'.mem).mp hparent
    have hsub := parameterNames_sublist slashed h.mem hp.mem (hp.longest upper h.mem hupper hne)
    exact h'.fresh parent hp (hsub.subset h.holds)

theorem exists_introduces {path name : String} (hpath : path ∈ paths)
    (h : name ∈ parameterNames path) :
    ∃ upper, Covers upper path ∧ Introduces paths upper name := by
  induction path, hpath using nesting_induction slashed with
  | root path hpath hroot =>
    refine ⟨path, Covers.refl path, hpath, h, fun parent hparent => ?_⟩
    rw [(entryOf_parent_eq_some_iff slashed hpath).mpr hparent] at hroot
    cases hroot
  | child path hpath parent hparent ih =>
    by_cases habove : name ∈ parameterNames parent
    · obtain ⟨upper, hcovers, hintroduces⟩ := ih habove
      exact ⟨upper, hcovers.trans hparent.covers, hintroduces⟩
    · refine ⟨path, Covers.refl path, hpath, h, fun other hother => ?_⟩
      rwa [hother.unique slashed hparent]

variable (once : ∀ path ∈ paths, (parameterNames path).Nodup)

include once

theorem introduces_iff {path name : String} (hpath : path ∈ paths) :
    Introduces paths path name ↔ ∃ token ∈ (entryOf paths path).tokens, token.name = name := by
  have hfresh := (forall_bringsInFresh_iff slashed).mpr once path hpath
  constructor
  · rintro ⟨-, hholds, hnew⟩
    cases hparent : (entryOf paths path).parent with
    | none =>
      rw [parameterNames, ← entryOf_tokens_root hparent] at hholds
      exact List.mem_map.mp hholds
    | some parent =>
      have hp := (entryOf_parent_eq_some_iff slashed hpath).mp hparent
      rw [parameterNames_eq_append slashed hpath hp, List.mem_append] at hholds
      exact List.mem_map.mp (hholds.resolve_left (hnew parent hp))
  · rintro ⟨token, htoken, rfl⟩
    refine ⟨hpath, ?_, fun parent hparent => hfresh.fresh parent hparent token htoken⟩
    exact List.mem_map_of_mem ((entryOf_tokens_sublist slashed hpath).subset htoken)

theorem introduces_of_onChain? {path name : String} (hpath : path ∈ paths)
    {declaration : Declaration}
    (h : onChain? (declarationsOf paths) ((ofPaths paths).chain path) name = some declaration) :
    Covers declaration.owner path ∧ Introduces paths declaration.owner name := by
  obtain ⟨entry, hentry, hfound⟩ := onChain?_eq_some h
  obtain ⟨hmem, howner, hname⟩ := onPath?_eq_some hfound
  obtain ⟨other, -, hcovers, rfl⟩ := (mem_chain slashed hpath).mp hentry
  rw [entryOf_path] at howner
  obtain ⟨hpath', htoken⟩ := (mem_declarationsOf slashed).mp hmem
  exact ⟨howner ▸ hcovers, (introduces_iff slashed once hpath').mpr ⟨_, htoken, hname⟩⟩

/-- A name belongs, on the chain of a path, to the path there that introduces it. -/
theorem onChain?_owner_iff {path name owner : String} (hpath : path ∈ paths) :
    (∃ declaration, onChain? (declarationsOf paths) ((ofPaths paths).chain path) name =
        some declaration ∧ declaration.owner = owner) ↔
      Covers owner path ∧ Introduces paths owner name := by
  constructor
  · rintro ⟨declaration, hfound, rfl⟩
    exact introduces_of_onChain? slashed once hpath hfound
  · rintro ⟨hcovers, hintroduces⟩
    obtain ⟨token, htoken, hname⟩ := (introduces_iff slashed once hintroduces.mem).mp hintroduces
    cases hfound : onChain? (declarationsOf paths) ((ofPaths paths).chain path) name with
    | none =>
      have hentry := (mem_chain slashed hpath).mpr ⟨owner, hintroduces.mem, hcovers, rfl⟩
      have hnone := onPath?_eq_none_iff.mp (onChain?_eq_none_iff.mp hfound _ hentry)
      have hmem : ⟨owner, token⟩ ∈ declarationsOf paths :=
        (mem_declarationsOf slashed).mpr ⟨hintroduces.mem, htoken⟩
      exact absurd hname (hnone _ hmem (entryOf_path paths owner).symm)
    | some declaration =>
      obtain ⟨hcovers', hintroduces'⟩ := introduces_of_onChain? slashed once hpath hfound
      exact ⟨declaration, rfl, hintroduces'.unique slashed hintroduces hcovers' hcovers⟩

theorem mem_statements {mount : Mount} (hpath : mount.path ∈ paths) {statement : Statement} :
    statement ∈ mount.statements (ofPaths paths) (declarationsOf paths) ↔
      statement.parameter ∈ mount.sourced.endpoint.pathParameters ∧
        Covers statement.owner mount.path ∧
          Introduces paths statement.owner statement.parameter.name := by
  obtain ⟨owner, parameter⟩ := statement
  rw [← onChain?_owner_iff slashed once hpath, Mount.statements, List.mem_filterMap]
  simp only [Option.map_eq_some_iff, Statement.mk.injEq]
  constructor
  · rintro ⟨_, hmem, declaration, hfound, howner, rfl⟩
    exact ⟨hmem, declaration, hfound, howner⟩
  · rintro ⟨hmem, declaration, hfound, howner⟩
    exact ⟨parameter, hmem, declaration, hfound, howner, rfl⟩

end

end ApiManual.Resolution
