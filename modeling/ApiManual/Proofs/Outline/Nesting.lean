import ApiManual.Outline
import ApiManual.Proofs.Fuel
import ApiManual.Proofs.UriPath.Parameters

/-!
Parents and chains. The parent of a path is the longest path of the outline that it lies properly
below, and its chain holds, innermost first, all paths of the outline that it lies at or below.
-/
namespace ApiManual.Outline

open UriPath

/-- The longest of some paths that a path lies properly below. -/
structure IsParent (paths : List String) (parent path : String) : Prop where
  mem : parent ∈ paths
  covers : Covers parent path
  ne : parent ≠ path
  longest : ∀ other ∈ paths, Covers other path → other ≠ path → Covers other parent

theorem foldl_longer_eq_none {best : Option String} {paths : List String}
    (h : paths.foldl longer best = none) : best = none ∧ paths = [] := by
  induction paths generalizing best with
  | nil => exact ⟨h, rfl⟩
  | cons path rest ih =>
    have hlonger := (ih h).1
    cases best with
    | none => simp [longer] at hlonger
    | some other =>
      simp only [longer] at hlonger
      split at hlonger <;> simp at hlonger

theorem longer_cases (best : Option String) (path : String) :
    longer best path = some path ∧
        (∀ other, best = some other → segmentCount other ≤ segmentCount path) ∨
      longer best path = best ∧ ∃ other, best = some other ∧
        segmentCount path ≤ segmentCount other := by
  cases best with
  | none => exact Or.inl ⟨rfl, by simp⟩
  | some other =>
    simp only [longer, Option.some.injEq, forall_eq', exists_eq_left']
    by_cases hle : segmentCount other ≤ segmentCount path
    · exact Or.inl ⟨by rw [if_pos hle], hle⟩
    · exact Or.inr ⟨by rw [if_neg hle], by omega⟩

theorem foldl_longer_eq_some {best : Option String} {paths : List String} {longest : String}
    (h : paths.foldl longer best = some longest) :
    (longest ∈ paths ∨ best = some longest) ∧
      (∀ path ∈ paths, segmentCount path ≤ segmentCount longest) ∧
      ∀ path, best = some path → segmentCount path ≤ segmentCount longest := by
  induction paths generalizing best with
  | nil =>
    rw [List.foldl_nil] at h
    refine ⟨Or.inr h, by simp, ?_⟩
    intro path hpath
    rw [hpath, Option.some.injEq] at h
    exact h ▸ Nat.le_refl _
  | cons path rest ih =>
    obtain ⟨hmem, hrest, hbest⟩ := ih h
    rcases longer_cases best path with ⟨hlonger, hother⟩ | ⟨hlonger, other, rfl, hle⟩
    · rw [hlonger] at hmem hbest
      have hpath := hbest path rfl
      refine ⟨Or.inl ?_, ?_, fun other heq => Nat.le_trans (hother other heq) hpath⟩
      · rcases hmem with hmem | hmem
        · exact List.mem_cons_of_mem path hmem
        · exact List.mem_cons.mpr (Or.inl (Option.some.inj hmem).symm)
      · simpa [hpath] using hrest
    · rw [hlonger] at hmem hbest
      refine ⟨?_, ?_, hbest⟩
      · exact hmem.imp_left (List.mem_cons_of_mem path)
      · simpa [Nat.le_trans hle (hbest other rfl)] using hrest

section Parent

variable {paths : List String} (slashed : ∀ path ∈ paths, WellSlashed path)

include slashed

theorem mem_properAbove {path other : String} (hpath : WellSlashed path) :
    other ∈ paths.filter (isProperPrefix · path) ↔
      other ∈ paths ∧ Covers other path ∧ other ≠ path := by
  rw [List.mem_filter]
  exact and_congr_right fun hmem => isProperPrefix_iff (slashed other hmem) hpath

theorem IsParent.unique {parent parent' path : String} (h : IsParent paths parent path)
    (h' : IsParent paths parent' path) : parent = parent' :=
  Covers.antisymm (slashed parent h.mem) (slashed parent' h'.mem)
    (h'.longest parent h.mem h.covers h.ne) (h.longest parent' h'.mem h'.covers h'.ne)

theorem IsParent.segmentCount_lt {parent path : String} (hpath : WellSlashed path)
    (h : IsParent paths parent path) : segmentCount parent < segmentCount path :=
  h.covers.segmentCount_lt (slashed parent h.mem) hpath h.ne

theorem isParent_of_parentAmong {path parent : String} (hpath : WellSlashed path)
    (h : parentAmong paths path = some parent) : IsParent paths parent path := by
  obtain ⟨hmem, hlongest, -⟩ := foldl_longer_eq_some h
  rcases hmem with hmem | hnone
  · obtain ⟨hparent, hcovers, hne⟩ := (mem_properAbove slashed hpath).mp hmem
    refine ⟨hparent, hcovers, hne, fun other hother hcovers' hne' => ?_⟩
    have hcount := hlongest other ((mem_properAbove slashed hpath).mpr ⟨hother, hcovers', hne'⟩)
    exact hcovers'.of_segmentCount_le hcovers hcount
  · simp at hnone

theorem parentAmong_eq_none_iff {path : String} (hpath : WellSlashed path) :
    parentAmong paths path = none ↔ ∀ other ∈ paths, Covers other path → other = path := by
  constructor
  · intro h other hmem hcovers
    by_contra hne
    have hempty := (foldl_longer_eq_none h).2
    have hother := (mem_properAbove slashed hpath).mpr ⟨hmem, hcovers, hne⟩
    rw [hempty] at hother
    exact List.not_mem_nil hother
  · intro h
    cases hparent : parentAmong paths path with
    | none => rfl
    | some parent =>
      have hp := isParent_of_parentAmong slashed hpath hparent
      exact absurd (h parent hp.mem hp.covers) hp.ne

theorem parentAmong_eq_some_iff {path parent : String} (hpath : WellSlashed path) :
    parentAmong paths path = some parent ↔ IsParent paths parent path := by
  refine ⟨isParent_of_parentAmong slashed hpath, fun h => ?_⟩
  cases hparent : parentAmong paths path with
  | none =>
    exact absurd ((parentAmong_eq_none_iff slashed hpath).mp hparent parent h.mem h.covers) h.ne
  | some other =>
    have hother := isParent_of_parentAmong slashed hpath hparent
    rw [hother.unique slashed h]

end Parent

theorem covers_iff_of_isParent {paths : List String} {parent path other : String}
    (h : IsParent paths parent path) (hother : other ∈ paths) :
    Covers other path ↔ other = path ∨ Covers other parent := by
  constructor
  · intro hcovers
    by_cases heq : other = path
    · exact Or.inl heq
    · exact Or.inr (h.longest other hother hcovers heq)
  · rintro (rfl | hcovers)
    · exact Covers.refl other
    · exact hcovers.trans h.covers

@[simp] theorem Entry.ofPath_path (paths : List String) (path : String) :
    (Entry.ofPath paths path).path = path := by
  unfold Entry.ofPath
  split <;> rfl

@[simp] theorem Entry.ofPath_parent (paths : List String) (path : String) :
    (Entry.ofPath paths path).parent = parentAmong paths path := by
  unfold Entry.ofPath
  split
  · rename_i h
    rw [h]
  · rename_i h
    rw [h]

section Written

variable {paths : List String} {path parent : String}

theorem ofPath_tokens_root (h : parentAmong paths path = none) :
    (Entry.ofPath paths path).tokens = parameters path := by
  unfold Entry.ofPath
  rw [h]

theorem ofPath_tokens_child (h : parentAmong paths path = some parent) :
    (Entry.ofPath paths path).tokens =
      (parameters (relativeTo parent path)).map (Token.shift (segmentCount parent)) := by
  simp only [Entry.ofPath, h]
  rfl

theorem ofPath_relativePath_root (h : parentAmong paths path = none) :
    (Entry.ofPath paths path).relativePath = path := by
  unfold Entry.ofPath
  rw [h]

theorem ofPath_relativePath_child (h : parentAmong paths path = some parent) :
    (Entry.ofPath paths path).relativePath = relativeTo parent path := by
  unfold Entry.ofPath
  rw [h]

end Written

def entryOf (paths : List String) (path : String) : Entry := Entry.ofPath (distinct paths) path

@[simp] theorem entryOf_path (paths : List String) (path : String) :
    (entryOf paths path).path = path := Entry.ofPath_path _ _

theorem entryOf_injective (paths : List String) : Function.Injective (entryOf paths) := by
  intro path path' h
  rw [← entryOf_path paths path, h, entryOf_path]

theorem entries_ofPaths (paths : List String) :
    (ofPaths paths).entries = (distinct paths).map (entryOf paths) := rfl

theorem mem_entries {paths : List String} {entry : Entry} :
    entry ∈ (ofPaths paths).entries ↔ ∃ path ∈ paths, entryOf paths path = entry := by
  rw [entries_ofPaths, List.mem_map]
  simp only [mem_distinct]

theorem find_entry_of_mem {paths : List String} {path : String} (h : path ∈ paths) :
    Outline.entryAt? (ofPaths paths) path = some (entryOf paths path) := by
  have hsome : Option.isSome (Outline.entryAt? (ofPaths paths) path) := by
    rw [Outline.entryAt?, List.find?_isSome]
    exact ⟨entryOf paths path, mem_entries.mpr ⟨path, h, rfl⟩, by simp⟩
  obtain ⟨entry, hentry⟩ := Option.isSome_iff_exists.mp hsome
  obtain ⟨other, -, rfl⟩ := mem_entries.mp (List.mem_of_find?_eq_some hentry)
  have hpath := List.find?_some hentry
  rw [entryOf_path, decide_eq_true_eq] at hpath
  rw [hentry, hpath]

theorem find_entry_of_not_mem {paths : List String} {path : String} (h : path ∉ paths) :
    Outline.entryAt? (ofPaths paths) path = none := by
  rw [Outline.entryAt?, List.find?_eq_none]
  intro entry hentry
  obtain ⟨other, hother, rfl⟩ := mem_entries.mp hentry
  rw [entryOf_path, decide_eq_true_eq]
  rintro rfl
  exact h hother

end ApiManual.Outline
