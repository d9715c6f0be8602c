import ApiManual.Proofs.Outline.Nesting

/-!
The chain of a path holds the entries of exactly those paths of the outline that the path lies at or
below, and the parameters that they bring in are, from the outermost on, the parameters of the path.
-/
namespace ApiManual.Outline

open UriPath

/-- Which path is the parent of another one depends on what paths there are, not on their order. -/
theorem isParent_congr {paths paths' : List String} (same : ∀ path, path ∈ paths ↔ path ∈ paths')
    {parent path : String} : IsParent paths parent path ↔ IsParent paths' parent path := by
  constructor <;> rintro ⟨hmem, hcovers, hne, hlongest⟩
  · exact ⟨(same parent).mp hmem, hcovers, hne,
      fun other hother => hlongest other ((same other).mpr hother)⟩
  · exact ⟨(same parent).mpr hmem, hcovers, hne,
      fun other hother => hlongest other ((same other).mp hother)⟩

theorem isParent_distinct {paths : List String} {parent path : String} :
    IsParent (distinct paths) parent path ↔ IsParent paths parent path :=
  isParent_congr fun _ => mem_distinct

section

variable {paths : List String} (slashed : ∀ path ∈ paths, WellSlashed path)

include slashed

theorem entryOf_congr {paths' : List String} (same : ∀ path, path ∈ paths ↔ path ∈ paths')
    {path : String} (hpath : path ∈ paths) : entryOf paths path = entryOf paths' path := by
  have hparent : parentAmong (distinct paths) path = parentAmong (distinct paths') path := by
    apply Option.ext
    intro parent
    rw [parentAmong_eq_some_iff (fun other hother => slashed other (mem_distinct.mp hother))
        (slashed path hpath),
      parentAmong_eq_some_iff
        (fun other hother => slashed other ((same other).mpr (mem_distinct.mp hother)))
        (slashed path hpath),
      isParent_distinct, isParent_distinct, isParent_congr same]
  unfold entryOf Entry.ofPath
  rw [hparent]

theorem entryOf_parent_eq_some_iff {path parent : String} (hpath : path ∈ paths) :
    (entryOf paths path).parent = some parent ↔ IsParent paths parent path := by
  unfold entryOf
  rw [Entry.ofPath_parent, ← isParent_distinct]
  exact parentAmong_eq_some_iff (fun other hother => slashed other (mem_distinct.mp hother))
    (slashed path hpath)

theorem entryOf_parent_eq_none_iff {path : String} (hpath : path ∈ paths) :
    (entryOf paths path).parent = none ↔ ∀ other ∈ paths, Covers other path → other = path := by
  unfold entryOf
  rw [Entry.ofPath_parent,
    parentAmong_eq_none_iff (fun other hother => slashed other (mem_distinct.mp hother))
      (slashed path hpath)]
  simp only [mem_distinct]

/-- What holds of the roots and passes from a parent to the paths directly below holds of all. -/
theorem nesting_induction {motive : (path : String) → path ∈ paths → Prop}
    (root : ∀ path hpath, (entryOf paths path).parent = none → motive path hpath)
    (child : ∀ path hpath parent (h : IsParent paths parent path),
      motive parent h.mem → motive path hpath)
    (path : String) (hpath : path ∈ paths) : motive path hpath := by
  generalize hcount : segmentCount path = count
  induction count using Nat.strongRecOn generalizing path with
  | ind count ih =>
    cases hparent : (entryOf paths path).parent with
    | none => exact root path hpath hparent
    | some parent =>
      have hp := (entryOf_parent_eq_some_iff slashed hpath).mp hparent
      have hlt := hp.segmentCount_lt slashed (slashed path hpath)
      exact child path hpath parent hp (ih _ (hcount ▸ hlt) parent hp.mem rfl)

omit slashed in
theorem entryOf_tokens_root {path : String} (h : (entryOf paths path).parent = none) :
    (entryOf paths path).tokens = parameters path := by
  rw [entryOf, Entry.ofPath_parent] at h
  unfold entryOf
  rw [ofPath_tokens_root h]

theorem parameters_eq_append_tokens {path parent : String} (hpath : path ∈ paths)
    (h : IsParent paths parent path) :
    parameters path = parameters parent ++ (entryOf paths path).tokens := by
  have hparent := (entryOf_parent_eq_some_iff slashed hpath).mpr h
  rw [entryOf, Entry.ofPath_parent] at hparent
  unfold entryOf
  rw [ofPath_tokens_child hparent]
  exact parameters_eq_append_relativeTo (slashed parent h.mem) (slashed path hpath) h.covers h.ne

theorem entryOf_tokens_sublist {path : String} (hpath : path ∈ paths) :
    (entryOf paths path).tokens.Sublist (parameters path) := by
  cases hparent : (entryOf paths path).parent with
  | none =>
    rw [entryOf_tokens_root hparent]
  | some parent =>
    rw [parameters_eq_append_tokens slashed hpath
      ((entryOf_parent_eq_some_iff slashed hpath).mp hparent)]
    exact List.sublist_append_right _ _

theorem segmentCount_le_position {path parent : String} (hpath : path ∈ paths)
    (h : IsParent paths parent path) {token : Token} (ht : token ∈ (entryOf paths path).tokens) :
    segmentCount parent ≤ token.position := by
  have hparent := (entryOf_parent_eq_some_iff slashed hpath).mpr h
  rw [entryOf, Entry.ofPath_parent] at hparent
  rw [entryOf, ofPath_tokens_child hparent] at ht
  obtain ⟨below, -, hbelow⟩ := List.mem_map.mp ht
  rw [← hbelow, Token.shift_position]
  exact Nat.le_add_right _ _

omit slashed in
theorem entryOf_relativePath_root {path : String} (h : (entryOf paths path).parent = none) :
    (entryOf paths path).relativePath = path := by
  rw [entryOf, Entry.ofPath_parent] at h
  unfold entryOf
  rw [ofPath_relativePath_root h]

theorem entryOf_relativePath_child {parent path : String} (hpath : path ∈ paths)
    (h : IsParent paths parent path) :
    if parent = "/" then (entryOf paths path).relativePath = path
    else parent ++ (entryOf paths path).relativePath = path := by
  have hparent := (entryOf_parent_eq_some_iff slashed hpath).mpr h
  rw [entryOf, Entry.ofPath_parent] at hparent
  unfold entryOf
  rw [ofPath_relativePath_child hparent]
  split
  · rename_i hroot
    exact relativeTo_root (slashed parent h.mem) (slashed path hpath) h.covers h.ne hroot
  · rename_i hroot
    exact append_relativeTo (slashed parent h.mem) (slashed path hpath) h.covers h.ne hroot

theorem wellSlashed_entryOf_relativePath {path : String} (hpath : path ∈ paths) :
    WellSlashed (entryOf paths path).relativePath := by
  cases hparent : (entryOf paths path).parent with
  | none =>
    rw [entryOf_relativePath_root hparent]
    exact slashed path hpath
  | some parent =>
    have hp := (entryOf_parent_eq_some_iff slashed hpath).mp hparent
    rw [entryOf, Entry.ofPath_parent] at hparent
    unfold entryOf
    rw [ofPath_relativePath_child hparent]
    exact wellSlashed_relativeTo (slashed parent hp.mem) (slashed path hpath) hp.covers hp.ne

omit slashed in
theorem chainFrom_none (outline : Outline) (fuel : Nat) : outline.chainFrom fuel none = [] := by
  cases fuel <;> rfl

omit slashed in
/-- How many paths a place lies at or below. -/
def ancestorCount (paths : List String) : Option String → Nat
  | none => 0
  | some path => (distinct paths).countP (Covers · path)

theorem ancestorCount_parent_lt {path : String} (hpath : path ∈ paths) :
    ancestorCount paths (entryOf paths path).parent < ancestorCount paths (some path) := by
  cases hparent : (entryOf paths path).parent with
  | none =>
    apply List.countP_pos_iff.mpr
    exact ⟨path, mem_distinct.mpr hpath, decide_eq_true (Covers.refl path)⟩
  | some parent =>
    have hp := (entryOf_parent_eq_some_iff slashed hpath).mp hparent
    apply countP_lt_countP path
    · intro other _ hcovers
      exact decide_eq_true ((of_decide_eq_true hcovers).trans hp.covers)
    · exact mem_distinct.mpr hpath
    · exact decide_eq_true (Covers.refl path)
    · exact decide_eq_false fun hcovers =>
        hp.ne (Covers.antisymm (slashed parent hp.mem) (slashed path hpath) hp.covers hcovers)

theorem chainFrom_eq_succ {fuel : Nat} {place : Option String}
    (h : ancestorCount paths place ≤ fuel) :
    (ofPaths paths).chainFrom fuel place = (ofPaths paths).chainFrom (fuel + 1) place := by
  refine eq_succ_of_height_le (ofPaths paths).chainFrom (ancestorCount paths) ?_ ?_ h
  · rintro (_ | path) hzero
    · rfl
    · have hpath : path ∉ paths := fun hpath => by
        have := ancestorCount_parent_lt slashed hpath
        omega
      simp only [chainFrom, find_entry_of_not_mem hpath]
  · rintro fuel (_ | path) ih
    · rfl
    · by_cases hpath : path ∈ paths
      · have hstep := ih _ (ancestorCount_parent_lt slashed hpath)
        rw [chainFrom, chainFrom, find_entry_of_mem hpath]
        exact congrArg (entryOf paths path :: ·) hstep
      · simp only [chainFrom, find_entry_of_not_mem hpath]

omit slashed in
theorem ancestorCount_le_length (paths : List String) (place : Option String) :
    ancestorCount paths place ≤ (ofPaths paths).entries.length := by
  rw [entries_ofPaths, List.length_map]
  cases place with
  | none => exact Nat.zero_le _
  | some path => exact List.countP_le_length

theorem chain_eq_cons {path : String} (hpath : path ∈ paths) :
    (ofPaths paths).chain path = entryOf paths path ::
      (ofPaths paths).chainFrom (ofPaths paths).entries.length (entryOf paths path).parent := by
  unfold chain
  rw [chainFrom_eq_succ slashed (ancestorCount_le_length paths (some path)), chainFrom,
    find_entry_of_mem hpath]

theorem chain_root {path : String} (hpath : path ∈ paths)
    (h : (entryOf paths path).parent = none) :
    (ofPaths paths).chain path = [entryOf paths path] := by
  rw [chain_eq_cons slashed hpath, h, chainFrom_none]

theorem chain_of_isParent {path parent : String} (hpath : path ∈ paths)
    (h : IsParent paths parent path) :
    (ofPaths paths).chain path = entryOf paths path :: (ofPaths paths).chain parent := by
  rw [chain_eq_cons slashed hpath, (entryOf_parent_eq_some_iff slashed hpath).mpr h, ← chain]

theorem mem_chain {path : String} (hpath : path ∈ paths) {entry : Entry} :
    entry ∈ (ofPaths paths).chain path ↔
      ∃ other ∈ paths, Covers other path ∧ entryOf paths other = entry := by
  induction path, hpath using nesting_induction slashed with
  | root path hpath hroot =>
    rw [chain_root slashed hpath hroot, List.mem_singleton]
    constructor
    · rintro rfl
      exact ⟨path, hpath, Covers.refl path, rfl⟩
    · rintro ⟨other, hother, hcovers, rfl⟩
      rw [(entryOf_parent_eq_none_iff slashed hpath).mp hroot other hother hcovers]
  | child path hpath parent hparent ih =>
    rw [chain_of_isParent slashed hpath hparent, List.mem_cons, ih]
    constructor
    · rintro (rfl | ⟨other, hother, hcovers, rfl⟩)
      · exact ⟨path, hpath, Covers.refl path, rfl⟩
      · exact ⟨other, hother, hcovers.trans hparent.covers, rfl⟩
    · rintro ⟨other, hother, hcovers, rfl⟩
      rcases (covers_iff_of_isParent hparent hother).mp hcovers with rfl | hcovers
      · exact Or.inl rfl
      · exact Or.inr ⟨other, hother, hcovers, rfl⟩

theorem chain_tokens {path : String} (hpath : path ∈ paths) :
    ((ofPaths paths).chain path).reverse.flatMap (·.tokens) = parameters path := by
  induction path, hpath using nesting_induction slashed with
  | root path hpath hroot =>
    rw [chain_root slashed hpath hroot, List.reverse_singleton, List.flatMap_singleton,
      entryOf_tokens_root hroot]
  | child path hpath parent hparent ih =>
    rw [chain_of_isParent slashed hpath hparent, List.reverse_cons, List.flatMap_append, ih,
      List.flatMap_singleton, parameters_eq_append_tokens slashed hpath hparent]

end

end ApiManual.Outline
