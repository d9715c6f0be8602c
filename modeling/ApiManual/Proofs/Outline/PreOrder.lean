import ApiManual.Proofs.Outline.Chain
import Mathlib.Data.List.Nodup

/-!
The visit of an outline holds each entry once, no entry behind one that lies below it, and the
entries directly below one place in the order in which their paths are first given.
-/
namespace ApiManual.Outline

open UriPath

/-- Whether a path lies properly below a place, the place `none` being above all paths. -/
def LiesBelow : Option String → String → Prop
  | none, _ => True
  | some upper, path => Covers upper path ∧ upper ≠ path

instance : (place : Option String) → (path : String) → Decidable (LiesBelow place path)
  | none, _ => inferInstanceAs (Decidable True)
  | some upper, path => inferInstanceAs (Decidable (Covers upper path ∧ upper ≠ path))

theorem below_eq (paths : List String) (place : Option String) :
    (ofPaths paths).below place =
      ((distinct paths).filter fun path => (entryOf paths path).parent = place).map
        (entryOf paths) := by
  unfold below
  rw [entries_ofPaths, List.filter_map]
  rfl

theorem mem_below {paths : List String} {place : Option String} {entry : Entry} :
    entry ∈ (ofPaths paths).below place ↔
      ∃ path ∈ paths, (entryOf paths path).parent = place ∧ entryOf paths path = entry := by
  simp [below_eq, and_assoc]

theorem nodup_below (paths : List String) (place : Option String) :
    ((ofPaths paths).below place).Nodup := by
  rw [below_eq]
  exact ((nodup_distinct paths).filter _).map (entryOf_injective paths)

/-- The entries below a place, each one followed by all that lie below it. The fuel bounds their
nesting. -/
def descend (outline : Outline) : Nat → Option String → List Entry
  | 0, _ => []
  | fuel + 1, place =>
    (outline.below place).flatMap fun entry => entry :: outline.descend fuel (some entry.path)

def descendants (outline : Outline) (place : Option String) : List Entry :=
  outline.descend outline.entries.length place

def descendantCount (paths : List String) (place : Option String) : Nat :=
  (distinct paths).countP (LiesBelow place ·)

theorem descendantCount_le_length (paths : List String) (place : Option String) :
    descendantCount paths place ≤ (ofPaths paths).entries.length := by
  rw [entries_ofPaths, List.length_map]
  exact List.countP_le_length

section

variable {paths : List String} (slashed : ∀ path ∈ paths, WellSlashed path)

include slashed

theorem liesBelow_parent {path : String} (hpath : path ∈ paths) :
    LiesBelow (entryOf paths path).parent path := by
  cases hparent : (entryOf paths path).parent with
  | none => trivial
  | some parent =>
    have hp := (entryOf_parent_eq_some_iff slashed hpath).mp hparent
    exact ⟨hp.covers, hp.ne⟩

theorem liesBelow_of_covers {path other : String} (hpath : path ∈ paths) (hother : other ∈ paths)
    (h : Covers path other) : LiesBelow (entryOf paths path).parent other := by
  cases hparent : (entryOf paths path).parent with
  | none => trivial
  | some parent =>
    have hp := (entryOf_parent_eq_some_iff slashed hpath).mp hparent
    refine ⟨hp.covers.trans h, ?_⟩
    rintro rfl
    exact hp.ne (Covers.antisymm (slashed parent hother) (slashed path hpath) hp.covers h)

theorem descendantCount_lt {path : String} (hpath : path ∈ paths) :
    descendantCount paths (some path) < descendantCount paths (entryOf paths path).parent := by
  apply countP_lt_countP path
  · intro other hother hbelow
    have hcovers := (of_decide_eq_true hbelow).1
    exact decide_eq_true (liesBelow_of_covers slashed hpath (mem_distinct.mp hother) hcovers)
  · exact mem_distinct.mpr hpath
  · exact decide_eq_true (liesBelow_parent slashed hpath)
  · exact decide_eq_false fun h => h.2 rfl

theorem below_eq_nil {place : Option String} (h : descendantCount paths place = 0) :
    (ofPaths paths).below place = [] := by
  rw [List.eq_nil_iff_forall_not_mem]
  intro entry hentry
  obtain ⟨path, hpath, rfl, -⟩ := mem_below.mp hentry
  have := descendantCount_lt slashed hpath
  omega

/-- What passes from all that lies directly below a place to the place holds of every place. -/
theorem descent_induction {motive : Option String → Prop}
    (step : ∀ place, (∀ path ∈ paths, (entryOf paths path).parent = place → motive (some path)) →
      motive place) (place : Option String) : motive place := by
  generalize hcount : descendantCount paths place = count
  induction count using Nat.strongRecOn generalizing place with
  | ind count ih =>
    apply step
    rintro path hpath rfl
    exact ih _ (hcount ▸ descendantCount_lt slashed hpath) (some path) rfl

theorem descendants_eq (place : Option String) :
    (ofPaths paths).descendants place = ((ofPaths paths).below place).flatMap fun entry =>
      entry :: (ofPaths paths).descendants (some entry.path) := by
  refine eq_succ_of_height_le (ofPaths paths).descend (descendantCount paths) ?_ ?_
    (descendantCount_le_length paths place)
  · intro place hzero
    rw [descend, descend, below_eq_nil slashed hzero, List.flatMap_nil]
  · intro fuel place ih
    rw [descend, descend]
    apply List.flatMap_congr
    intro entry hentry
    obtain ⟨path, hpath, rfl, rfl⟩ := mem_below.mp hentry
    rw [entryOf_path, ih _ (descendantCount_lt slashed hpath)]

theorem visit_eq_take (steps : Nat) (pending : List Entry) :
    (ofPaths paths).visit steps pending =
      (pending.flatMap fun entry =>
        entry :: (ofPaths paths).descendants (some entry.path)).take steps := by
  induction steps generalizing pending with
  | zero => rfl
  | succ steps ih =>
    cases pending with
    | nil => rfl
    | cons entry rest =>
      unfold visit
      rw [ih, List.flatMap_append, ← descendants_eq slashed, List.flatMap_cons,
        List.cons_append, List.take_succ_cons]

theorem exists_child_covering {place : Option String} {path : String}
    (hplace : ∀ upper, place = some upper → upper ∈ paths) (hpath : path ∈ paths)
    (h : LiesBelow place path) :
    ∃ child ∈ paths, (entryOf paths child).parent = place ∧ Covers child path := by
  induction path, hpath using nesting_induction slashed with
  | root path hpath hroot =>
    refine ⟨path, hpath, ?_, Covers.refl path⟩
    cases place with
    | none => exact hroot
    | some upper =>
      exact absurd ((entryOf_parent_eq_none_iff slashed hpath).mp hroot upper
        (hplace upper rfl) h.1) h.2
  | child path hpath parent hparent ih =>
    have hsome := (entryOf_parent_eq_some_iff slashed hpath).mpr hparent
    by_cases heq : place = some parent
    · exact ⟨path, hpath, by rw [hsome, heq], Covers.refl path⟩
    · have hbelow : LiesBelow place parent := by
        cases place with
        | none => trivial
        | some upper =>
          refine ⟨hparent.longest upper (hplace upper rfl) h.1 h.2, ?_⟩
          rintro rfl
          exact heq rfl
      obtain ⟨child, hchild, hplace, hcovers⟩ := ih hbelow
      exact ⟨child, hchild, hplace, hcovers.trans hparent.covers⟩

/-- No path lies below two paths that lie directly below one place. -/
theorem eq_of_siblings_cover {left right path : String} (hleft : left ∈ paths)
    (hright : right ∈ paths)
    (hsame : (entryOf paths left).parent = (entryOf paths right).parent)
    (hl : Covers left path) (hr : Covers right path) : left = right := by
  wlog hle : segmentCount left ≤ segmentCount right generalizing left right
  · exact (this hright hleft hsame.symm hr hl (by omega)).symm
  have hcovers := hl.of_segmentCount_le hr hle
  by_contra hne
  cases hparent : (entryOf paths right).parent with
  | none =>
    exact hne ((entryOf_parent_eq_none_iff slashed hright).mp hparent left hleft hcovers)
  | some parent =>
    have hpr := (entryOf_parent_eq_some_iff slashed hright).mp hparent
    have hpl := (entryOf_parent_eq_some_iff slashed hleft).mp (hsame.trans hparent)
    exact hpl.ne (Covers.antisymm (slashed parent hpl.mem) (slashed left hleft) hpl.covers
      (hpr.longest left hleft hcovers hne))

theorem mem_descendants {place : Option String}
    (hplace : ∀ upper, place = some upper → upper ∈ paths) {entry : Entry} :
    entry ∈ (ofPaths paths).descendants place ↔
      ∃ path ∈ paths, LiesBelow place path ∧ entryOf paths path = entry := by
  induction place using descent_induction slashed generalizing entry with
  | step place ih =>
    rw [descendants_eq slashed, List.mem_flatMap]
    constructor
    · rintro ⟨child, hchild, hentry⟩
      obtain ⟨path, hpath, rfl, rfl⟩ := mem_below.mp hchild
      rw [entryOf_path, List.mem_cons, ih path hpath rfl (by rintro _ ⟨⟩; exact hpath)] at hentry
      rcases hentry with rfl | ⟨other, hother, ⟨hcovers, -⟩, rfl⟩
      · exact ⟨path, hpath, liesBelow_parent slashed hpath, rfl⟩
      · exact ⟨other, hother, liesBelow_of_covers slashed hpath hother hcovers, rfl⟩
    · rintro ⟨path, hpath, hbelow, rfl⟩
      obtain ⟨child, hchild, hparent, hcovers⟩ :=
        exists_child_covering slashed hplace hpath hbelow
      refine ⟨entryOf paths child, mem_below.mpr ⟨child, hchild, hparent, rfl⟩, ?_⟩
      rw [entryOf_path, List.mem_cons, ih child hchild hparent (by rintro _ ⟨⟩; exact hchild)]
      by_cases heq : child = path
      · exact Or.inl (by rw [heq])
      · exact Or.inr ⟨path, hpath, ⟨hcovers, heq⟩, rfl⟩

theorem pairwise_descendants {place : Option String}
    (hplace : ∀ upper, place = some upper → upper ∈ paths) :
    ((ofPaths paths).descendants place).Pairwise
      fun earlier later => ¬ Covers later.path earlier.path := by
  induction place using descent_induction slashed with
  | step place ih =>
    rw [descendants_eq slashed, List.pairwise_flatMap]
    -- the entries at or below one child all lie below the path of that child
    have hcover : ∀ path ∈ paths, ∀ entry ∈ entryOf paths path ::
        (ofPaths paths).descendants (some path), Covers path entry.path := by
      intro path hpath entry hentry
      rcases List.mem_cons.mp hentry with rfl | hentry
      · rw [entryOf_path]
        exact Covers.refl path
      · obtain ⟨other, -, ⟨hcovers, -⟩, rfl⟩ :=
          (mem_descendants slashed (by rintro _ ⟨⟩; exact hpath)).mp hentry
        rwa [entryOf_path]
    constructor
    · intro child hchild
      obtain ⟨path, hpath, rfl, rfl⟩ := mem_below.mp hchild
      rw [entryOf_path, List.pairwise_cons]
      refine ⟨fun entry hentry hcovers => ?_, ih path hpath rfl (by rintro _ ⟨⟩; exact hpath)⟩
      obtain ⟨other, hother, ⟨hcovers', hne⟩, rfl⟩ :=
        (mem_descendants slashed (by rintro _ ⟨⟩; exact hpath)).mp hentry
      rw [entryOf_path, entryOf_path] at hcovers
      exact hne (Covers.antisymm (slashed path hpath) (slashed other hother) hcovers' hcovers)
    · refine (nodup_below paths place).imp_of_mem fun hleft hright hne => ?_
      obtain ⟨left, hl, hparent, rfl⟩ := mem_below.mp hleft
      obtain ⟨right, hr, hparent', rfl⟩ := mem_below.mp hright
      rw [entryOf_path, entryOf_path]
      intro earlier hearlier later hlater hcovers
      have hsame := eq_of_siblings_cover slashed hl hr (hparent.trans hparent'.symm)
        (hcover left hl earlier hearlier) ((hcover right hr later hlater).trans hcovers)
      exact hne (by rw [hsame])

theorem nodup_descendants {place : Option String}
    (hplace : ∀ upper, place = some upper → upper ∈ paths) :
    ((ofPaths paths).descendants place).Nodup := by
  apply (pairwise_descendants slashed hplace).imp
  rintro entry _ hcovers rfl
  exact hcovers (Covers.refl entry.path)

theorem descendants_none_perm :
    ((ofPaths paths).descendants none).Perm (ofPaths paths).entries := by
  have hnone : ∀ upper, none = some upper → upper ∈ paths := by simp
  refine (List.perm_ext_iff_of_nodup (nodup_descendants slashed hnone) ?_).mpr fun entry => ?_
  · rw [entries_ofPaths]
    exact (nodup_distinct paths).map (entryOf_injective paths)
  · rw [mem_descendants slashed hnone, mem_entries]
    simp only [LiesBelow, true_and]

theorem preOrder_eq : (ofPaths paths).preOrder = (ofPaths paths).descendants none := by
  unfold preOrder
  rw [visit_eq_take slashed, ← descendants_eq slashed,
    ← (descendants_none_perm slashed).length_eq, List.take_length]

theorem preOrder_perm : (ofPaths paths).preOrder.Perm (ofPaths paths).entries := by
  rw [preOrder_eq slashed]
  exact descendants_none_perm slashed

theorem mem_preOrder {entry : Entry} :
    entry ∈ (ofPaths paths).preOrder ↔ ∃ path ∈ paths, entryOf paths path = entry := by
  rw [(preOrder_perm slashed).mem_iff, mem_entries]

theorem pairwise_preOrder :
    (ofPaths paths).preOrder.Pairwise fun earlier later => ¬ Covers later.path earlier.path := by
  rw [preOrder_eq slashed]
  exact pairwise_descendants slashed (by simp)

theorem nodup_preOrder_paths : ((ofPaths paths).preOrder.map (·.path)).Nodup := by
  simp only [List.Nodup, List.pairwise_map]
  apply (pairwise_preOrder slashed).imp
  intro earlier later hcovers heq
  exact hcovers (heq ▸ Covers.refl earlier.path)

end

end ApiManual.Outline
