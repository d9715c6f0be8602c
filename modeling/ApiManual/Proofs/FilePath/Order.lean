import ApiManual.FilePath
import Mathlib.Data.List.Lex
import Mathlib.Data.List.Nodup

/-!
The order of paths. Paths compare as their steps do, so a list that is put in order and cleared of
repetitions holds each list of steps once, and these lists alone determine what their order is.
-/
namespace ApiManual.FilePath

theorem Step.key_injective : Function.Injective Step.key := by
  have hchars : Function.Injective (List.map Char.toNat) :=
    List.map_injective_iff.mpr fun _ _ => Char.toNat_inj.mp
  intro step other h
  match step, other, h with
  | root, root, _ => rfl
  | current, current, _ => rfl
  | parent, parent, _ => rfl
  | name text, name text', h =>
    exact congrArg name (String.toList_inj.mp (hchars (List.cons.inj h).2))

theorem key_eq_iff {first second : String} : key first = key second ↔ steps first = steps second :=
  (List.map_injective_iff.mpr Step.key_injective).eq_iff

theorem isAtMost_iff {first second : String} :
    isAtMost first second = true ↔ key first ≤ key second := by
  have hlex : (key second).lex (key first) (fun step step' => step.lex step' (· < ·)) = true ↔
      key second < key first := by
    simp only [List.lex_eq_true_iff_lex, decide_eq_true_eq]
    rfl
  rw [isAtMost, Bool.not_eq_true', ← Bool.not_eq_true, hlex, not_lt]

theorem pairwise_mergeSort (paths : List String) :
    (paths.mergeSort isAtMost).Pairwise fun earlier later => key earlier ≤ key later := by
  have hsorted : (paths.mergeSort isAtMost).Pairwise fun earlier later =>
      isAtMost earlier later = true := by
    apply List.pairwise_mergeSort
    · simp only [isAtMost_iff]
      exact fun _ _ _ => le_trans
    · simp only [Bool.or_eq_true, isAtMost_iff]
      exact fun first second => le_total (key first) (key second)
  exact hsorted.imp isAtMost_iff.mp

theorem withoutRepeats_sublist (paths : List String) : (withoutRepeats paths).Sublist paths := by
  induction paths with
  | nil => exact .slnil
  | cons path rest ih =>
    rw [withoutRepeats]
    split
    · exact (List.nil_sublist rest).cons_cons path
    · rename_i next others hrest
      rw [hrest] at ih
      split
      · exact ((List.sublist_cons_self next others).trans ih).cons_cons path
      · exact ih.cons_cons path

theorem mem_steps_withoutRepeats {paths : List String} {taken : List Step} :
    taken ∈ (withoutRepeats paths).map steps ↔ taken ∈ paths.map steps := by
  induction paths with
  | nil => rfl
  | cons path rest ih =>
    rw [List.map_cons, List.mem_cons, ← ih, withoutRepeats]
    split
    · rename_i hrest
      rw [hrest]
      simp
    · rename_i next others hrest
      rw [hrest]
      split
      · rename_i hsame
        simp [hsame]
      · simp

theorem nodup_steps_withoutRepeats {paths : List String}
    (h : paths.Pairwise fun earlier later => key earlier ≤ key later) :
    ((withoutRepeats paths).map steps).Nodup := by
  induction paths with
  | nil => exact List.nodup_nil
  | cons path rest ih =>
    obtain ⟨hpath, hrest⟩ := List.pairwise_cons.mp h
    have hsorted : (withoutRepeats rest).Pairwise fun earlier later => key earlier ≤ key later :=
      hrest.sublist (withoutRepeats_sublist rest)
    have hleast : ∀ other ∈ withoutRepeats rest, key path ≤ key other := fun other hother =>
      hpath other ((withoutRepeats_sublist rest).subset hother)
    have hnodup := ih hrest
    rw [withoutRepeats]
    split
    · simp
    · rename_i next others hnext
      rw [hnext] at hsorted hleast hnodup
      split
      · rename_i hsame
        rwa [List.map_cons, ← hsame, ← List.map_cons]
      · rename_i hother
        -- what is not equal to the least of the others is not equal to any of them
        refine List.nodup_cons.mpr ⟨fun hmem => ?_, hnodup⟩
        obtain ⟨last, hlast, hsame⟩ := List.mem_map.mp hmem
        rw [← key_eq_iff] at hother hsame
        rcases List.mem_cons.mp hlast with rfl | hlast
        · exact hother hsame
        · exact hother (le_antisymm (hsame ▸ (List.pairwise_cons.mp hsorted).1 last hlast)
            (hleast next List.mem_cons_self))

theorem mem_of_mem_inOrder {paths : List String} {path : String} (h : path ∈ inOrder paths) :
    path ∈ paths :=
  List.mem_mergeSort.mp ((withoutRepeats_sublist _).subset h)

theorem mem_steps_inOrder {paths : List String} {taken : List Step} :
    taken ∈ (inOrder paths).map steps ↔ taken ∈ paths.map steps := by
  rw [inOrder, mem_steps_withoutRepeats, List.mem_map, List.mem_map]
  simp only [List.mem_mergeSort]

theorem pairwise_inOrder (paths : List String) :
    (inOrder paths).Pairwise fun earlier later => key earlier ≤ key later :=
  (pairwise_mergeSort paths).sublist (withoutRepeats_sublist _)

theorem nodup_steps_inOrder (paths : List String) : ((inOrder paths).map steps).Nodup :=
  nodup_steps_withoutRepeats (pairwise_mergeSort paths)

theorem pairwise_lt_inOrder (paths : List String) :
    (inOrder paths).Pairwise fun earlier later => key earlier < key later := by
  have hne : (inOrder paths).Pairwise fun earlier later => steps earlier ≠ steps later :=
    List.pairwise_map.mp (nodup_steps_inOrder paths)
  exact (pairwise_inOrder paths).imp₂ (fun _ _ hle hne => lt_of_le_of_ne hle fun heq =>
    hne (key_eq_iff.mp heq)) hne

theorem steps_inOrder_congr {paths others : List String}
    (h : ∀ taken, taken ∈ paths.map steps ↔ taken ∈ others.map steps) :
    (inOrder paths).map steps = (inOrder others).map steps := by
  have hperm : ((inOrder paths).map steps).Perm ((inOrder others).map steps) := by
    apply (List.perm_ext_iff_of_nodup (nodup_steps_inOrder paths)
      (nodup_steps_inOrder others)).mpr
    intro taken
    rw [mem_steps_inOrder, mem_steps_inOrder, h]
  have hsorted : ∀ paths, ((inOrder paths).map steps).Pairwise fun earlier later =>
      earlier.map Step.key ≤ later.map Step.key := fun paths =>
    List.pairwise_map.mpr (pairwise_inOrder paths)
  exact hperm.eq_of_pairwise (fun _ _ _ _ hle hge =>
    List.map_injective_iff.mpr Step.key_injective (le_antisymm hle hge)) (hsorted paths)
    (hsorted others)

end ApiManual.FilePath
