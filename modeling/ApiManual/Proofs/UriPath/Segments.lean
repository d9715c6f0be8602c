import ApiManual.UriPath
import Mathlib.Data.List.Basic

/-!
Paths as lists of segments. A path that is written as its segments are is given by them, and it
lies below another one exactly if its segments continue those of the other.
-/
namespace ApiManual

namespace Text

theorem fields_of_not_mem {separator : Char} {text : List Char} (h : separator ∉ text) :
    fields separator text = [text] := by
  induction text with
  | nil => rfl
  | cons c rest ih =>
    have hc : c ≠ separator := by
      rintro rfl
      exact h List.mem_cons_self
    unfold fields
    rw [if_neg hc, ih fun hmem => h (List.mem_cons_of_mem c hmem)]

theorem fields_append_cons (separator : Char) (left right : List Char) :
    fields separator (left ++ separator :: right) =
      fields separator left ++ fields separator right := by
  induction left with
  | nil => simp [fields]
  | cons c rest ih =>
    by_cases hc : c = separator
    · simp [fields, hc, ih]
    · rw [List.cons_append, fields, if_neg hc, fields, if_neg hc, ih]
      cases hf : fields separator rest with
      | nil => exact absurd hf (fields_ne_nil separator rest)
      | cons piece pieces => rfl

theorem not_mem_of_mem_fields {separator : Char} {text piece : List Char}
    (h : piece ∈ fields separator text) : separator ∉ piece := by
  induction text generalizing piece with
  | nil =>
    rw [fields, List.mem_singleton] at h
    simp [h]
  | cons c rest ih =>
    by_cases hc : c = separator
    · simp only [fields, hc, if_true, List.mem_cons] at h
      rcases h with rfl | h
      · exact List.not_mem_nil
      · exact ih h
    · rw [fields, if_neg hc] at h
      cases hf : fields separator rest with
      | nil => exact absurd hf (fields_ne_nil separator rest)
      | cons first others =>
        simp only [hf, List.mem_cons] at h ih
        rcases h with rfl | h
        · have hfirst := ih (Or.inl rfl)
          simp [hfirst, Ne.symm hc]
        · exact ih (Or.inr h)

end Text

namespace UriPath

theorem segments_append_slash (left right : List Char) :
    segments (left ++ '/' :: right) = segments left ++ segments right := by
  rw [segments, Text.fields_append_cons, List.filter_append]
  rfl

theorem segments_slash_cons (text : List Char) : segments ('/' :: text) = segments text :=
  segments_append_slash [] text

theorem segments_of_not_mem {segment : List Char} (hne : segment ≠ []) (h : '/' ∉ segment) :
    segments segment = [segment] := by
  simp [segments, Text.fields_of_not_mem h, hne]

theorem ne_nil_of_mem_segments {path segment : List Char} (h : segment ∈ segments path) :
    segment ≠ [] := by
  simpa using (List.mem_filter.mp h).2

theorem slash_not_mem_of_mem_segments {path segment : List Char} (h : segment ∈ segments path) :
    '/' ∉ segment :=
  Text.not_mem_of_mem_fields (List.mem_filter.mp h).1

theorem ofSegments_cons_cons (first second : List Char) (rest : List (List Char)) :
    ofSegments (first :: second :: rest) = '/' :: first ++ ofSegments (second :: rest) := by
  simp [ofSegments, List.intercalate, List.intersperse_cons_cons]

theorem ofSegments_append {upper lower : List (List Char)} (hu : upper ≠ []) (hl : lower ≠ []) :
    ofSegments (upper ++ lower) = ofSegments upper ++ ofSegments lower := by
  induction upper with
  | nil => exact absurd rfl hu
  | cons first rest ih =>
    cases rest with
    | nil =>
      cases lower with
      | nil => exact absurd rfl hl
      | cons second others =>
        rw [List.singleton_append, ofSegments_cons_cons]
        simp [ofSegments, List.intercalate]
    | cons second others =>
      rw [List.cons_append, List.cons_append, ofSegments_cons_cons, ofSegments_cons_cons,
        ← List.cons_append, ih (List.cons_ne_nil second others), List.append_assoc]

theorem segments_ofSegments {parts : List (List Char)}
    (clean : ∀ part ∈ parts, part ≠ [] ∧ '/' ∉ part) : segments (ofSegments parts) = parts := by
  induction parts with
  | nil => rfl
  | cons first rest ih =>
    obtain ⟨hne, hslash⟩ := clean first List.mem_cons_self
    have hfirst := segments_of_not_mem hne hslash
    have hrest := ih fun part hpart => clean part (List.mem_cons_of_mem first hpart)
    cases rest with
    | nil => simpa [ofSegments, List.intercalate, segments_slash_cons] using hfirst
    | cons second others =>
      rw [ofSegments_cons_cons, List.cons_append, segments_slash_cons, ofSegments,
        segments_append_slash, hfirst, ← segments_slash_cons]
      exact congrArg (first :: ·) hrest

def parts (path : String) : List (List Char) := segments path.toList

/-- A path begins with a slash, has no empty segment and, but for the root, no slash at its end. -/
def WellSlashed (path : String) : Prop := ofSegments (parts path) = path.toList

theorem parts_clean (path : String) :
    ∀ part ∈ parts path, part ≠ [] ∧ '/' ∉ part :=
  fun _ hpart => ⟨ne_nil_of_mem_segments hpart, slash_not_mem_of_mem_segments hpart⟩

theorem parts_ofList_ofSegments {segments : List (List Char)}
    (clean : ∀ part ∈ segments, part ≠ [] ∧ '/' ∉ part) :
    parts (String.ofList (ofSegments segments)) = segments := by
  unfold parts
  rw [String.toList_ofList, segments_ofSegments clean]

theorem wellSlashed_ofList {segments : List (List Char)}
    (clean : ∀ part ∈ segments, part ≠ [] ∧ '/' ∉ part) :
    WellSlashed (String.ofList (ofSegments segments)) := by
  unfold WellSlashed
  rw [parts_ofList_ofSegments clean, String.toList_ofList]

theorem wellSlashed_normalize (path : String) : WellSlashed (normalize path) :=
  wellSlashed_ofList fun _ hpart =>
    ⟨ne_nil_of_mem_segments hpart, slash_not_mem_of_mem_segments hpart⟩

theorem WellSlashed.ofList_eq {path : String} (h : WellSlashed path) :
    String.ofList (ofSegments (parts path)) = path := by
  rw [h, String.ofList_toList]

theorem WellSlashed.eq_of_parts_eq {left right : String} (hl : WellSlashed left)
    (hr : WellSlashed right) (h : parts left = parts right) : left = right := by
  rw [← hl.ofList_eq, ← hr.ofList_eq, h]

theorem WellSlashed.head?_toList {path : String} (h : WellSlashed path) :
    path.toList.head? = some '/' := by
  rw [← h]
  rfl

theorem WellSlashed.parts_eq_nil_iff {path : String} (h : WellSlashed path) :
    parts path = [] ↔ path.toList = ['/'] := by
  constructor
  · intro hnil
    rw [← h, hnil]
    rfl
  · intro hroot
    unfold parts
    rw [hroot]
    rfl

/-- The segments of the lower path begin with those of the upper one. -/
def Covers (upper lower : String) : Prop := parts upper <+: parts lower

instance (upper lower : String) : Decidable (Covers upper lower) :=
  inferInstanceAs (Decidable (parts upper <+: parts lower))

theorem Covers.refl (path : String) : Covers path path := List.prefix_rfl

theorem Covers.trans {upper middle lower : String} (h : Covers upper middle)
    (h' : Covers middle lower) : Covers upper lower := List.IsPrefix.trans h h'

theorem Covers.antisymm {upper lower : String} (hu : WellSlashed upper) (hl : WellSlashed lower)
    (h : Covers upper lower) (h' : Covers lower upper) : upper = lower :=
  hu.eq_of_parts_eq hl (h.eq_of_length (Nat.le_antisymm h.length_le h'.length_le))

theorem root_covers (path : String) : Covers "/" path := List.nil_prefix

theorem Covers.eq_root {upper : String} (hu : WellSlashed upper) (h : Covers upper "/") :
    upper = "/" := by
  have hroot : WellSlashed "/" := rfl
  exact h.antisymm hu hroot (root_covers upper)

theorem Covers.of_segmentCount_le {left right lower : String} (hl : Covers left lower)
    (hr : Covers right lower) (h : segmentCount left ≤ segmentCount right) : Covers left right :=
  List.prefix_of_prefix_length_le hl hr h

theorem Covers.segmentCount_lt {upper lower : String} (hu : WellSlashed upper)
    (hl : WellSlashed lower) (h : Covers upper lower) (hne : upper ≠ lower) :
    segmentCount upper < segmentCount lower := by
  refine Nat.lt_of_le_of_ne h.length_le fun hlength => hne ?_
  exact hu.eq_of_parts_eq hl (h.eq_of_length hlength)

/-- A path below the root has the root's text in front only by its own first slash; below any other
path it repeats that path and goes on with a path of its own. -/
theorem WellSlashed.toList_eq_append {upper lower : String} {rest : List (List Char)}
    (hu : WellSlashed upper) (hl : WellSlashed lower) (h : parts lower = parts upper ++ rest)
    (hrest : rest ≠ []) (hroot : upper.toList ≠ ['/']) :
    lower.toList = upper.toList ++ ofSegments rest := by
  have hne : parts upper ≠ [] := fun hnil => hroot (hu.parts_eq_nil_iff.mp hnil)
  rw [← hl, ← hu, h, ofSegments_append hne hrest]

theorem isProperPrefix_iff {upper lower : String} (hu : WellSlashed upper)
    (hl : WellSlashed lower) :
    isProperPrefix upper lower = true ↔ Covers upper lower ∧ upper ≠ lower := by
  unfold isProperPrefix isBelow
  split
  · rename_i hroot
    have hnil : parts upper = [] := hu.parts_eq_nil_iff.mpr hroot
    have hcovers : Covers upper lower := by
      unfold Covers
      rw [hnil]
      exact List.nil_prefix
    simp only [hroot, decide_eq_true_eq, hcovers, true_and]
    rw [← hroot, ne_eq, ne_eq, String.toList_inj, eq_comm]
  · rename_i hroot
    rw [List.isPrefixOf_iff_prefix]
    constructor
    · rintro ⟨tail, htail⟩
      simp only [List.append_assoc, List.singleton_append] at htail
      have hparts : parts lower = parts upper ++ segments tail := by
        rw [parts, ← htail, segments_append_slash, parts]
      refine ⟨⟨segments tail, hparts.symm⟩, ?_⟩
      rintro rfl
      simpa using congrArg List.length htail
    · rintro ⟨⟨rest, hrest⟩, hne⟩
      have hnil : rest ≠ [] := by
        rintro rfl
        rw [List.append_nil] at hrest
        exact hne (hu.eq_of_parts_eq hl hrest)
      rw [hu.toList_eq_append hl hrest.symm hnil hroot]
      exact ⟨['/'].intercalate rest, by simp [ofSegments]⟩

theorem relativeTo_eq {upper lower : String} {rest : List (List Char)} (hu : WellSlashed upper)
    (hl : WellSlashed lower) (h : parts lower = parts upper ++ rest) (hrest : rest ≠ []) :
    relativeTo upper lower = String.ofList (ofSegments rest) := by
  unfold relativeTo below
  split
  · rename_i hroot
    rw [hu.parts_eq_nil_iff.mpr hroot, List.nil_append] at h
    rw [← h, hl]
  · rename_i hroot
    have htext := hu.toList_eq_append hl h hrest hroot
    have hprefix : upper.toList.isPrefixOf lower.toList = true := by
      rw [List.isPrefixOf_iff_prefix, htext]
      exact List.prefix_append _ _
    rw [if_pos hprefix, htext, List.drop_left]

section

variable {upper lower : String} (hu : WellSlashed upper) (hl : WellSlashed lower)
  (hcovers : Covers upper lower) (hne : upper ≠ lower)

include hu hl hcovers hne

theorem exists_relativeTo_eq :
    ∃ rest ≠ [], parts lower = parts upper ++ rest ∧
      relativeTo upper lower = String.ofList (ofSegments rest) := by
  obtain ⟨rest, hrest⟩ := hcovers
  have hnil : rest ≠ [] := by
    rintro rfl
    rw [List.append_nil] at hrest
    exact hne (hu.eq_of_parts_eq hl hrest)
  exact ⟨rest, hnil, hrest.symm, relativeTo_eq hu hl hrest.symm hnil⟩

theorem wellSlashed_relativeTo : WellSlashed (relativeTo upper lower) := by
  obtain ⟨rest, -, hparts, hrelative⟩ := exists_relativeTo_eq hu hl hcovers hne
  rw [hrelative]
  apply wellSlashed_ofList
  intro part hpart
  apply parts_clean lower part
  rw [hparts]
  exact List.mem_append_right _ hpart

theorem parts_eq_append_relativeTo :
    parts lower = parts upper ++ parts (relativeTo upper lower) := by
  obtain ⟨rest, -, hparts, hrelative⟩ := exists_relativeTo_eq hu hl hcovers hne
  have hclean : ∀ part ∈ rest, part ≠ [] ∧ '/' ∉ part := by
    intro part hpart
    apply parts_clean lower part
    rw [hparts]
    exact List.mem_append_right _ hpart
  rw [hrelative, parts_ofList_ofSegments hclean, hparts]

theorem relativeTo_root (hroot : upper = "/") : relativeTo upper lower = lower := by
  obtain ⟨rest, -, hparts, hrelative⟩ := exists_relativeTo_eq hu hl hcovers hne
  have hnil : parts upper = [] := by
    rw [hroot]
    rfl
  rw [hnil, List.nil_append] at hparts
  rw [hrelative, ← hparts, hl.ofList_eq]

theorem append_relativeTo (hroot : upper ≠ "/") : upper ++ relativeTo upper lower = lower := by
  obtain ⟨rest, hrest, hparts, hrelative⟩ := exists_relativeTo_eq hu hl hcovers hne
  have htext : upper.toList ≠ ['/'] := by
    intro h
    apply hroot
    rw [← String.toList_inj, h]
    rfl
  rw [hrelative, ← String.toList_inj, String.toList_append, String.toList_ofList]
  exact (hu.toList_eq_append hl hparts hrest htext).symm

end

end UriPath

end ApiManual
