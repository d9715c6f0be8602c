import ApiManual.Draft
import ApiManual.Proofs.Distinct
import Mathlib.Data.List.Induction

/-!
What becomes of drafts that are gathered: one draft for each id, in the order in which the ids first
occur, and it says what the drafts with that id say one after the other.
-/
namespace ApiManual

namespace Draft

def combined : List Draft → Draft
  | [] => {}
  | first :: rest => rest.foldl absorb first

theorem combined_append_singleton {drafts : List Draft} (h : drafts ≠ []) (draft : Draft) :
    combined (drafts ++ [draft]) = (combined drafts).absorb draft := by
  cases drafts with
  | nil => exact absurd rfl h
  | cons first rest => simp [combined, List.foldl_append]

/-- What holds of single drafts and passes on when one more is absorbed holds of combined ones. -/
theorem combined_induction {motive : List Draft → Draft → Prop} (empty : motive [] {})
    (single : ∀ draft, motive [draft] draft)
    (absorb : ∀ drafts draft later, motive drafts draft →
      motive (drafts ++ [later]) (draft.absorb later))
    (drafts : List Draft) : motive drafts (combined drafts) := by
  induction drafts using List.reverseRecOn with
  | nil => exact empty
  | append_singleton drafts draft ih =>
    by_cases hnil : drafts = []
    · rw [hnil]
      exact single draft
    · rw [combined_append_singleton hnil]
      exact absorb drafts _ draft ih

theorem combined_endpoints (drafts : List Draft) :
    (combined drafts).endpoints = drafts.flatMap (·.endpoints) := by
  induction drafts using combined_induction with
  | empty => rfl
  | single draft => rw [List.flatMap_singleton]
  | absorb drafts draft later ih =>
    rw [List.flatMap_append, List.flatMap_singleton, ← ih]
    rfl

theorem combined_id (first : Draft) (rest : List Draft) :
    (combined (first :: rest)).id = first.id := by
  unfold combined
  induction rest generalizing first with
  | nil => rfl
  | cons draft rest ih => exact ih (first.absorb draft)

theorem combined_filter_id {drafts : List Draft} {id : Option String}
    (h : id ∈ drafts.map (·.id)) : (combined (drafts.filter (·.id = id))).id = id := by
  cases hown : drafts.filter (·.id = id) with
  | nil =>
    obtain ⟨draft, hdraft, hid⟩ := List.mem_map.mp h
    exact absurd (decide_eq_true hid) (List.filter_eq_nil_iff.mp hown draft hdraft)
  | cons first rest =>
    have hfirst : first ∈ drafts.filter (·.id = id) := hown ▸ List.mem_cons_self
    rw [combined_id]
    exact of_decide_eq_true (List.mem_filter.mp hfirst).2

section Text

variable {text : Draft → Option String} (initial : text {} = none)
  (absorb : ∀ draft later : Draft,
    text (draft.absorb later) = (filled? (text draft) <|> filled? (text later)))

include initial absorb

theorem filled?_combined (drafts : List Draft) :
    filled? (text (combined drafts)) = drafts.findSome? fun draft => filled? (text draft) := by
  induction drafts using combined_induction with
  | empty =>
    rw [initial]
    rfl
  | single draft => simp
  | absorb drafts draft later ih =>
    rw [absorb, filled?_orElse_filled?, ih, List.findSome?_append]
    simp

theorem text_combined {drafts : List Draft}
    (written : ∀ draft ∈ drafts, filled? (text draft) = text draft) :
    text (combined drafts) = drafts.findSome? fun draft => filled? (text draft) := by
  rw [← filled?_combined initial absorb]
  induction drafts using combined_induction with
  | empty =>
    rw [initial]
    rfl
  | single draft => exact (written draft (List.mem_singleton_self draft)).symm
  | absorb drafts draft later _ => rw [absorb, filled?_orElse_filled?]

end Text

theorem gather_append_singleton (drafts : List Draft) (draft : Draft) :
    gather (drafts ++ [draft]) = place draft (gather drafts) := by
  unfold gather
  rw [List.foldl_append]
  rfl

theorem place_map {draft : Draft} {ids : List (Option String)} {content : Option String → Draft}
    (nodup : ids.Nodup) (keyed : ∀ id ∈ ids, (content id).id = id) :
    place draft (ids.map content) =
      if draft.id ∈ ids then
        ids.map fun id => if id = draft.id then (content id).absorb draft else content id
      else ids.map content ++ [draft] := by
  induction ids with
  | nil => rfl
  | cons id rest ih =>
    obtain ⟨hnew, hrest⟩ := List.nodup_cons.mp nodup
    have hid : (content id).id = id := keyed id List.mem_cons_self
    rw [List.map_cons, place, hid]
    by_cases heq : id = draft.id
    · rw [if_pos heq, if_pos (heq ▸ List.mem_cons_self), List.map_cons, if_pos heq]
      congr 1
      apply List.map_congr_left
      intro other hother
      have hne : other ≠ draft.id := fun h => hnew (heq ▸ h ▸ hother)
      rw [if_neg hne]
    · have hmem : draft.id ∈ id :: rest ↔ draft.id ∈ rest := by
        rw [List.mem_cons, or_iff_right (Ne.symm heq)]
      rw [if_neg heq, ih hrest fun other hother => keyed other (List.mem_cons_of_mem id hother)]
      simp only [hmem, List.map_cons, if_neg heq]
      split <;> rfl

theorem gather_eq (drafts : List Draft) :
    gather drafts = (distinct (drafts.map (·.id))).map fun id =>
      combined (drafts.filter (·.id = id)) := by
  induction drafts using List.reverseRecOn with
  | nil => rfl
  | append_singleton drafts draft ih =>
    have hkeyed : ∀ id ∈ distinct (drafts.map (·.id)),
        (combined (drafts.filter (·.id = id))).id = id :=
      fun id hid => combined_filter_id (mem_distinct.mp hid)
    have hown : ∀ id, (drafts ++ [draft]).filter (·.id = id) =
        if draft.id = id then drafts.filter (·.id = id) ++ [draft]
        else drafts.filter (·.id = id) := by
      intro id
      rw [List.filter_append, List.filter_singleton]
      by_cases heq : draft.id = id <;> simp [heq]
    rw [gather_append_singleton, ih, place_map (nodup_distinct _) hkeyed, List.map_append,
      List.map_singleton, distinct_append_singleton]
    simp only [mem_distinct, hown]
    split
    · apply List.map_congr_left
      intro id hid
      by_cases heq : id = draft.id
      · have hne : drafts.filter (·.id = id) ≠ [] := fun hnil => by
          obtain ⟨other, hother, hsame⟩ := List.mem_map.mp (mem_distinct.mp hid)
          exact List.filter_eq_nil_iff.mp hnil other hother (decide_eq_true hsame)
        rw [if_pos heq, if_pos heq.symm, combined_append_singleton hne]
      · rw [if_neg heq, if_neg (Ne.symm heq)]
    · rename_i hnew
      have hnone : drafts.filter (·.id = draft.id) = [] := by
        rw [List.filter_eq_nil_iff]
        intro other hother hsame
        exact hnew (of_decide_eq_true hsame ▸ List.mem_map_of_mem hother)
      rw [List.map_append, List.map_singleton, if_pos rfl, hnone]
      congr 1
      apply List.map_congr_left
      intro id hid
      have hne : draft.id ≠ id := fun heq => hnew (heq ▸ mem_distinct.mp hid)
      rw [if_neg hne]

theorem ids_gather (drafts : List Draft) :
    (gather drafts).map (·.id) = distinct (drafts.map (·.id)) := by
  rw [gather_eq, List.map_map]
  refine (List.map_congr_left fun id hid => ?_).trans (List.map_id _)
  exact combined_filter_id (mem_distinct.mp hid)

theorem gather_filter (keep : Option String → Bool) (drafts : List Draft) :
    gather (drafts.filter (keep ·.id)) = (gather drafts).filter (keep ·.id) := by
  have hkept : (distinct (drafts.map (·.id))).filter
      ((keep ·.id) ∘ fun id => combined (drafts.filter (·.id = id))) =
        (distinct (drafts.map (·.id))).filter keep := by
    apply List.filter_congr
    intro id hid
    rw [Function.comp_apply, combined_filter_id (mem_distinct.mp hid)]
  rw [gather_eq, gather_eq, map_filter_key Draft.id keep, distinct_filter, List.filter_map, hkept]
  apply List.map_congr_left
  intro id hid
  rw [filter_filter_key Draft.id keep drafts (List.mem_filter.mp hid).2]

theorem eq_combined_of_mem_gather {drafts : List Draft} {draft : Draft}
    (h : draft ∈ gather drafts) : draft = combined (drafts.filter (·.id = draft.id)) := by
  rw [gather_eq] at h
  obtain ⟨id, hid, rfl⟩ := List.mem_map.mp h
  rw [combined_filter_id (mem_distinct.mp hid)]

theorem nodup_ids_gather (drafts : List Draft) : ((gather drafts).map (·.id)).Nodup :=
  ids_gather drafts ▸ nodup_distinct _

end Draft

end ApiManual
