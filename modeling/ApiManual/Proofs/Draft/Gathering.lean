import ApiManual.Proofs.Draft.Combination
import Mathlib.Data.List.Perm.Basic

/-!
Gathering drafts by their ids neither loses nor repeats an endpoint. Those with one id keep their
order.
-/
namespace ApiManual

/-- An endpoint in an interface with this id. -/
structure Occurrence where
  id : Option String
  sourced : SourcedEndpoint
  deriving DecidableEq

def Fragment.occurrences (fragment : Fragment) : List Occurrence :=
  fragment.groupings.flatMap fun grouping =>
    grouping.endpoints.map fun endpoint => ⟨grouping.id, fragment.label, endpoint⟩

namespace Draft

def occurrences (draft : Draft) : List Occurrence := draft.endpoints.map (⟨draft.id, ·⟩)

theorem id_of_mem_occurrences {draft : Draft} {occurrence : Occurrence}
    (h : occurrence ∈ draft.occurrences) : occurrence.id = draft.id := by
  obtain ⟨sourced, -, rfl⟩ := List.mem_map.mp h
  rfl

theorem occurrences_ofGrouping (origin : String) (grouping : Grouping) :
    (ofGrouping origin grouping).occurrences =
      grouping.endpoints.map fun endpoint => ⟨grouping.id, origin, endpoint⟩ := by
  unfold occurrences ofGrouping
  rw [List.map_map]
  rfl

theorem occurrences_filter (keep : Option String → Bool) (drafts : List Draft) :
    (drafts.filter (keep ·.id)).flatMap occurrences =
      (drafts.flatMap occurrences).filter (keep ·.id) := by
  rw [List.filter_flatMap]
  induction drafts with
  | nil => rfl
  | cons draft rest ih =>
    have hfirst : draft.occurrences.filter (keep ·.id) =
        if keep draft.id then draft.occurrences else [] := by
      unfold occurrences
      rw [List.filter_map]
      cases hkeep : keep draft.id <;> simp [Function.comp_def, hkeep]
    rw [List.flatMap_cons, hfirst, ← ih, List.filter_cons]
    split <;> rfl

theorem occurrences_combined {drafts : List Draft} {id : Option String}
    (h : id ∈ drafts.map (·.id)) :
    (combined (drafts.filter (·.id = id))).occurrences =
      (drafts.flatMap occurrences).filter (·.id = id) := by
  rw [← occurrences_filter (· = id), occurrences, combined_filter_id h, combined_endpoints,
    List.map_flatMap]
  apply List.flatMap_congr
  intro draft hdraft
  rw [occurrences, of_decide_eq_true (List.mem_filter.mp hdraft).2]

theorem occurrences_of_mem_gather {drafts : List Draft} {draft : Draft}
    (h : draft ∈ gather drafts) :
    draft.occurrences = (drafts.flatMap occurrences).filter (·.id = draft.id) := by
  have hid : draft.id ∈ drafts.map (·.id) := by
    rw [← mem_distinct, ← ids_gather]
    exact List.mem_map_of_mem h
  rw [← occurrences_combined hid, ← eq_combined_of_mem_gather h]

/-- What is gathered is said in the order of the ids, and under each id in the order given. -/
theorem occurrences_gather_eq (drafts : List Draft) :
    (gather drafts).flatMap occurrences = (distinct (drafts.map (·.id))).flatMap fun id =>
      (drafts.flatMap occurrences).filter (·.id = id) := by
  rw [gather_eq, List.flatMap_map]
  exact List.flatMap_congr fun id hid => occurrences_combined (mem_distinct.mp hid)

theorem occurrences_gather (drafts : List Draft) :
    ((gather drafts).flatMap occurrences).Perm (drafts.flatMap occurrences) := by
  rw [occurrences_gather_eq]
  refine perm_flatMap_filter Occurrence.id (nodup_distinct _) fun occurrence hoccurrence => ?_
  obtain ⟨draft, hdraft, hmem⟩ := List.mem_flatMap.mp hoccurrence
  rw [mem_distinct, id_of_mem_occurrences hmem]
  exact List.mem_map_of_mem hdraft

def written (fragments : List Fragment) : List Draft :=
  fragments.flatMap fun fragment => fragment.groupings.map (ofGrouping fragment.label)

theorem ids_written (fragments : List Fragment) :
    (written fragments).map (·.id) = (fragments.flatMap (·.groupings)).map (·.id) := by
  rw [written, List.map_flatMap, List.map_flatMap]
  simp only [List.map_map]
  rfl

theorem occurrences_written (fragments : List Fragment) :
    (written fragments).flatMap occurrences = fragments.flatMap Fragment.occurrences := by
  rw [written, List.flatMap_assoc]
  apply List.flatMap_congr
  intro fragment _
  rw [List.flatMap_map, Fragment.occurrences]
  simp only [occurrences_ofGrouping]

/-- The default draft is left out if it has no endpoints. -/
def isKept (draft : Draft) : Bool := draft.id.isSome || !draft.endpoints.isEmpty

theorem occurrences_filter_isKept (drafts : List Draft) :
    (drafts.filter isKept).flatMap occurrences = drafts.flatMap occurrences := by
  induction drafts with
  | nil => rfl
  | cons draft rest ih =>
    simp only [List.filter_cons, List.flatMap_cons]
    split
    · rw [List.flatMap_cons, ih]
    · rename_i hleft
      simp only [isKept, Bool.or_eq_true, Bool.not_eq_true', not_or, Bool.not_eq_false,
        List.isEmpty_iff] at hleft
      rw [ih, occurrences, hleft.2, List.map_nil, List.nil_append]

theorem ofFragments_eq (fragments : List Fragment) :
    ofFragments fragments = (gather (written fragments)).filter isKept := rfl

theorem occurrences_ofFragments (fragments : List Fragment) :
    ((ofFragments fragments).flatMap occurrences).Perm
      (fragments.flatMap Fragment.occurrences) := by
  rw [ofFragments_eq, occurrences_filter_isKept, ← occurrences_written]
  exact occurrences_gather _

end Draft

end ApiManual
