import ApiManual.Merge
import ApiManual.Proofs.Distinct
import ApiManual.Proofs.Draft.Filling
import ApiManual.Proofs.Mounts

/-!
From fragments to drafts. The drafts that are selected have distinct ids, and each one has exactly
the mounts of the occurrences with its id that are in scope, at the paths that are not excluded.
-/
namespace ApiManual

open UriPath

namespace Occurrence

variable (options : MergeOptions) (occurrence : Occurrence)

def keptPaths : List String :=
  distinct ((occurrence.sourced.endpoint.paths.map normalize).filter (!options.excluded ·))

def kept : SourcedEndpoint where
  origin := occurrence.sourced.origin
  endpoint := { occurrence.sourced.endpoint with paths := occurrence.keptPaths options }

def isInScope : Bool := occurrence.sourced.endpoint.isInScope options.scope

def mounts : List Mount :=
  if occurrence.isInScope options then
    (occurrence.keptPaths options).map (⟨·, occurrence.kept options⟩)
  else []

variable {options occurrence}

theorem keepPaths_eq : Draft.keepPaths options.excluded occurrence.sourced =
    if occurrence.keptPaths options = [] then none else some (occurrence.kept options) := by
  simp only [Draft.keepPaths, kept, keptPaths, distinct_filter, List.isEmpty_iff]

theorem mem_mounts {mount : Mount} :
    mount ∈ occurrence.mounts options ↔ occurrence.isInScope options = true ∧
      mount.path ∈ occurrence.keptPaths options ∧ mount.sourced = occurrence.kept options := by
  by_cases hscope : occurrence.isInScope options = true
  · unfold mounts
    rw [if_pos hscope, List.mem_map]
    constructor
    · rintro ⟨path, hpath, rfl⟩
      exact ⟨hscope, hpath, rfl⟩
    · rintro ⟨-, hpath, hsourced⟩
      exact ⟨mount.path, hpath, hsourced ▸ rfl⟩
  · unfold mounts
    rw [if_neg hscope]
    exact ⟨nofun, fun h => absurd h.1 hscope⟩

theorem mounts_keepPaths (occurrence : Occurrence) :
    (((Draft.keepPaths options.excluded occurrence.sourced).toList.filter
      (·.endpoint.isInScope options.scope)).flatMap fun sourced =>
        sourced.endpoint.paths.map (⟨·, sourced⟩)) = occurrence.mounts options := by
  have hscope : (occurrence.kept options).endpoint.isInScope options.scope =
      occurrence.isInScope options := rfl
  rw [keepPaths_eq, mounts]
  split
  · rename_i hnone
    simp [hnone]
  · rw [Option.toList_some, List.filter_cons, hscope]
    split
    · simp only [List.filter_nil, List.flatMap_singleton]
      rfl
    · rfl

theorem exists_normalize_eq {path : String} (h : path ∈ occurrence.keptPaths options) :
    ∃ written, normalize written = path := by
  obtain ⟨hmem, -⟩ := List.mem_filter.mp (mem_distinct.mp h)
  obtain ⟨written, -, heq⟩ := List.mem_map.mp hmem
  exact ⟨written, heq⟩

end Occurrence

/-- What is documented of an endpoint: itself at the paths that are kept, or nothing. -/
def SourcedEndpoint.selected (options : MergeOptions) (sourced : SourcedEndpoint) :
    List SourcedEndpoint :=
  (Draft.keepPaths options.excluded sourced).toList.filter (·.endpoint.isInScope options.scope)

namespace Draft

def selected (options : MergeOptions) (draft : Draft) : Draft :=
  (draft.withoutExcluded options.excluded).withinScope options.scope

variable {options : MergeOptions}

theorem selected_eq (draft : Draft) : draft.selected options =
    { draft with endpoints := draft.endpoints.flatMap (SourcedEndpoint.selected options) } := by
  unfold selected withinScope withoutExcluded
  dsimp only
  rw [List.filterMap_eq_flatMap_toList, List.filter_flatMap]
  rfl

theorem mounts_selected (draft : Draft) :
    (draft.selected options).mounts = draft.occurrences.flatMap (Occurrence.mounts options) := by
  rw [selected_eq, mounts, occurrences, List.flatMap_map, List.flatMap_assoc]
  exact List.flatMap_congr fun sourced _ => Occurrence.mounts_keepPaths ⟨draft.id, sourced⟩

theorem normal_selected (draft : Draft) : (draft.selected options).Normal := by
  intro path hpath
  obtain ⟨mount, hmount, rfl⟩ := List.mem_map.mp hpath
  rw [mounts_selected] at hmount
  obtain ⟨occurrence, -, hmem⟩ := List.mem_flatMap.mp hmount
  exact Occurrence.exists_normalize_eq (Occurrence.mem_mounts.mp hmem).2.1

end Draft

/-- Drafts are filled in, gathered, and only then cut down to what is documented. -/
theorem selectedDrafts_eq_ok_iff {fragments : List Fragment} {options : MergeOptions}
    {drafts : List Draft} : selectedDrafts fragments options = .ok drafts ↔
      ∃ filled, (Draft.ofFragments fragments).mapM (Draft.fill options.templates) = .ok filled ∧
        (Draft.gather filled).map (Draft.selected options) = drafts := by
  simp only [selectedDrafts, Except.bind_eq_ok_iff, Except.mapError_eq_ok_iff,
    Except.pure_eq_ok_iff]
  rfl

/-- The drafts that come of these occurrences. -/
structure Selected (options : MergeOptions) (filled : List Occurrence) (drafts : List Draft) :
    Prop where
  nodup : (drafts.map (·.id)).Nodup
  covered : ∀ occurrence ∈ filled, occurrence.id ∈ drafts.map (·.id)
  mounts : ∀ draft ∈ drafts, draft.mounts.Perm
    ((filled.filter (·.id = draft.id)).flatMap (Occurrence.mounts options))

theorem exists_selected {fragments : List Fragment} {options : MergeOptions} {drafts : List Draft}
    (h : selectedDrafts fragments options = .ok drafts) :
    ∃ filled, (fragments.flatMap Fragment.occurrences).mapM (Occurrence.fill options.templates) =
      .ok filled ∧ Selected options filled drafts := by
  obtain ⟨filledDrafts, hfill, rfl⟩ := selectedDrafts_eq_ok_iff.mp h
  obtain ⟨filled, hfilled, hperm⟩ := Draft.exists_encountered hfill
  have hgathered := hperm.trans (Draft.occurrences_gather filledDrafts).symm
  have hnodup := Draft.nodup_ids_gather filledDrafts
  have hids : ((Draft.gather filledDrafts).map (Draft.selected options)).map (·.id) =
      (Draft.gather filledDrafts).map (·.id) := List.map_map
  refine ⟨filled, hfilled, hids ▸ hnodup, ?_, ?_⟩
  · intro occurrence hoccurrence
    obtain ⟨draft, hdraft, hmem⟩ := List.mem_flatMap.mp (hgathered.mem_iff.mp hoccurrence)
    rw [hids, Draft.id_of_mem_occurrences hmem]
    exact List.mem_map_of_mem hdraft
  · intro selected hselected
    obtain ⟨draft, hdraft, rfl⟩ := List.mem_map.mp hselected
    rw [Draft.mounts_selected, Draft.occurrences_of_mem_gather hdraft]
    exact (hperm.symm.filter _).flatMap_right _

end ApiManual
