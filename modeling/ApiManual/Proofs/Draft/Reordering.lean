import ApiManual.Proofs.Draft.Collection

/-!
Fragments in another order. Their drafts have the same ids, and under each id the same endpoints,
documentation and origins; only the order of these, and which text comes first, may be another one.
-/
namespace ApiManual.Draft

/-- Two drafts about one interface that hold the same, in some order. -/
structure Reordered (draft other : Draft) : Prop where
  id : draft.id = other.id
  endpoints : draft.endpoints.Perm other.endpoints
  documentation : ∀ item, item ∈ draft.documentation ↔ item ∈ other.documentation
  origins : ∀ origin, origin ∈ draft.origins ↔ origin ∈ other.origins

theorem endpoints_eq (draft : Draft) : draft.endpoints = draft.occurrences.map (·.sourced) := by
  rw [occurrences, List.map_map]
  exact (List.map_id _).symm

variable {values : TemplateValues} {fragments others : List Fragment}

theorem written_perm (perm : fragments.Perm others) :
    (written fragments).Perm (written others) := perm.flatMap_right _

theorem ids_ofFragments_perm (perm : fragments.Perm others) {id : Option String} :
    id ∈ (ofFragments fragments).map (·.id) ↔ id ∈ (ofFragments others).map (·.id) := by
  have hoccurrences := perm.flatMap_right Fragment.occurrences
  rw [mem_ids_ofFragments, mem_ids_ofFragments, ((written_perm perm).map (·.id)).mem_iff]
  simp only [hoccurrences.mem_iff]

variable {filled filled' : List Draft}
  (h : (ofFragments fragments).mapM (fill values) = .ok filled)

include h

theorem mem_ids_gather {id : Option String} :
    id ∈ (gather filled).map (·.id) ↔
      ∃ written ∈ (ofFragments fragments).map (·.id), Becomes values id written := by
  rw [ids_gather, mem_distinct]
  constructor
  · intro hid
    obtain ⟨draft, hdraft, rfl⟩ := List.mem_map.mp hid
    obtain ⟨other, hother, hfilled⟩ := (forall₂_filled h).exists_left hdraft
    exact ⟨other.id, List.mem_map_of_mem hother, hfilled.id⟩
  · rintro ⟨_, hwritten, hbecomes⟩
    obtain ⟨other, hother, rfl⟩ := List.mem_map.mp hwritten
    obtain ⟨draft, hdraft, hfilled⟩ := (forall₂_filled h).exists_right hother
    exact Except.ok.inj (hfilled.id.symm.trans hbecomes) ▸ List.mem_map_of_mem hdraft

variable (perm : fragments.Perm others)
  (h' : (ofFragments others).mapM (fill values) = .ok filled')

include perm h'

theorem ids_gather_perm {id : Option String} :
    id ∈ (gather filled).map (·.id) ↔ id ∈ (gather filled').map (·.id) := by
  rw [mem_ids_gather h, mem_ids_gather h']
  simp only [ids_ofFragments_perm perm]

theorem reordered_of_mem_gather {draft other : Draft} (hdraft : draft ∈ gather filled)
    (hother : other ∈ gather filled') (hid : draft.id = other.id) : Reordered draft other := by
  have hcollected {α : Type} {items : Draft → List α} {fills : TemplateValues → α → α → Prop}
      (collected : IsCollected items fills) (item : α) :
      item ∈ items draft ↔ item ∈ items other := by
    rw [mem_gather_filled collected h hdraft, mem_gather_filled collected h' hother, hid]
    simp only [(written_perm perm).mem_iff]
  obtain ⟨encountered, hencountered, hperm⟩ := exists_encountered h
  obtain ⟨encountered', hencountered', hperm'⟩ := exists_encountered h'
  have hsame : encountered.Perm encountered' := Except.perm_of_mapM_eq_ok
    (perm.flatMap_right Fragment.occurrences) hencountered hencountered'
  refine ⟨hid, ?_, hcollected isCollected_documentation, hcollected isCollected_origins⟩
  rw [endpoints_eq, endpoints_eq, occurrences_of_mem_gather hdraft,
    occurrences_of_mem_gather hother, hid]
  exact (((hperm.symm.trans hsame).trans hperm').filter _).map _

end ApiManual.Draft
