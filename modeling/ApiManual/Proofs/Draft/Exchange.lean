import ApiManual.Draft.Filling
import ApiManual.Draft.Selection
import ApiManual.Proofs.Alike
import ApiManual.Proofs.Draft.Gathering

/-!
Drafts that differ in some of their endpoints only. Gathering and filling look at no endpoint to
decide what becomes of a draft, so they keep the difference where it is.
-/
namespace ApiManual.Draft

open Except (Alike)

/-- Two drafts say the same but for their endpoints, which are related one by one. -/
structure Exchanged (related : SourcedEndpoint → SourcedEndpoint → Prop) (draft other : Draft) :
    Prop where
  rest : { draft with endpoints := other.endpoints } = other
  endpoints : List.Forall₂ related draft.endpoints other.endpoints

section

variable {related : SourcedEndpoint → SourcedEndpoint → Prop}

theorem Exchanged.id_eq {draft other : Draft} (h : Exchanged related draft other) :
    draft.id = other.id := by
  rw [← h.rest]

theorem Exchanged.absorb {draft other later later' : Draft} (h : Exchanged related draft other)
    (hlater : Exchanged related later later') :
    Exchanged related (draft.absorb later) (other.absorb later') := by
  obtain ⟨hrest, hendpoints⟩ := h
  obtain ⟨hrest', hendpoints'⟩ := hlater
  rw [← hrest, ← hrest']
  exact ⟨rfl, List.rel_append hendpoints hendpoints'⟩

theorem forall₂_place {draft other : Draft} {gathered gathered' : List Draft}
    (h : Exchanged related draft other)
    (hgathered : List.Forall₂ (Exchanged related) gathered gathered') :
    List.Forall₂ (Exchanged related) (place draft gathered) (place other gathered') := by
  induction hgathered with
  | nil => exact List.Forall₂.cons h List.Forall₂.nil
  | cons hfirst hrest ih =>
    unfold place
    rw [← h.id_eq, ← hfirst.id_eq]
    split
    · exact List.Forall₂.cons (hfirst.absorb h) hrest
    · exact List.Forall₂.cons hfirst ih

theorem forall₂_gather {drafts others : List Draft}
    (h : List.Forall₂ (Exchanged related) drafts others) :
    List.Forall₂ (Exchanged related) (gather drafts) (gather others) := by
  unfold gather
  refine List.rel_foldl (P := List.Forall₂ (Exchanged related)) ?_ List.Forall₂.nil h
  exact fun _ _ hgathered _ _ hdraft => forall₂_place hdraft hgathered

theorem forall₂_ofGrouping {origin : String} {grouping other : Grouping}
    (rest : { grouping with endpoints := other.endpoints } = other)
    (endpoints : List.Forall₂ (fun endpoint endpoint' => related ⟨origin, endpoint⟩
      ⟨origin, endpoint'⟩) grouping.endpoints other.endpoints) :
    Exchanged related (ofGrouping origin grouping) (ofGrouping origin other) := by
  rw [← rest]
  refine ⟨rfl, ?_⟩
  exact List.forall₂_map_left_iff.mpr (List.forall₂_map_right_iff.mpr endpoints)

theorem forall₂_ofFragments {fragments others : List Fragment}
    (h : List.Forall₂ (fun fragment other => List.Forall₂ (Exchanged related)
      (fragment.groupings.map (ofGrouping fragment.label))
      (other.groupings.map (ofGrouping other.label))) fragments others) :
    List.Forall₂ (Exchanged related) (ofFragments fragments) (ofFragments others) := by
  have hwritten : List.Forall₂ (Exchanged related) (written fragments) (written others) :=
    List.rel_flatMap h fun _ _ hfragment => hfragment
  refine List.rel_filter (fun draft other hexchanged => ?_) (forall₂_gather hwritten)
  have hempty : draft.endpoints.isEmpty = other.endpoints.isEmpty := by
    rw [Bool.eq_iff_iff, List.isEmpty_iff_length_eq_zero, List.isEmpty_iff_length_eq_zero,
      hexchanged.endpoints.length_eq]
  simp only [hexchanged.id_eq, hempty]

end

/-- The same endpoint, or two endpoints that are both hidden in some sense. -/
def Swapped (hidden : Endpoint → Prop) (sourced other : SourcedEndpoint) : Prop :=
  sourced = other ∨ hidden sourced.endpoint ∧ hidden other.endpoint

theorem Swapped.refl (hidden : Endpoint → Prop) (sourced : SourcedEndpoint) :
    Swapped hidden sourced sourced := Or.inl rfl

/-- Hidden endpoints whose paths can be filled in stop no draft from being filled. -/
theorem Exchanged.fill {values : TemplateValues} {hidden hidden' : Endpoint → Prop}
    (fillable : ∀ endpoint, hidden endpoint → ∃ paths,
      endpoint.paths.mapM values.substitute = .ok paths ∧ hidden' { endpoint with paths })
    {draft other : Draft} (h : Exchanged (Swapped hidden) draft other) :
    Alike (Exchanged (Swapped hidden')) (draft.fill values) (other.fill values) := by
  obtain ⟨hrest, hendpoints⟩ := h
  rw [← hrest]
  unfold Draft.fill
  refine Alike.bind_same fun id => Alike.bind_same fun title => Alike.bind_same fun version =>
    Alike.bind_same fun basePath => Alike.bind_same fun documentation => ?_
  refine Alike.bind (Alike.mapM hendpoints ?_) fun filled filled' hfilled =>
    Alike.ok ⟨rfl, hfilled⟩
  rintro sourced other (rfl | ⟨hhidden, hhidden'⟩)
  · exact Alike.refl (Swapped.refl hidden') _
  · obtain ⟨paths, hpaths, hfilled⟩ := fillable _ hhidden
    obtain ⟨paths', hpaths', hfilled'⟩ := fillable _ hhidden'
    dsimp only
    rw [Except.mapM_mapError_eq_ok_iff.mpr hpaths, Except.mapM_mapError_eq_ok_iff.mpr hpaths']
    exact Alike.ok (Or.inr ⟨hfilled, hfilled'⟩)

end ApiManual.Draft
