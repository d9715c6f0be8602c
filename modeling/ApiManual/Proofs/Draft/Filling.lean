import ApiManual.Draft.Filling
import ApiManual.Proofs.Draft.Gathering
import ApiManual.Proofs.Except
import ApiManual.Proofs.Pairing

/-!
Filling a draft fills its endpoints one by one, in their order, and its id. Drafts with several ids
may become drafts with one id, which are gathered again.
-/
namespace ApiManual

def Occurrence.fill (values : TemplateValues) (occurrence : Occurrence) :
    Except String Occurrence := do
  let id ← occurrence.id.mapM values.substitute
  let paths ← occurrence.sourced.endpoint.paths.mapM values.substitute
  return ⟨id, occurrence.sourced.origin, { occurrence.sourced.endpoint with paths }⟩

/-- Whether an id that is written somewhere becomes this one when it is filled in. -/
def Becomes (values : TemplateValues) (id written : Option String) : Prop :=
  written.mapM values.substitute = .ok id

instance (values : TemplateValues) (id written : Option String) :
    Decidable (Becomes values id written) :=
  inferInstanceAs (Decidable (written.mapM values.substitute = .ok id))

theorem becomes_iff_of_filled {values : TemplateValues} {id written filled : Option String}
    (h : written.mapM values.substitute = .ok filled) :
    Becomes values id written ↔ filled = id := by
  rw [Becomes, h, Except.ok.injEq]

theorem becomes_none_iff {values : TemplateValues} {written : Option String} :
    Becomes values none written ↔ written = none := by
  cases written <;> simp [Becomes, Except.pure_eq_ok_iff, Except.map_eq_ok_iff]

namespace Draft

/-- A draft says what another one says, with the placeholders replaced. -/
structure Filled (values : TemplateValues) (draft filled : Draft) : Prop where
  id : draft.id.mapM values.substitute = .ok filled.id
  title : draft.title.mapM values.substitute = .ok filled.title
  version : draft.version.mapM values.substitute = .ok filled.version
  basePath : draft.basePath.mapM values.substitute = .ok filled.basePath
  documentation : List.Forall₂ (fun item item' : DocumentationItem =>
    values.substitute item.title = .ok item'.title ∧
      values.substitute item.content = .ok item'.content) draft.documentation filled.documentation
  endpoints : List.Forall₂ (fun sourced sourced' : SourcedEndpoint => ∃ paths,
    sourced.endpoint.paths.mapM values.substitute = .ok paths ∧
      sourced' = ⟨sourced.origin, { sourced.endpoint with paths }⟩)
    draft.endpoints filled.endpoints
  origins : filled.origins = draft.origins

variable {values : TemplateValues}

theorem fill_eq_ok_iff {draft filled : Draft} :
    draft.fill values = .ok filled ↔ Filled values draft filled := by
  simp only [fill, Except.bind_eq_ok_iff, Except.pure_eq_ok_iff, Except.optionMapM_eq_ok_iff,
    Except.mapM_eq_ok_iff, Except.mapError_eq_ok_iff]
  constructor
  · rintro ⟨id, hid, title, htitle, version, hversion, basePath, hbasePath, documentation,
      hdocumentation, endpoints, hendpoints, rfl⟩
    refine ⟨Except.optionMapM_eq_ok_iff.mpr hid, Except.optionMapM_eq_ok_iff.mpr htitle,
      Except.optionMapM_eq_ok_iff.mpr hversion, Except.optionMapM_eq_ok_iff.mpr hbasePath,
      hdocumentation.imp ?_, hendpoints.imp ?_, rfl⟩
    · rintro item _ ⟨title, htitle, content, hcontent, rfl⟩
      exact ⟨htitle, hcontent⟩
    · rintro sourced _ ⟨paths, hpaths, rfl⟩
      exact ⟨paths, Except.mapM_eq_ok_iff.mpr hpaths, rfl⟩
  · rintro ⟨hid, htitle, hversion, hbasePath, hdocumentation, hendpoints, horigins⟩
    rw [Except.optionMapM_eq_ok_iff] at hid htitle hversion hbasePath
    refine ⟨_, hid, _, htitle, _, hversion, _, hbasePath, _, hdocumentation.imp ?_, _,
      hendpoints.imp ?_, ?_⟩
    · rintro item item' ⟨htitle, hcontent⟩
      exact ⟨_, htitle, _, hcontent, rfl⟩
    · rintro sourced _ ⟨paths, hpaths, rfl⟩
      exact ⟨paths, Except.mapM_eq_ok_iff.mp hpaths, rfl⟩
    · rw [← horigins]

theorem forall₂_fill_occurrences {draft filled : Draft} (h : draft.fill values = .ok filled) :
    List.Forall₂ (fun occurrence occurrence' => Occurrence.fill values occurrence =
      .ok occurrence') draft.occurrences filled.occurrences := by
  have hfilled := fill_eq_ok_iff.mp h
  rw [occurrences, occurrences, List.forall₂_map_left_iff, List.forall₂_map_right_iff]
  apply hfilled.endpoints.imp
  rintro sourced _ ⟨paths, hpaths, rfl⟩
  unfold Occurrence.fill
  rw [hfilled.id, hpaths]
  rfl

theorem forall₂_fill_flatMap_occurrences {drafts filled : List Draft}
    (h : drafts.mapM (fill values) = .ok filled) :
    List.Forall₂ (fun occurrence occurrence' => Occurrence.fill values occurrence =
      .ok occurrence') (drafts.flatMap occurrences) (filled.flatMap occurrences) := by
  rw [Except.mapM_eq_ok_iff] at h
  induction h with
  | nil => exact List.Forall₂.nil
  | cons hfirst _ ih =>
    simp only [List.flatMap_cons]
    exact List.rel_append (forall₂_fill_occurrences hfirst) ih

variable {fragments : List Fragment} {filled : List Draft}

theorem forall₂_filled (h : (ofFragments fragments).mapM (fill values) = .ok filled) :
    List.Forall₂ (Filled values) (ofFragments fragments) filled :=
  (Except.mapM_eq_ok_iff.mp h).imp fun _ _ => fill_eq_ok_iff.mp

theorem exists_encountered (h : (ofFragments fragments).mapM (fill values) = .ok filled) :
    ∃ encountered, (fragments.flatMap Fragment.occurrences).mapM (Occurrence.fill values) =
      .ok encountered ∧ encountered.Perm (filled.flatMap occurrences) := by
  obtain ⟨encountered, hencountered, hperm⟩ := List.perm_comp_forall₂
    (occurrences_ofFragments fragments).symm (forall₂_fill_flatMap_occurrences h)
  exact ⟨encountered, Except.mapM_eq_ok_iff.mpr hencountered, hperm⟩

theorem exists_becomes (h : (ofFragments fragments).mapM (fill values) = .ok filled)
    {draft : Draft} (hdraft : draft ∈ gather filled) :
    ∃ other ∈ ofFragments fragments, Becomes values draft.id other.id := by
  have hid : draft.id ∈ filled.map (·.id) := by
    rw [← mem_distinct, ← ids_gather]
    exact List.mem_map_of_mem hdraft
  obtain ⟨draft', hdraft', hsame⟩ := List.mem_map.mp hid
  obtain ⟨other, hother, hfilled⟩ := (forall₂_filled h).exists_left hdraft'
  exact ⟨other, hother, hsame ▸ hfilled.id⟩

theorem isKept_of_becomes {id : Option String}
    (h : ∃ draft ∈ ofFragments fragments, Becomes values id draft.id) {draft : Draft}
    (hdraft : draft ∈ gather (written fragments)) (hbecomes : Becomes values id draft.id) :
    draft.isKept = true := by
  cases hid : draft.id with
  | some _ => simp [isKept, hid]
  | none =>
    -- the draft that becomes the default one is a default draft, and there is only one
    obtain ⟨other, hother, hbecomes'⟩ := h
    obtain ⟨hmem, hkept⟩ := List.mem_filter.mp hother
    have hnone : id = none := by
      rw [hid, Becomes, Option.mapM_none, Except.pure_eq_ok_iff] at hbecomes
      exact hbecomes.symm
    have hid' : other.id = none := becomes_none_iff.mp (hnone ▸ hbecomes')
    have hsame : draft = other :=
      List.inj_on_of_nodup_map (nodup_ids_gather _) hdraft hmem (hid.trans hid'.symm)
    exact hsame ▸ hkept

end Draft

end ApiManual
