import ApiManual.Proofs.Merge.Selection
import ApiManual.Proofs.Pairing
import ApiManual.Proofs.Resolution.Outcome
import ApiManual.Proofs.View.Arrangement
import ApiManual.Proofs.View.Parameters

/-!
From drafts to views. Each view that fragments are merged into is that of a draft of sound mounts at
paths in normal form, so its resources are arranged and declare each parameter once.
-/
namespace ApiManual

open Outline UriPath Resolution

/-- The view is that of the draft, and nothing is wrong with the draft. -/
structure Draft.Resolved (draft : Draft) (view : ApiView) : Prop where
  normal : draft.Normal
  once : draft.NamesOnce
  unrepeated : Mount.Unrepeated draft.mounts
  view_eq : view = draft.view (declarationsOf draft.mountPaths)

theorem Draft.resolved_of_resolve {draft : Draft} {view : ApiView} (normal : draft.Normal)
    (h : draft.resolve = .ok view) : draft.Resolved view := by
  obtain ⟨once, unrepeated, agree⟩ := (exists_resolve_eq_ok_iff normal).mp ⟨view, h⟩
  rw [resolve_eq_ok normal once unrepeated agree] at h
  exact ⟨normal, once, unrepeated, (Except.ok.inj h).symm⟩

namespace Draft.Resolved

variable {draft : Draft} {view : ApiView} (resolved : draft.Resolved view)

include resolved

theorem id_eq : view.id = draft.id := by
  rw [resolved.view_eq]
  rfl

theorem arranged : view.Arranged draft.mountPaths := by
  rw [resolved.view_eq]
  exact arranged_view _ resolved.normal.wellSlashed

theorem declaredAlong {above : List Resource} {resource : Resource}
    (h : Resource.WayDown view.resources (above ++ [resource])) :
    Resource.DeclaredAlong above resource := by
  obtain ⟨normal, once, -, rfl⟩ := resolved
  apply Resource.declaredAlong (fun _ _ => tokens_wayDown_view normal.wellSlashed) h
  obtain ⟨path, hpath, rfl, -⟩ := wayDown_view _ normal.wellSlashed h
  unfold resourceOf
  rw [entryOf_path]
  exact once path hpath

end Draft.Resolved

variable {fragments : List Fragment} {options : MergeOptions} {views : List ApiView}

/-- Drafts are filled in and gathered, and each one is cut down and resolved on its own. -/
theorem merge_eq_ok_iff : merge fragments options = .ok views ↔
    ∃ filled, (Draft.ofFragments fragments).mapM (Draft.fill options.templates) = .ok filled ∧
      List.Forall₂ (fun draft view => (draft.selected options).resolve = .ok view)
        (Draft.gather filled) views := by
  simp only [merge, Except.bind_eq_ok_iff, selectedDrafts_eq_ok_iff, Except.mapError_eq_ok_iff,
    Except.mapM_eq_ok_iff]
  constructor
  · rintro ⟨_, ⟨filled, hfill, rfl⟩, hviews⟩
    exact ⟨filled, hfill, List.forall₂_map_left_iff.mp hviews⟩
  · rintro ⟨filled, hfill, hviews⟩
    exact ⟨_, ⟨filled, hfill, rfl⟩, List.forall₂_map_left_iff.mpr hviews⟩

theorem exists_resolved (h : merge fragments options = .ok views) :
    ∃ filled drafts,
      (fragments.flatMap Fragment.occurrences).mapM (Occurrence.fill options.templates) =
        .ok filled ∧
      selectedDrafts fragments options = .ok drafts ∧ Selected options filled drafts ∧
        List.Forall₂ Draft.Resolved drafts views := by
  simp only [merge, Except.bind_eq_ok_iff, Except.mapError_eq_ok_iff, Except.mapM_eq_ok_iff] at h
  obtain ⟨drafts, hdrafts, hviews⟩ := h
  obtain ⟨filled, hfilled, hselected⟩ := exists_selected hdrafts
  have hnormal : ∀ draft ∈ drafts, draft.Normal := by
    obtain ⟨gathered, -, rfl⟩ := selectedDrafts_eq_ok_iff.mp hdrafts
    exact List.forall_mem_map.mpr fun draft _ => draft.normal_selected
  exact ⟨filled, drafts, hfilled, hdrafts, hselected,
    ((List.forall₂_and_left drafts views).mpr ⟨hnormal, hviews⟩).imp
      fun _ _ hview => Draft.resolved_of_resolve hview.1 hview.2⟩

theorem ids_eq {drafts : List Draft} (h : List.Forall₂ Draft.Resolved drafts views) :
    views.map (·.id) = drafts.map (·.id) := by
  induction h with
  | nil => rfl
  | cons hfirst _ ih => rw [List.map_cons, List.map_cons, ih, hfirst.id_eq]

theorem Selected.mem_mountPaths {filled : List Occurrence} {drafts : List Draft}
    (h : Selected options filled drafts) {draft : Draft} (hdraft : draft ∈ drafts) {path : String} :
    path ∈ draft.mountPaths ↔ ∃ occurrence ∈ filled, occurrence.id = draft.id ∧
      occurrence.isInScope options = true ∧ path ∈ occurrence.keptPaths options := by
  unfold Draft.mountPaths
  rw [List.mem_map]
  simp only [(h.mounts draft hdraft).mem_iff, List.mem_flatMap, List.mem_filter,
    decide_eq_true_eq, Occurrence.mem_mounts]
  constructor
  · rintro ⟨mount, ⟨occurrence, ⟨hmem, hid⟩, hscope, hpath, -⟩, rfl⟩
    exact ⟨occurrence, hmem, hid, hscope, hpath⟩
  · rintro ⟨occurrence, hmem, hid, hscope, hpath⟩
    exact ⟨⟨path, occurrence.kept options⟩, ⟨occurrence, ⟨hmem, hid⟩, hscope, hpath, rfl⟩, rfl⟩

/-- The resources of each view are arranged for the paths that its endpoints are left with. -/
theorem merge_arranged (h : merge fragments options = .ok views) :
    ∃ filled drafts,
      (fragments.flatMap Fragment.occurrences).mapM (Occurrence.fill options.templates) =
        .ok filled ∧
      selectedDrafts fragments options = .ok drafts ∧
      List.Forall₂ (fun draft view => view.id = draft.id ∧ view.Arranged draft.mountPaths ∧
        ∀ path, path ∈ draft.mountPaths ↔ ∃ occurrence ∈ filled, occurrence.id = draft.id ∧
          occurrence.isInScope options = true ∧ path ∈ occurrence.keptPaths options)
        drafts views := by
  obtain ⟨filled, drafts, hfilled, hdrafts, hselected, hviews⟩ := exists_resolved h
  have hpaths : ∀ draft ∈ drafts, ∀ path, path ∈ draft.mountPaths ↔
      ∃ occurrence ∈ filled, occurrence.id = draft.id ∧ occurrence.isInScope options = true ∧
        path ∈ occurrence.keptPaths options :=
    fun _ hdraft _ => hselected.mem_mountPaths hdraft
  refine ⟨filled, drafts, hfilled, hdrafts, ?_⟩
  apply ((List.forall₂_and_left drafts views).mpr ⟨hpaths, hviews⟩).imp
  intro draft view hview
  exact ⟨hview.2.id_eq, hview.2.arranged, hview.1⟩

def shopFragments : List Fragment :=
  [{ origin := some "orders", groupings := [{ id := some "$\x7bname\x7d", endpoints := [
      { method := .get, paths := ["/shops/{id}/orders/{order}", "shops//{id}/orders/{order}/"] },
      { method := .post, paths := ["/shops"] },
      { method := .delete, paths := ["/shops"], scopes := [⟨"internal"⟩] }] }] },
    { origin := some "shops", groupings := [{ id := some "shop", endpoints := [
      { method := .get, paths := ["/shops/{id:[0-9]+}", "/status"] }] }] }]

def shopOptions : MergeOptions where
  excluded := fun path => path = "/status"
  scope := Scope.published
  templates := ⟨[("name", "shop")]⟩

theorem merge_arranged_shops :
    ∃ view, merge shopFragments shopOptions = .ok [view] ∧
      view.Arranged ["/shops/{id}/orders/{order}", "/shops", "/shops/{id}"] := by
  have hpaths : (selectedDrafts shopFragments shopOptions).map (List.map Draft.mountPaths) =
      .ok [["/shops/{id}/orders/{order}", "/shops", "/shops/{id}"]] := by decide +kernel
  have hmerge : (merge shopFragments shopOptions).isOk = true := by decide +kernel
  obtain ⟨views, hviews⟩ := Except.isOk_iff.mp hmerge
  obtain ⟨filled, drafts, -, hdrafts, hall⟩ := merge_arranged hviews
  rw [hdrafts] at hpaths
  obtain ⟨draft, rfl, hpath⟩ := List.map_eq_singleton_iff.mp (Except.ok.inj hpaths)
  obtain ⟨view, rest, ⟨-, harranged, -⟩, hrest, rfl⟩ := List.forall₂_cons_left_iff.mp hall
  rw [List.forall₂_nil_left_iff.mp hrest] at hviews
  exact ⟨view, hviews, hpath ▸ harranged⟩

/-- Along each way down a view the parameters of its last path are declared, each one once, by the
outermost resource whose path holds it. -/
theorem merge_declaredAlong (h : merge fragments options = .ok views) :
    ∀ view ∈ views,
      (∀ resource ∈ view.walk, ∃ above,
        Resource.WayDown view.resources (above ++ [resource])) ∧
      ∀ above resource, Resource.WayDown view.resources (above ++ [resource]) →
        Resource.DeclaredAlong above resource := by
  intro view hview
  obtain ⟨-, drafts, -, -, -, hviews⟩ := exists_resolved h
  obtain ⟨draft, -, hresolved⟩ := hviews.exists_left hview
  exact ⟨fun resource => Resource.mem_visit_iff.mp, fun _ _ => hresolved.declaredAlong⟩

theorem merge_declaredAlong_shops :
    ∃ view above resource, merge shopFragments shopOptions = .ok [view] ∧
      Resource.WayDown view.resources (above ++ [resource]) ∧
        resource.path = "/shops/{id}/orders/{order}" ∧
          (above ++ [resource]).flatMap Resource.tokens = [⟨"id", 1⟩, ⟨"order", 3⟩] := by
  have hwalk : (merge shopFragments shopOptions).map (List.map fun view =>
      view.walk.map (·.path)) = .ok [["/shops", "/shops/{id}", "/shops/{id}/orders/{order}"]] := by
    decide +kernel
  obtain ⟨views, hviews, hpaths⟩ := Except.map_eq_ok_iff.mp hwalk
  obtain ⟨view, rfl, hview⟩ := List.map_eq_singleton_iff.mp hpaths
  have hlast : "/shops/{id}/orders/{order}" ∈ view.walk.map (·.path) := by simp [hview]
  obtain ⟨resource, hresource, hpath⟩ := List.mem_map.mp hlast
  obtain ⟨hdown, hdeclared⟩ := merge_declaredAlong hviews view List.mem_cons_self
  obtain ⟨above, habove⟩ := hdown resource hresource
  have hparameters : parameters "/shops/{id}/orders/{order}" = [⟨"id", 1⟩, ⟨"order", 3⟩] := by
    decide +kernel
  refine ⟨view, above, resource, hviews, habove, hpath, ?_⟩
  rw [(hdeclared above resource habove).tokens, hpath, hparameters]

end ApiManual
