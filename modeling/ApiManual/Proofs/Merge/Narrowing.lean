import ApiManual.Proofs.Merge.Views
import ApiManual.Proofs.Resolution.Restriction
import ApiManual.Proofs.View.Methods

/-!
Leaving out more. If more paths are excluded, or only one scope is documented where all were, then
what could be merged still can be, each view speaks of the same interface, and its entries are those
that it had, without what is left out.
-/
namespace ApiManual

open UriPath Resolution

def MergeOptions.narrowed (options : MergeOptions) (added : String → Bool) (scope : Scope) :
    MergeOptions :=
  { options with excluded := fun path => options.excluded path || added path, scope }

/-- The views speak of one interface in the same words. -/
structure ApiView.SameHeading (view other : ApiView) : Prop where
  id : view.id = other.id
  title : view.title = other.title
  version : view.version = other.version
  basePath : view.basePath = other.basePath
  documentation : view.documentation = other.documentation
  origins : view.origins = other.origins

theorem Draft.sameHeading_view (draft : Draft) (endpoints endpoints' : List SourcedEndpoint)
    (declared declared' : List Declaration) :
    ({ draft with endpoints }.view declared).SameHeading
      ({ draft with endpoints := endpoints' }.view declared') :=
  ⟨rfl, rfl, rfl, rfl, rfl, rfl⟩

structure ApiView.Entry where
  path : String
  method : HttpMethod
  origin : String
  operation : String
  deriving DecidableEq, Repr

def ResourceMethod.entry (path : String) (method : ResourceMethod) : ApiView.Entry :=
  ⟨path, method.endpoint.method, method.origin, method.endpoint.operation⟩

def ApiView.entriesWhere (view : ApiView) (keep : String → Endpoint → Bool) :
    List ApiView.Entry :=
  (view.placed.filter fun placed => keep placed.1 placed.2.endpoint).map
    fun placed => placed.2.entry placed.1

def ApiView.entries (view : ApiView) : List ApiView.Entry := view.entriesWhere fun _ _ => true

def SourcedEndpoint.without (added : String → Bool) (sourced : SourcedEndpoint) :
    SourcedEndpoint :=
  { sourced with endpoint :=
    { sourced.endpoint with paths := sourced.endpoint.paths.filter (!added ·) } }

def Mount.without (added : String → Bool) (mount : Mount) : Mount :=
  ⟨mount.path, mount.sourced.without added⟩

section

variable {options : MergeOptions} {added : String → Bool} {scope : Scope}

namespace Occurrence

variable {occurrence : Occurrence}

theorem keptPaths_narrowed : occurrence.keptPaths (options.narrowed added scope) =
    (occurrence.keptPaths options).filter (!added ·) := by
  unfold keptPaths MergeOptions.narrowed
  rw [← distinct_filter, List.filter_filter]
  congr 1
  apply List.filter_congr
  intro path _
  rw [Bool.not_or, Bool.and_comm]

theorem kept_narrowed : occurrence.kept (options.narrowed added scope) =
    (occurrence.kept options).without added := by
  simp only [kept, keptPaths_narrowed, SourcedEndpoint.without]

theorem mounts_narrowed (hscope : scope = options.scope ∨ options.scope = Scope.all) :
    occurrence.mounts (options.narrowed added scope) =
      ((occurrence.mounts options).filter fun mount =>
        mount.sourced.endpoint.isInScope scope && !added mount.path).map
          (Mount.without added) := by
  have hsubscope : occurrence.sourced.endpoint.isInScope scope = true →
      occurrence.isInScope options = true := by
    rcases hscope with rfl | hall
    · exact fun hin => hin
    · intro _
      simp [isInScope, Endpoint.isInScope, Scope.isAll, hall]
  have hnarrowed : occurrence.isInScope (options.narrowed added scope) =
      occurrence.sourced.endpoint.isInScope scope := rfl
  have hkept : (occurrence.kept options).endpoint.isInScope scope =
      occurrence.sourced.endpoint.isInScope scope := rfl
  unfold mounts
  rw [hnarrowed]
  cases hin : occurrence.sourced.endpoint.isInScope scope with
  | true =>
    rw [if_pos rfl, if_pos (hsubscope hin), List.filter_map, List.map_map, keptPaths_narrowed,
      kept_narrowed]
    simp only [Function.comp_def, hkept, hin, Bool.true_and]
    rfl
  | false =>
    rw [if_neg Bool.false_ne_true]
    split
    · rw [List.filter_map]
      simp only [Function.comp_def, hkept, hin, Bool.false_and, List.filter_false, List.map_nil]
    · rfl

end Occurrence

namespace Draft

variable (hscope : scope = options.scope ∨ options.scope = Scope.all)

include hscope

theorem mounts_selected_narrowed (draft : Draft) :
    (draft.selected (options.narrowed added scope)).mounts =
      ((draft.selected options).mounts.filter fun mount =>
        mount.sourced.endpoint.isInScope scope && !added mount.path).map
          (Mount.without added) := by
  rw [mounts_selected, mounts_selected, List.filter_flatMap, List.map_flatMap]
  exact List.flatMap_congr fun occurrence _ => Occurrence.mounts_narrowed hscope

theorem checked_subperm_narrowed (draft : Draft) :
    ((draft.selected (options.narrowed added scope)).mounts.map Mount.checked).Subperm
      ((draft.selected options).mounts.map Mount.checked) := by
  rw [mounts_selected_narrowed hscope, List.map_map]
  exact (List.filter_sublist.map Mount.checked).subperm

end Draft

end

def Mount.entry (mount : Mount) : ApiView.Entry := mount.method.entry mount.path

theorem Draft.Resolved.entriesWhere_perm {draft : Draft} {view : ApiView}
    (resolved : draft.Resolved view) (keep : String → Endpoint → Bool) :
    (view.entriesWhere keep).Perm
      ((draft.mounts.filter fun mount => keep mount.path mount.sourced.endpoint).map
        Mount.entry) := by
  have hplaced : view.placed.Perm (draft.mounts.map fun mount => (mount.path, mount.method)) := by
    rw [resolved.view_eq]
    exact placed_view _ resolved.normal.wellSlashed
  have hentries := (hplaced.filter fun placed => keep placed.1 placed.2.endpoint).map
    fun placed => placed.2.entry placed.1
  rw [List.filter_map, List.map_map] at hentries
  exact hentries

variable {fragments : List Fragment} {options : MergeOptions} {views : List ApiView}

/-- One draft, of which more is left out. -/
theorem Draft.exists_resolve_narrowed (draft : Draft) {view : ApiView}
    (h : (draft.selected options).resolve = .ok view) (added : String → Bool) {scope : Scope}
    (hscope : scope = options.scope ∨ options.scope = Scope.all) :
    ∃ view', (draft.selected (options.narrowed added scope)).resolve = .ok view' ∧
      view.SameHeading view' ∧
        view'.entries.Perm (view.entriesWhere fun path endpoint =>
          endpoint.isInScope scope && !added path) := by
  have hnormal : (draft.selected options).Normal := draft.normal_selected
  have hsubperm : ((draft.selected (options.narrowed added scope)).mounts.map Mount.checked).Subperm
      ((draft.selected options).mounts.map Mount.checked) := checked_subperm_narrowed hscope draft
  obtain ⟨hnormal', view', hview'⟩ := exists_resolve_of_subperm hsubperm hnormal ⟨view, h⟩
  have hresolved := resolved_of_resolve hnormal h
  have hresolved' := resolved_of_resolve hnormal' hview'
  refine ⟨view', hview', ?_, ?_⟩
  · rw [hresolved.view_eq, hresolved'.view_eq, selected_eq, selected_eq]
    exact draft.sameHeading_view _ _ _ _
  · refine (hresolved'.entriesWhere_perm _).trans
      (List.Perm.trans ?_ (hresolved.entriesWhere_perm _).symm)
    rw [mounts_selected_narrowed hscope, List.filter_true, List.map_map]
    exact List.Perm.refl _

/-- Leaving out more makes nothing ambiguous, and takes away nothing but what is left out. -/
theorem merge_narrowed (h : merge fragments options = .ok views) (added : String → Bool)
    (scope : Scope) (hscope : scope = options.scope ∨ options.scope = Scope.all) :
    ∃ views', merge fragments (options.narrowed added scope) = .ok views' ∧
      List.Forall₂ (fun view view' => view.SameHeading view' ∧
        view'.entries.Perm (view.entriesWhere fun path endpoint =>
          endpoint.isInScope scope && !added path)) views views' := by
  obtain ⟨filled, hfill, hviews⟩ := merge_eq_ok_iff.mp h
  obtain ⟨views', hviews', hnarrowed⟩ := hviews.exists_between
    fun draft _ hview => draft.exists_resolve_narrowed hview added hscope
  exact ⟨views', merge_eq_ok_iff.mpr ⟨filled, hfill, hviews'⟩, hnarrowed⟩

/-- A shop whose orders can be read by its staff only, and whose parameter is declared above. -/
def nestedShop : List Fragment :=
  [{ origin := some "shops", groupings := [{ id := some "shop", endpoints := [
      { method := .get, operation := "showShop", paths := ["/shops/{id}"] },
      { method := .get, operation := "listStaff", paths := ["/shops/{id}/staff"],
        pathParameters := [{ name := "id", allowedValues := some ["north", "south"] }] },
      { method := .get, operation := "listOrders", paths := ["/shops/{id}/orders", "/orders"],
        pathParameters := [{ name := "id", allowedValues := some ["north", "south"] }] },
      { method := .delete, operation := "closeShop", paths := ["/shops/{id}"],
        scopes := [⟨"staff"⟩] }] }] }]

theorem merge_narrowed_nested :
    ∃ view view', merge nestedShop {} = .ok [view] ∧
      merge nestedShop (({} : MergeOptions).narrowed (· = "/shops/{id}") .published) =
        .ok [view'] ∧
      view.entries.length = 5 ∧ view'.entries.Perm
        [⟨"/shops/{id}/staff", .get, "shops", "listStaff"⟩,
          ⟨"/shops/{id}/orders", .get, "shops", "listOrders"⟩,
          ⟨"/orders", .get, "shops", "listOrders"⟩] := by
  have hentries : (merge nestedShop {}).map (List.map fun view =>
      (view.entries.length, view.entriesWhere fun path endpoint =>
        endpoint.isInScope .published && !decide (path = "/shops/{id}"))) =
      .ok [(5, [⟨"/shops/{id}/staff", .get, "shops", "listStaff"⟩,
        ⟨"/shops/{id}/orders", .get, "shops", "listOrders"⟩,
        ⟨"/orders", .get, "shops", "listOrders"⟩])] := by decide +kernel
  obtain ⟨views, hviews, hall⟩ := Except.map_eq_ok_iff.mp hentries
  obtain ⟨view, rfl, hview⟩ := List.map_eq_singleton_iff.mp hall
  obtain ⟨hlength, hkept⟩ := Prod.mk.inj hview
  obtain ⟨views', hviews', hnarrowed⟩ :=
    merge_narrowed hviews (· = "/shops/{id}") .published (Or.inr rfl)
  obtain ⟨view', rest, ⟨-, hperm⟩, hrest, rfl⟩ := List.forall₂_cons_left_iff.mp hnarrowed
  rw [List.forall₂_nil_left_iff.mp hrest] at hviews'
  exact ⟨view, view', hviews, hviews', hlength, hkept ▸ hperm⟩

end ApiManual
