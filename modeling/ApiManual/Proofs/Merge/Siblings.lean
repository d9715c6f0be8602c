import ApiManual.Proofs.Merge.Views

/-!
What stands in one place of a view is told apart: resources by their relative paths, methods by
their verbs, and the parameters that a resource declares by their names.
-/
namespace ApiManual

open Outline UriPath

namespace Resource

/-- The relative paths of these resources are paths of their own, and no two are equal. -/
structure Apart (siblings : List Resource) : Prop where
  slashed : ∀ resource ∈ siblings, WellSlashed resource.relativePath
  nodup : (siblings.map (·.relativePath)).Nodup

/-- No two parameters, methods or children of the resource have one name. -/
structure Separate (resource : Resource) : Prop where
  parameters : (resource.uriParameters.map (·.name)).Nodup
  methods : (resource.methods.map (·.endpoint.method)).Nodup
  children : Apart resource.children

theorem InOrder.nodup_paths {paths : List String} {resources : List Resource}
    (h : InOrder paths resources) : (resources.map (·.path)).Nodup := by
  unfold List.Nodup
  rw [List.pairwise_map]
  apply h.imp
  intro earlier later hlt heq
  rw [heq] at hlt
  exact Nat.lt_irrefl _ hlt

theorem DeclaredAlong.nodup_names {above : List Resource} {resource : Resource}
    (h : DeclaredAlong above resource) : (resource.uriParameters.map (·.name)).Nodup := by
  have hnodup := h.once
  rw [List.flatMap_append, List.flatMap_singleton, List.map_append, Resource.tokens,
    List.map_map] at hnodup
  exact hnodup.of_append_right

end Resource

/-- At every place of the view, the top included, no two have one name. -/
structure ApiView.Separate (view : ApiView) : Prop where
  roots : Resource.Apart view.resources
  within : ∀ resource ∈ view.walk, resource.Separate

namespace ApiView.Arranged

variable {view : ApiView} {paths : List String} (arranged : view.Arranged paths)

include arranged

theorem nodup_roots : (view.resources.map (·.relativePath)).Nodup := by
  have hpaths : view.resources.map (·.relativePath) = view.resources.map (·.path) :=
    List.map_congr_left fun root hroot => (arranged.root root hroot).2.1
  rw [hpaths]
  exact arranged.roots_inOrder.nodup_paths

theorem nodup_children {parent : Resource} (hparent : parent ∈ view.walk) :
    (parent.children.map (·.relativePath)).Nodup := by
  -- the path of a child is determined by its relative path
  have hpaths : (parent.children.map (·.relativePath)).map
      (fun relative => if parent.path = "/" then relative else parent.path ++ relative) =
        parent.children.map (·.path) := by
    rw [List.map_map]
    apply List.map_congr_left
    intro child hchild
    have hwritten := (arranged.child parent hparent child hchild).2.2
    rw [Function.comp_apply]
    split
    · rename_i hroot
      rwa [if_pos hroot] at hwritten
    · rename_i hroot
      rwa [if_neg hroot] at hwritten
  have hnodup := (arranged.children_inOrder parent hparent).nodup_paths
  rw [← hpaths] at hnodup
  exact hnodup.of_map

end ApiView.Arranged

namespace Draft

variable {draft : Draft} (declared : List Declaration)

theorem nodup_methods_resourceOf (unrepeated : Mount.Unrepeated draft.mounts) (entry : Entry) :
    ((draft.resourceOf declared entry).methods.map (·.endpoint.method)).Nodup := by
  have hnodup : ((draft.mounts.filter (·.path = entry.path)).map Mount.operation).Nodup :=
    unrepeated.sublist (List.filter_sublist.map _)
  have hoperations : (draft.mounts.filter (·.path = entry.path)).map Mount.operation =
      ((draft.resourceOf declared entry).methods.map (·.endpoint.method)).map (entry.path, ·) := by
    rw [resourceOf, List.map_map, List.map_map]
    apply List.map_congr_left
    intro mount hmount
    rw [Mount.operation, of_decide_eq_true (List.mem_filter.mp hmount).2]
    rfl
  rw [hoperations] at hnodup
  exact hnodup.of_map

variable (slashed : ∀ path ∈ draft.mountPaths, WellSlashed path)

include slashed

theorem wellSlashed_relativePath {resource : Resource}
    (h : resource ∈ (draft.view declared).walk) : WellSlashed resource.relativePath := by
  obtain ⟨path, hpath, rfl⟩ := (mem_walk_view declared slashed).mp h
  exact wellSlashed_entryOf_relativePath slashed hpath

end Draft

namespace Draft.Resolved

variable {draft : Draft} {view : ApiView} (resolved : draft.Resolved view)

include resolved

theorem apart {siblings : List Resource} (hwalk : ∀ resource ∈ siblings, resource ∈ view.walk)
    (nodup : (siblings.map (·.relativePath)).Nodup) : Resource.Apart siblings where
  slashed resource hresource := by
    have hmem := hwalk resource hresource
    rw [resolved.view_eq] at hmem
    exact wellSlashed_relativePath _ resolved.normal.wellSlashed hmem
  nodup := nodup

theorem separate : view.Separate where
  roots := resolved.apart (fun root hroot => (resolved.arranged.root root hroot).1)
    resolved.arranged.nodup_roots
  within resource hresource := {
    parameters := by
      obtain ⟨above, habove⟩ := Resource.mem_visit_iff.mp hresource
      exact (resolved.declaredAlong habove).nodup_names
    methods := by
      rw [resolved.view_eq] at hresource
      obtain ⟨path, -, rfl⟩ := (mem_walk_view _ resolved.normal.wellSlashed).mp hresource
      exact nodup_methods_resourceOf _ resolved.unrepeated _
    children := resolved.apart
      (fun child hchild => (resolved.arranged.child resource hresource child hchild).1)
      (resolved.arranged.nodup_children hresource) }

end Draft.Resolved

variable {fragments : List Fragment} {options : MergeOptions} {views : List ApiView}

theorem merge_separate (h : merge fragments options = .ok views) :
    ∀ view ∈ views, view.Separate := by
  intro view hview
  obtain ⟨-, drafts, -, -, -, hviews⟩ := exists_resolved h
  obtain ⟨draft, -, hresolved⟩ := hviews.exists_left hview
  exact hresolved.separate

end ApiManual
