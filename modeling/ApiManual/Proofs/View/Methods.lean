import ApiManual.Proofs.Distinct
import ApiManual.Proofs.View.Tree

/-! The methods of a view: every mount is a method of one resource, and nothing else is. -/
namespace ApiManual

open Outline UriPath

namespace ApiView

/-- The methods of all resources, each one with the path of its resource. -/
def placed (view : ApiView) : List (String × ResourceMethod) :=
  view.walk.flatMap fun resource => resource.methods.map (resource.path, ·)

theorem mem_placed {view : ApiView} {path : String} {method : ResourceMethod} :
    (path, method) ∈ view.placed ↔
      ∃ resource ∈ view.walk, resource.path = path ∧ method ∈ resource.methods := by
  unfold placed
  rw [List.mem_flatMap]
  constructor
  · rintro ⟨resource, hresource, hmem⟩
    obtain ⟨_, hmethod, heq⟩ := List.mem_map.mp hmem
    cases heq
    exact ⟨resource, hresource, rfl, hmethod⟩
  · rintro ⟨resource, hresource, rfl, hmethod⟩
    exact ⟨resource, hresource, List.mem_map_of_mem hmethod⟩

theorem methodCount_eq (view : ApiView) : view.methodCount = view.placed.length := by
  unfold methodCount
  rw [placed, List.length_flatMap, List.length_flatMap]
  simp only [List.length_map]

theorem nodup_methods {view : ApiView} (h : view.placed.Nodup) {resource : Resource}
    (hresource : resource ∈ view.walk) : resource.methods.Nodup := by
  rw [placed, List.nodup_flatMap] at h
  exact (h.1 resource hresource).of_map

theorem count_placed {view : ApiView} (h : view.placed.Nodup) {path : String}
    {method : ResourceMethod} (hmem : (path, method) ∈ view.placed) :
    view.placed.count (path, method) = 1 ∧
      ∃ resource ∈ view.walk, resource.path = path ∧ resource.methods.count method = 1 := by
  obtain ⟨resource, hresource, hpath, hmethod⟩ := mem_placed.mp hmem
  have hnodup := nodup_methods h hresource
  exact ⟨List.count_eq_one_of_mem h hmem, resource, hresource, hpath,
    List.count_eq_one_of_mem hnodup hmethod⟩

end ApiView

namespace Draft

variable {draft : Draft} (declared : List Declaration)
  (slashed : ∀ path ∈ draft.mountPaths, WellSlashed path)

include slashed

theorem placed_view :
    (draft.view declared).placed.Perm
      (draft.mounts.map fun mount => (mount.path, mount.method)) := by
  have hgroups : (draft.view declared).placed =
      ((draft.outline.preOrder.map (·.path)).flatMap fun path =>
        draft.mounts.filter (·.path = path)).map fun mount => (mount.path, mount.method) := by
    unfold ApiView.placed
    rw [walk_view declared slashed, List.flatMap_map, List.flatMap_map,
      List.map_flatMap]
    apply List.flatMap_congr
    intro entry _
    unfold resourceOf
    rw [List.map_map]
    apply List.map_congr_left
    intro mount hmount
    have hpath := of_decide_eq_true (List.mem_filter.mp hmount).2
    rw [Function.comp_apply, hpath]
  have hcovered : ∀ mount ∈ draft.mounts, mount.path ∈ draft.outline.preOrder.map (·.path) := by
    intro mount hmount
    have hentry := (mem_preOrder slashed).mpr ⟨mount.path, path_mem_mountPaths hmount, rfl⟩
    have hmem := List.mem_map_of_mem (f := (·.path)) hentry
    rwa [entryOf_path] at hmem
  rw [hgroups]
  exact (perm_flatMap_filter Mount.path (nodup_preOrder_paths slashed) hcovered).map _

theorem nodup_placed_view (unrepeated : Mount.Unrepeated draft.mounts) :
    (draft.view declared).placed.Nodup := by
  apply (placed_view declared slashed).nodup_iff.mpr
  have hoperation : Mount.operation = (fun placed : String × ResourceMethod =>
      (placed.1, placed.2.endpoint.method)) ∘ fun mount => (mount.path, mount.method) := rfl
  rw [Mount.Unrepeated, hoperation, ← List.map_map] at unrepeated
  exact unrepeated.of_map

end Draft

end ApiManual
