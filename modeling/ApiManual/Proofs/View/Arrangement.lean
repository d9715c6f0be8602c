import ApiManual.Proofs.Distinct
import ApiManual.Proofs.View.Tree

/-!
How the resources of a view are arranged: one for each path, each one below the longest path above
its own, and siblings in the order in which their paths first occur.
-/
namespace ApiManual

open Outline UriPath

/-- Resources stand in the order in which their paths first occur among some paths. -/
def Resource.InOrder (paths : List String) (resources : List Resource) : Prop :=
  resources.Pairwise fun earlier later => paths.idxOf earlier.path < paths.idxOf later.path

/-- The resources of a view are arranged for the paths of its endpoints, in their order. -/
structure ApiView.Arranged (view : ApiView) (paths : List String) : Prop where
  nodup : (view.walk.map (·.path)).Nodup
  mem_iff : ∀ path, path ∈ view.walk.map (·.path) ↔ path ∈ paths
  root_or_child : ∀ resource ∈ view.walk,
    resource ∈ view.resources ∨ ∃ parent ∈ view.walk, resource ∈ parent.children
  root : ∀ root ∈ view.resources, root ∈ view.walk ∧ root.relativePath = root.path ∧
    ∀ other ∈ view.walk, Covers other.path root.path → other = root
  child : ∀ parent ∈ view.walk, ∀ child ∈ parent.children, child ∈ view.walk ∧
    IsParent paths parent.path child.path ∧
      if parent.path = "/" then child.relativePath = child.path
      else parent.path ++ child.relativePath = child.path
  roots_inOrder : Resource.InOrder paths view.resources
  children_inOrder : ∀ parent ∈ view.walk, Resource.InOrder paths parent.children

namespace Draft

variable {draft : Draft} (declared : List Declaration)
  (slashed : ∀ path ∈ draft.mountPaths, WellSlashed path)

include slashed

theorem inOrder_resourcesBelow (place : Option String) :
    Resource.InOrder draft.mountPaths (draft.resourcesBelow declared place) := by
  unfold Resource.InOrder
  rw [resourcesBelow_eq declared slashed, outline_eq, below_eq, List.map_map,
    List.pairwise_map]
  simp only [Function.comp_apply, resourceOf, entryOf_path]
  exact (pairwise_idxOf_distinct draft.mountPaths).filter _

theorem walk_view_paths :
    (draft.view declared).walk.map (·.path) = draft.outline.preOrder.map (·.path) := by
  rw [walk_view declared slashed, List.map_map]
  rfl

theorem arranged_view : (draft.view declared).Arranged draft.mountPaths where
  nodup := by
    rw [walk_view_paths declared slashed]
    exact nodup_preOrder_paths slashed
  mem_iff path := by
    rw [List.mem_map]
    simp only [mem_walk_view declared slashed]
    constructor
    · rintro ⟨_, ⟨other, hother, rfl⟩, rfl⟩
      unfold resourceOf
      rw [entryOf_path]
      exact hother
    · intro hpath
      exact ⟨_, ⟨path, hpath, rfl⟩, entryOf_path _ path⟩
  root_or_child := by
    intro resource hresource
    obtain ⟨path, hpath, rfl⟩ := (mem_walk_view declared slashed).mp hresource
    cases hparent : (entryOf draft.mountPaths path).parent with
    | none => exact Or.inl ((mem_resourcesBelow declared slashed).mpr ⟨path, hpath, hparent, rfl⟩)
    | some parent =>
      have hp := (entryOf_parent_eq_some_iff slashed hpath).mp hparent
      refine Or.inr ⟨_, (mem_walk_view declared slashed).mpr ⟨parent, hp.mem, rfl⟩, ?_⟩
      exact (mem_children_resourceOf declared slashed).mpr ⟨path, hpath, hp, rfl⟩
  root := by
    intro root hroot
    obtain ⟨path, hpath, hnone, rfl⟩ := (mem_resourcesBelow declared slashed).mp hroot
    refine ⟨(mem_walk_view declared slashed).mpr ⟨path, hpath, rfl⟩, ?_, ?_⟩
    · unfold resourceOf
      rw [entryOf_path]
      exact entryOf_relativePath_root hnone
    · intro other hother hcovers
      obtain ⟨upper, hupper, rfl⟩ := (mem_walk_view declared slashed).mp hother
      simp only [resourceOf, entryOf_path] at hcovers
      rw [(entryOf_parent_eq_none_iff slashed hpath).mp hnone upper hupper hcovers]
  child := by
    intro parent hparent child hchild
    obtain ⟨upper, hupper, rfl⟩ := (mem_walk_view declared slashed).mp hparent
    obtain ⟨path, hpath, hp, rfl⟩ := (mem_children_resourceOf declared slashed).mp hchild
    refine ⟨(mem_walk_view declared slashed).mpr ⟨path, hpath, rfl⟩, ?_⟩
    simp only [resourceOf, entryOf_path]
    exact ⟨hp, entryOf_relativePath_child slashed hpath hp⟩
  roots_inOrder := inOrder_resourcesBelow declared slashed none
  children_inOrder := by
    intro parent hparent
    obtain ⟨path, hpath, rfl⟩ := (mem_walk_view declared slashed).mp hparent
    exact inOrder_resourcesBelow declared slashed _

end Draft

end ApiManual
