import ApiManual.Proofs.Distinct
import ApiManual.Proofs.Mounts
import ApiManual.Proofs.Outline.PreOrder
import ApiManual.Proofs.View.Walk

/-!
The tree of a view follows the outline of its draft: the walk holds one resource for each entry, in
the order of the outline's visit, and a way down leads along the chain of its last path.
-/
namespace ApiManual.Draft

open Outline UriPath Resource

variable (draft : Draft) (declared : List Declaration)

/-- The resources that the view of the draft has directly below a place. -/
def resourcesBelow (place : Option String) : List Resource :=
  Resolution.resources draft.outline declared draft.mounts
    (draft.mounts.flatMap (Mount.statements draft.outline declared)) draft.outline.entries.length
    place

def resourceOf (entry : Entry) : Resource where
  path := entry.path
  relativePath := entry.relativePath
  uriParameters := (declared.filter (·.owner = entry.path)).map
    (Statement.summarize · (draft.mounts.flatMap (Mount.statements draft.outline declared)))
  methods := (draft.mounts.filter (·.path = entry.path)).map Mount.method
  children := draft.resourcesBelow declared (some entry.path)

theorem outline_eq : draft.outline = ofPaths draft.mountPaths := rfl

theorem view_resources : (draft.view declared).resources = draft.resourcesBelow declared none := rfl

variable {draft} (slashed : ∀ path ∈ draft.mountPaths, WellSlashed path)

include slashed

theorem resourcesBelow_eq (place : Option String) :
    draft.resourcesBelow declared place =
      (draft.outline.below place).map (draft.resourceOf declared) := by
  have hfuel := eq_succ_of_height_le (Resolution.resources draft.outline declared draft.mounts
    (draft.mounts.flatMap (Mount.statements draft.outline declared)))
    (descendantCount draft.mountPaths) ?_ ?_ (descendantCount_le_length _ place)
  · refine hfuel.trans ?_
    rw [Resolution.resources]
    simp only [foldl_pushNew_nil]
    rfl
  · intro place hzero
    rw [Resolution.resources, Resolution.resources, outline_eq, below_eq_nil slashed hzero,
      List.map_nil]
  · intro fuel place ih
    rw [Resolution.resources, Resolution.resources]
    apply List.map_congr_left
    intro entry hentry
    obtain ⟨path, hpath, rfl, rfl⟩ := mem_below.mp hentry
    rw [entryOf_path, ih _ (descendantCount_lt slashed hpath)]

theorem preOrderAll_resourcesBelow (place : Option String) :
    preOrderAll (draft.resourcesBelow declared place) =
      (draft.outline.descendants place).map (draft.resourceOf declared) := by
  induction place using descent_induction slashed with
  | step place ih =>
    rw [resourcesBelow_eq declared slashed, preOrderAll_eq_flatMap, outline_eq,
      descendants_eq slashed, List.flatMap_map, List.map_flatMap]
    apply List.flatMap_congr
    intro entry hentry
    obtain ⟨path, hpath, hparent, rfl⟩ := mem_below.mp hentry
    have hchildren := ih path hpath hparent
    rw [preOrder_eq_cons, List.map_cons, entryOf_path, ← outline_eq, ← hchildren]
    unfold resourceOf
    rw [entryOf_path]

theorem walk_view :
    (draft.view declared).walk = draft.outline.preOrder.map (draft.resourceOf declared) := by
  rw [walk_eq_preOrderAll, view_resources, preOrderAll_resourcesBelow declared slashed,
    outline_eq, preOrder_eq slashed]

theorem mem_walk_view {resource : Resource} :
    resource ∈ (draft.view declared).walk ↔
      ∃ path ∈ draft.mountPaths,
        draft.resourceOf declared (entryOf draft.mountPaths path) = resource := by
  rw [walk_view declared slashed, List.mem_map]
  simp only [outline_eq, mem_preOrder slashed, exists_exists_and_eq_and]

theorem mem_resourcesBelow {place : Option String} {resource : Resource} :
    resource ∈ draft.resourcesBelow declared place ↔
      ∃ path ∈ draft.mountPaths, (entryOf draft.mountPaths path).parent = place ∧
        draft.resourceOf declared (entryOf draft.mountPaths path) = resource := by
  rw [resourcesBelow_eq declared slashed, List.mem_map]
  simp only [outline_eq, mem_below]
  constructor
  · rintro ⟨_, ⟨path, hpath, hparent, rfl⟩, rfl⟩
    exact ⟨path, hpath, hparent, rfl⟩
  · rintro ⟨path, hpath, hparent, rfl⟩
    exact ⟨_, ⟨path, hpath, hparent, rfl⟩, rfl⟩

theorem mem_children_resourceOf {path : String} {resource : Resource} :
    resource ∈ (draft.resourceOf declared (entryOf draft.mountPaths path)).children ↔
      ∃ lower ∈ draft.mountPaths, IsParent draft.mountPaths path lower ∧
        draft.resourceOf declared (entryOf draft.mountPaths lower) = resource := by
  unfold resourceOf
  rw [entryOf_path, mem_resourcesBelow declared slashed]
  constructor
  · rintro ⟨lower, hlower, hparent, rfl⟩
    exact ⟨lower, hlower, (entryOf_parent_eq_some_iff slashed hlower).mp hparent, rfl⟩
  · rintro ⟨lower, hlower, hparent, rfl⟩
    exact ⟨lower, hlower, (entryOf_parent_eq_some_iff slashed hlower).mpr hparent, rfl⟩

/-- A way down leads along the chain of its last path. -/
theorem wayDown_view {above : List Resource} {resource : Resource}
    (h : WayDown (draft.view declared).resources (above ++ [resource])) :
    ∃ path ∈ draft.mountPaths,
      draft.resourceOf declared (entryOf draft.mountPaths path) = resource ∧
        above ++ [resource] =
          (draft.outline.chain path).reverse.map (draft.resourceOf declared) := by
  induction above using List.reverseRecOn generalizing resource with
  | nil =>
    rw [List.nil_append, wayDown_singleton, view_resources,
      mem_resourcesBelow declared slashed] at h
    obtain ⟨path, hpath, hroot, rfl⟩ := h
    refine ⟨path, hpath, rfl, ?_⟩
    rw [outline_eq, chain_root slashed hpath hroot]
    rfl
  | append_singleton above parent ih =>
    rw [List.append_assoc, List.singleton_append, wayDown_append_pair] at h
    obtain ⟨hparent, hchild⟩ := h
    obtain ⟨upper, hupper, rfl, hchain⟩ := ih hparent
    obtain ⟨path, hpath, hbelow, rfl⟩ := (mem_children_resourceOf declared slashed).mp hchild
    refine ⟨path, hpath, rfl, ?_⟩
    rw [hchain, outline_eq, chain_of_isParent slashed hpath hbelow, List.reverse_cons,
      List.map_append, List.map_singleton]

end ApiManual.Draft
