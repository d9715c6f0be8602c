import ApiManual.Proofs.Traversal
import ApiManual.View
import Mathlib.Data.List.Induction

/-!
The walk of a view, and the ways down to its resources. The walk visits exactly the resources that
a way down leads to, each one right before all that lies below it.
-/
namespace ApiManual.Resource

theorem preOrder_eq_cons (resource : Resource) :
    resource.preOrder = resource :: preOrderAll resource.children := by
  cases resource
  rfl

theorem preOrderAll_eq_flatMap (resources : List Resource) :
    preOrderAll resources = resources.flatMap preOrder := by
  induction resources with
  | nil => rfl
  | cons resource rest ih => rw [preOrderAll, ih, List.flatMap_cons]

theorem mem_preOrderAll {siblings : List Resource} {resource : Resource} :
    resource ∈ preOrderAll siblings ↔ ∃ upper ∈ siblings, resource ∈ upper.preOrder := by
  rw [preOrderAll_eq_flatMap, List.mem_flatMap]

theorem mem_preOrderAll_of_mem {siblings : List Resource} {resource : Resource}
    (h : resource ∈ siblings) : resource ∈ preOrderAll siblings := by
  refine mem_preOrderAll.mpr ⟨resource, h, ?_⟩
  rw [preOrder_eq_cons]
  exact List.mem_cons_self

theorem preOrderAll_children_subset {siblings : List Resource} {parent : Resource}
    (h : parent ∈ siblings) : preOrderAll parent.children ⊆ preOrderAll siblings := by
  intro resource hresource
  refine mem_preOrderAll.mpr ⟨parent, h, ?_⟩
  rw [preOrder_eq_cons]
  exact List.mem_cons_of_mem _ hresource

theorem unfolds_preOrder : Traversal.Unfolds children preOrder := by
  intro resource
  rw [preOrder_eq_cons, preOrderAll_eq_flatMap]

theorem visit_eq_preOrderAll (pending : List Resource) : visit pending = preOrderAll pending := by
  rw [preOrderAll_eq_flatMap]
  induction pending using visit.induct with
  | case1 =>
    rw [visit]
    rfl
  | case2 resource pending ih =>
    rw [visit, ih, unfolds_preOrder.flatMap_cons]

theorem size_le_sizeAll {resource : Resource} {siblings : List Resource}
    (h : resource ∈ siblings) : resource.size ≤ sizeAll siblings := by
  induction siblings with
  | nil => exact absurd h List.not_mem_nil
  | cons first rest ih =>
    rw [sizeAll]
    rcases List.mem_cons.mp h with rfl | hrest
    · exact Nat.le_add_right _ _
    · exact Nat.le_trans (ih hrest) (Nat.le_add_left _ _)

theorem tree_induction {motive : Resource → Prop}
    (step : ∀ resource, (∀ child ∈ resource.children, motive child) → motive resource)
    (resource : Resource) : motive resource := by
  induction hsize : resource.size using Nat.strongRecOn generalizing resource with
  | ind size ih =>
    apply step
    intro child hchild
    refine ih child.size ?_ child rfl
    rw [← hsize, size_eq resource]
    exact Nat.lt_succ_of_le (size_le_sizeAll hchild)

theorem walk_eq_preOrderAll (view : ApiView) : view.walk = preOrderAll view.resources :=
  visit_eq_preOrderAll view.resources

/-- A way down: it starts at one of these resources, and each one is a child of the one before. -/
def WayDown : List Resource → List Resource → Prop
  | _, [] => True
  | among, resource :: rest => resource ∈ among ∧ WayDown resource.children rest

@[simp] theorem wayDown_singleton {among : List Resource} {resource : Resource} :
    WayDown among [resource] ↔ resource ∈ among := by
  simp [WayDown]

theorem wayDown_append_pair {among above : List Resource} {parent resource : Resource} :
    WayDown among (above ++ [parent, resource]) ↔
      WayDown among (above ++ [parent]) ∧ resource ∈ parent.children := by
  induction above generalizing among with
  | nil => simp [WayDown]
  | cons first rest ih => simp only [List.cons_append, WayDown, ih, and_assoc]

theorem wayDown_append {left right above : List Resource} {resource : Resource} :
    WayDown (left ++ right) (above ++ [resource]) ↔
      WayDown left (above ++ [resource]) ∨ WayDown right (above ++ [resource]) := by
  cases above <;> simp [WayDown, or_and_right]

theorem wayDown_cons {first resource : Resource} {pending above : List Resource} :
    WayDown (first :: pending) (above ++ [resource]) ↔
      WayDown [first] (above ++ [resource]) ∨ WayDown pending (above ++ [resource]) := by
  rw [← List.singleton_append, wayDown_append]

theorem mem_visit_iff {pending : List Resource} {resource : Resource} :
    resource ∈ visit pending ↔ ∃ above, WayDown pending (above ++ [resource]) := by
  induction pending using visit.induct with
  | case1 =>
    unfold visit
    refine ⟨nofun, ?_⟩
    rintro ⟨above, h⟩
    cases above <;> exact absurd h.1 List.not_mem_nil
  | case2 first pending ih =>
    unfold visit
    rw [List.mem_cons, ih]
    simp only [wayDown_append]
    constructor
    · rintro (rfl | ⟨above, h | h⟩)
      · exact ⟨[], List.mem_cons_self, trivial⟩
      · exact ⟨first :: above, List.mem_cons_self, h⟩
      · exact ⟨above, wayDown_cons.mpr (Or.inr h)⟩
    · rintro ⟨above, h⟩
      rcases wayDown_cons.mp h with h | h
      · cases above with
        | nil => exact Or.inl (List.mem_singleton.mp h.1)
        | cons second rest =>
          obtain ⟨hmem, hrest⟩ := h
          rw [List.mem_singleton.mp hmem] at hrest
          exact Or.inr ⟨rest, Or.inl hrest⟩
      · exact Or.inr ⟨above, Or.inr h⟩

end ApiManual.Resource
