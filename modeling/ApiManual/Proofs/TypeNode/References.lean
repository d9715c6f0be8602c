import ApiManual.Proofs.Traversal
import ApiManual.Proofs.TypeNode.Position

/-!
The references of a tree: which trees have any, and what becomes of them when the tree is put at the
end of further labels.
-/
namespace ApiManual.TypeNode

variable {node : TypeNode}

theorem children_eq (node : TypeNode) : node.children = node.links.map (·.2) := by
  cases node <;> rfl

/-- What holds of a tree if it holds of those right below it holds of all trees. -/
@[elab_as_elim]
theorem link_induction {motive : TypeNode → Prop}
    (step : ∀ node, (∀ link ∈ node.links, motive link.2) → motive node) (node : TypeNode) :
    motive node := by
  induction node using tree_induction with
  | object name fields ih => exact step _ ih
  | container kind element ih => exact step _ (by simpa [links] using ih)
  | _ => exact step _ fun link hlink => absurd hlink List.not_mem_nil

theorem unfolds_preOrder : Traversal.Unfolds children preOrder := by
  intro node
  rw [preOrder_eq_cons, children_eq, List.flatMap_map]

theorem referencesIn_eq (pending : List TypeNode) :
    referencesIn pending = (pending.flatMap preOrder).filter isReference := by
  induction pending using referencesIn.induct with
  | case1 =>
    rw [referencesIn]
    rfl
  | case2 node pending hreference ih =>
    rw [referencesIn, if_pos hreference, ih, unfolds_preOrder.flatMap_cons,
      List.filter_cons_of_pos hreference]
  | case3 node pending hreference ih =>
    rw [referencesIn, if_neg hreference, ih, unfolds_preOrder.flatMap_cons,
      List.filter_cons_of_neg hreference]

theorem references_eq (node : TypeNode) : node.references = node.preOrder.filter isReference := by
  rw [references, referencesIn_eq, List.flatMap_singleton]

theorem containsReference_eq_any (node : TypeNode) :
    node.containsReference = node.preOrder.any isReference := by
  rw [containsReference, references_eq, Bool.eq_iff_iff, Bool.not_eq_true',
    List.isEmpty_eq_false_iff, List.any_eq_true, ne_eq, List.filter_eq_nil_iff]
  simp only [not_forall, Classical.not_not, exists_prop]

theorem containsReference_iff : node.containsReference = true ↔
    node.isReference = true ∨ ∃ link ∈ node.links, link.2.containsReference = true := by
  simp only [containsReference_eq_any]
  rw [preOrder_eq_cons, List.any_cons, Bool.or_eq_true, List.any_flatMap, List.any_eq_true]

mutual

/-- The tree at the end of the labels: they come first in the path of each reference. -/
def shift (labels : List String) : TypeNode → TypeNode
  | primitive name => primitive name
  | object name fields => object name (shiftFields labels fields)
  | container kind element => container kind (element.shift labels)
  | enumeration name literals => enumeration name literals
  | reference target path => reference target (labels ++ path)

def shiftFields (labels : List String) : List (String × TypeNode) → List (String × TypeNode)
  | [] => []
  | (name, type) :: rest => (name, type.shift labels) :: shiftFields labels rest

end

theorem shiftFields_eq_map (labels : List String) (fields : List (String × TypeNode)) :
    shiftFields labels fields = fields.map fun field => (field.1, field.2.shift labels) := by
  induction fields with
  | nil => rfl
  | cons field rest ih => rw [shiftFields, ih, List.map_cons]

theorem shift_eq_self (labels : List String) (h : node.containsReference = false) :
    node.shift labels = node := by
  induction node using tree_induction with
  | primitive name => rfl
  | enumeration name literals => rfl
  | reference target path => simp [containsReference_eq_any, preOrder, isReference] at h
  | container kind element ih =>
    rw [← Bool.not_eq_true, containsReference_iff, not_or] at h
    have helement : ¬ element.containsReference = true := fun hin =>
      h.2 ⟨_, List.mem_singleton_self _, hin⟩
    rw [shift, ih (Bool.eq_false_iff.mpr helement)]
  | object name fields ih =>
    rw [← Bool.not_eq_true, containsReference_iff, not_or] at h
    have hfields : fields.map (fun field => (field.1, field.2.shift labels)) = fields := by
      refine (List.map_congr_left fun field hfield => ?_).trans (List.map_id fields)
      rw [ih field hfield (Bool.eq_false_iff.mpr fun hin => h.2 ⟨field, hfield, hin⟩)]
      rfl
    rw [shift, shiftFields_eq_map, hfields]

end ApiManual.TypeNode
