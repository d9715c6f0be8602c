import ApiManual.Proofs.Merge.Selection
import ApiManual.Proofs.Outline.TableVisit
import ApiManual.Proofs.TypeNode.References
import ApiManual.Proofs.View.Walk

/-!
Three loops over a stack and the recursions that they agree with: the search of a type for its
references, the walk of a view, and the way through the table of the paths of a draft.
-/
namespace ApiManual

open Traversal (Finds Unfolds)

/-- The paths of a draft as a table, in the order in which the endpoints first give them. -/
def Draft.table (draft : Draft) : Outline.Table := .ofPaths draft.mountPaths

/-- The loop goes through the whole table of a draft, and so does the visit of its outline. -/
structure Draft.Traversed (draft : Draft) : Prop where
  paths : draft.table.rows.map (·.path) = distinct draft.mountPaths
  outline : List.Forall₂ draft.table.Describes draft.table.rows draft.outline.entries
  /-- The loop ends and agrees with the recursion from the roots, which lists all rows. -/
  recursion : ∃ subtree order, Unfolds draft.table.below subtree ∧
    order = draft.table.roots.flatMap subtree ∧ draft.table.PreOrder order ∧
    draft.table.Lists order ∧
    draft.outline.preOrder.map some = order.map (draft.outline.entries[·]?)

theorem Draft.traversed {draft : Draft}
    (h : ¬ ("" ∈ draft.mountPaths ∧ "/" ∈ draft.mountPaths)) : draft.Traversed where
  paths := Outline.Table.map_path_rows _
  outline := Outline.Table.describes_ofPaths _
  recursion := by
    have hlinked := Outline.Table.linked_ofPaths draft.mountPaths
    have hgrounded := Outline.Table.grounded_ofPaths h
    obtain ⟨subtree, hsubtree⟩ := hlinked.exists_unfolds hgrounded
    exact ⟨subtree, _, hsubtree, rfl, hsubtree.finds_all _, hlinked.lists hsubtree hgrounded,
      Outline.Table.map_some_preOrder hsubtree hgrounded⟩

theorem Draft.Normal.traversed {draft : Draft} (normal : draft.Normal) : draft.Traversed := by
  apply Draft.traversed
  rintro ⟨hempty, -⟩
  exact absurd (normal.wellSlashed "" hempty).head?_toList (by decide)

/-- Each of the three loops ends and agrees with the recursion over its tree. The references of a
type are those among its nodes in pre-order, and the walk of a view is the pre-order of its
resources. In the table of what is documented of a draft each row is met once, before those below
it, and the rows right below one place are met in the order in which their paths are first given. -/
theorem traversals_recursive (node : TypeNode) (view : ApiView) (draft : Draft)
    (options : MergeOptions) :
    (Finds TypeNode.children TypeNode.isReference [node] node.references ∧
      node.references = node.preOrder.filter TypeNode.isReference) ∧
    (Finds Resource.children (fun _ => true) view.resources view.walk ∧
      view.walk = Resource.preOrderAll view.resources) ∧
    (draft.selected options).Traversed := by
  refine ⟨⟨?_, node.references_eq⟩, ⟨?_, Resource.walk_eq_preOrderAll view⟩, ?_⟩
  · have hfinds : Finds TypeNode.children TypeNode.isReference [node] _ :=
      TypeNode.unfolds_preOrder.finds [node]
    rwa [List.flatMap_singleton, ← node.references_eq] at hfinds
  · rw [Resource.walk_eq_preOrderAll, Resource.preOrderAll_eq_flatMap]
    exact Resource.unfolds_preOrder.finds_all view.resources
  · exact draft.normal_selected.traversed

end ApiManual
