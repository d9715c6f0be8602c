import Mathlib.Data.List.Flatten
import Mathlib.Data.List.Perm.Basic
import Mathlib.Logic.Function.Iterate

/-!
Loops over a stack. Such a loop takes the last node off its stack, puts the nodes right below it
onto the stack, the last of them first, and goes on until the stack is empty. Where what lies below
each node can be listed by recursion, the loop comes to an end, and it meets the nodes in that
order.
-/
namespace ApiManual

/-- Where a loop over a stack stands: which of the wanted nodes it has found, and which nodes wait,
the next one last. -/
structure Traversal (α : Type) where
  found : List α
  stack : List α
  deriving DecidableEq, Repr

namespace Traversal

variable {α : Type}

def start (nodes : List α) : Traversal α := ⟨[], nodes.reverse⟩

/-- One turn of the loop. With an empty stack it has come to its end. -/
def step (below : α → List α) (wanted : α → Bool) (state : Traversal α) : Traversal α :=
  match state.stack.getLast? with
  | none => state
  | some node =>
    { found := if wanted node then state.found ++ [node] else state.found
      stack := state.stack.dropLast ++ (below node).reverse }

/-- The loop that starts with some nodes comes to its end, and then these have been found. -/
def Finds (below : α → List α) (wanted : α → Bool) (nodes found : List α) : Prop :=
  ∃ steps, (step below wanted)^[steps] (start nodes) = ⟨found, []⟩

/-- A list for each node of itself and all below it, made by recursion: the node comes first, and
then the lists of the nodes right below it, one after the other. -/
def Unfolds (below order : α → List α) : Prop :=
  ∀ node, order node = node :: (below node).flatMap order

variable {below : α → List α} {wanted : α → Bool}

theorem step_reverse_cons (found pending : List α) (node : α) :
    step below wanted ⟨found, (node :: pending).reverse⟩ =
      ⟨found ++ [node].filter wanted, (below node ++ pending).reverse⟩ := by
  rw [List.reverse_cons, step, List.getLast?_concat]
  cases hwanted : wanted node <;> simp [hwanted]

theorem iterate_step_nil (steps : Nat) (found : List α) :
    (step below wanted)^[steps] ⟨found, []⟩ = ⟨found, []⟩ :=
  Function.iterate_fixed rfl steps

theorem Finds.unique {nodes found found' : List α} (h : Finds below wanted nodes found)
    (h' : Finds below wanted nodes found') : found = found' := by
  obtain ⟨steps, hsteps⟩ := h
  obtain ⟨steps', hsteps'⟩ := h'
  wlog hle : steps ≤ steps' generalizing steps steps' found found'
  · exact (this steps' hsteps' steps hsteps (by omega)).symm
  obtain ⟨more, rfl⟩ := Nat.exists_eq_add_of_le' hle
  rw [Function.iterate_add_apply, hsteps, iterate_step_nil] at hsteps'
  exact congrArg Traversal.found hsteps'

/-- The recursion, where a height falls from each node to those right below it. -/
def orderFrom (below : α → List α) (height : α → Nat)
    (falls : ∀ node, ∀ next ∈ below node, height next < height node) (node : α) : List α :=
  node :: (below node).attach.flatMap fun next => orderFrom below height falls next.1
  termination_by height node
  decreasing_by exact falls node next.1 next.2

theorem unfolds_orderFrom (height : α → Nat)
    (falls : ∀ node, ∀ next ∈ below node, height next < height node) :
    Unfolds below (orderFrom below height falls) := by
  intro node
  rw [orderFrom, List.flatMap_subtype fun _ _ => rfl, List.unattach_attach]

namespace Unfolds

variable {order : α → List α} (h : Unfolds below order)

include h

theorem flatMap_cons (node : α) (pending : List α) :
    (node :: pending).flatMap order = node :: (below node ++ pending).flatMap order := by
  rw [List.flatMap_cons, h node, List.flatMap_append, List.cons_append]

/-- What passes from the nodes that wait after a step to those that wait before it, and holds when
none waits, holds of all nodes that may wait. -/
@[elab_as_elim]
theorem pending_induction {motive : List α → Prop} (nil : motive [])
    (cons : ∀ node pending, motive (below node ++ pending) → motive (node :: pending))
    (pending : List α) : motive pending := by
  generalize hlength : (pending.flatMap order).length = length
  induction length using Nat.strongRecOn generalizing pending with
  | ind length ih =>
    cases pending with
    | nil => exact nil
    | cons node pending =>
      refine cons node pending (ih _ ?_ _ rfl)
      rw [← hlength, h.flatMap_cons, List.length_cons]
      exact Nat.lt_succ_self _

/-- What has been found, together with what the nodes that wait unfold to, is the same all along.
The loop takes one turn for each node. -/
theorem iterate_step (found pending : List α) :
    (step below wanted)^[(pending.flatMap order).length] ⟨found, pending.reverse⟩ =
      ⟨found ++ (pending.flatMap order).filter wanted, []⟩ := by
  induction pending using h.pending_induction generalizing found with
  | nil => simp
  | cons node pending ih =>
    rw [h.flatMap_cons, List.length_cons, Function.iterate_succ_apply, step_reverse_cons, ih,
      List.append_assoc, ← List.filter_append, List.singleton_append]

theorem finds (nodes : List α) : Finds below wanted nodes ((nodes.flatMap order).filter wanted) :=
  ⟨_, h.iterate_step [] nodes⟩

theorem finds_all (nodes : List α) : Finds below (fun _ => true) nodes (nodes.flatMap order) := by
  have hfinds : Finds below (fun _ => true) nodes _ := h.finds nodes
  rwa [List.filter_true] at hfinds

theorem perm_append (nodes : List α) :
    (nodes.flatMap order).Perm (nodes ++ (nodes.flatMap order).flatMap below) := by
  induction nodes using h.pending_induction with
  | nil => exact List.Perm.refl []
  | cons node pending ih =>
    rw [h.flatMap_cons, List.flatMap_cons, List.cons_append]
    refine (ih.trans ?_).cons node
    rw [List.append_assoc]
    exact List.perm_append_comm_assoc _ _ _

theorem sublist_flatMap (nodes : List α) : nodes.Sublist (nodes.flatMap order) := by
  induction nodes with
  | nil => exact List.Sublist.refl []
  | cons node rest ih =>
    rw [h.flatMap_cons, List.flatMap_append]
    exact (ih.trans (List.sublist_append_right _ _)).cons_cons node

theorem cons_sublist {node : α} {nodes : List α} (hnode : node ∈ nodes.flatMap order) :
    (node :: below node).Sublist (nodes.flatMap order) := by
  induction nodes using h.pending_induction with
  | nil => exact absurd hnode List.not_mem_nil
  | cons first pending ih =>
    rw [h.flatMap_cons] at hnode ⊢
    rcases List.mem_cons.mp hnode with rfl | hnode
    · rw [List.flatMap_append]
      exact ((h.sublist_flatMap _).trans (List.sublist_append_left _ _)).cons_cons node
    · exact (ih hnode).cons first

end Unfolds

end Traversal

end ApiManual
