import ApiManual.Proofs.TypeRegistry.Recursion
import Mathlib.Algebra.Order.Ring.Nat
import Mathlib.Logic.Function.Iterate
import Mathlib.Tactic.Linarith

/-!
The stack and the recursion. Each frame on the stack is a call of the recursion that waits for a
node, so from an identity that is opened the machine comes to the node that the recursion gives, or
stops where the recursion fails. How many steps that takes is bounded by how many types are left.
-/
namespace ApiManual.TypeRegistry

variable {registry : TypeRegistry}

/-- What is left to do once it is known what comes of a type: the node goes to the innermost frame.
-/
def Progress.settled (frames : List Frame) : Except UnknownType TypeNode → Progress
  | .ok node => .closing node frames
  | .error unknown => .finished (.error unknown)

/-- The machine comes from one place to another in at most so many steps. -/
def Reaches (registry : TypeRegistry) (bound : Nat) (start goal : Progress) : Prop :=
  ∃ steps ≤ bound, registry.advance^[steps] start = goal

namespace Reaches

variable {bound bound' : Nat} {start middle goal : Progress}

theorem refl (registry : TypeRegistry) (progress : Progress) :
    registry.Reaches 0 progress progress := ⟨0, le_rfl, rfl⟩

theorem mono (h : registry.Reaches bound start goal) (hle : bound ≤ bound') :
    registry.Reaches bound' start goal := by
  obtain ⟨steps, hsteps, hgoal⟩ := h
  exact ⟨steps, hsteps.trans hle, hgoal⟩

theorem trans (h : registry.Reaches bound start middle) (h' : registry.Reaches bound' middle goal) :
    registry.Reaches (bound + bound') start goal := by
  obtain ⟨steps, hsteps, rfl⟩ := h
  obtain ⟨steps', hsteps', rfl⟩ := h'
  refine ⟨steps' + steps, by omega, ?_⟩
  rw [Function.iterate_add_apply]

theorem step (h : registry.Reaches bound (registry.advance start) goal) :
    registry.Reaches (bound + 1) start goal := by
  obtain ⟨steps, hsteps, hgoal⟩ := h
  exact ⟨steps + 1, Nat.succ_le_succ hsteps, hgoal⟩

theorem one (h : registry.advance start = goal) : registry.Reaches 1 start goal := ⟨1, le_rfl, h⟩

theorem outcome? {outcome : Except UnknownType TypeNode}
    (h : registry.Reaches bound start (.finished outcome)) {steps : Nat} (hle : bound ≤ steps) :
    registry.outcome? steps start = some outcome := by
  obtain ⟨needed, hneeded, hgoal⟩ := h
  have hsteps := hneeded.trans hle
  clear hle hneeded
  induction needed generalizing start steps with
  | zero =>
    rw [Function.iterate_zero_apply] at hgoal
    rw [hgoal]
    cases steps <;> rfl
  | succ needed ih =>
    obtain ⟨steps, rfl⟩ := Nat.exists_eq_add_of_le' (Nat.one_le_of_lt hsteps)
    have hrest := ih hgoal (Nat.le_of_succ_le_succ hsteps)
    cases start with
    | opening id path frames => exact hrest
    | closing node frames => exact hrest
    | finished outcome' =>
      -- a machine that has stopped stays where it is
      have hstopped : registry.outcome? steps (.finished outcome') = some outcome' := by
        cases steps <;> rfl
      exact hstopped.symm.trans hrest

end Reaches

/-- How many steps it takes at most to expand a type while so many types are left. -/
def cost (registry : TypeRegistry) : Nat → Nat
  | 0 => 1
  | left + 1 => registry.width * (registry.cost left + 1) + 1

theorem one_le_cost (left : Nat) : 1 ≤ registry.cost left := by
  cases left with
  | zero => exact le_rfl
  | succ left => exact Nat.succ_le_succ (Nat.zero_le _)

theorem foldl_bounds {α : Type} {grow : Nat → α → Nat} {size : α → Nat}
    (grows : ∀ total item, 1 ≤ total → total ≤ grow total item ∧ size item ≤ grow total item)
    (items : List α) {start : Nat} (hstart : 1 ≤ start) :
    start ≤ items.foldl grow start ∧ ∀ item ∈ items, size item ≤ items.foldl grow start := by
  induction items generalizing start with
  | nil => exact ⟨le_rfl, nofun⟩
  | cons first rest ih =>
    obtain ⟨htotal, hsize⟩ := grows start first hstart
    obtain ⟨hrest, hall⟩ := ih (hstart.trans htotal)
    exact ⟨htotal.trans hrest, List.forall_mem_cons.mpr ⟨hsize.trans hrest, hall⟩⟩

theorem width_bounds (registry : TypeRegistry) :
    1 ≤ registry.width ∧ ∀ d ∈ registry.types, d.shape.links.length ≤ registry.width := by
  refine foldl_bounds (fun total d htotal => ?_) registry.types le_rfl
  cases d.shape <;> simp [TypeShape.links, htotal]

theorem cost_succ_le {left right : Nat} (h : left < right) :
    registry.width * (registry.cost left + 1) + 1 ≤ registry.cost right := by
  have hmono : Monotone registry.cost := by
    refine monotone_nat_of_le_succ fun left => ?_
    rw [cost]
    nlinarith [registry.width_bounds.1]
  exact hmono h

theorem cost_lt_stepBound (registry : TypeRegistry) :
    registry.cost registry.types.length < registry.stepBound := by
  have hcost : ∀ left, registry.cost left + 2 ≤ 3 * (registry.width + 1) ^ left := by
    intro left
    induction left with
    | zero => exact le_rfl
    | succ left ih =>
      have hpos : 1 ≤ (registry.width + 1) ^ left := Nat.one_le_pow _ _ (Nat.succ_pos _)
      rw [cost, pow_succ]
      nlinarith
  have hmono : (registry.width + 1) ^ registry.types.length ≤
      (registry.width + 1) ^ (registry.types.length + 2) :=
    Nat.pow_le_pow_right (Nat.succ_pos _) (Nat.le_add_right _ 2)
  have hlast := hcost registry.types.length
  change _ < 3 * (registry.width + 1) ^ (registry.types.length + 2)
  omega

theorem reaches_container {self : Ancestor} {kind : ContainerKind} {frames : List Frame}
    {bound : Nat} {start : Progress} {tree : Except UnknownType TypeNode}
    (h : registry.Reaches bound start (.settled (.container self kind :: frames) tree)) :
    registry.Reaches (bound + 1) start (.settled frames (TypeNode.container kind <$> tree)) := by
  cases tree with
  | error unknown => exact h.mono (Nat.le_succ bound)
  | ok node => exact h.trans (.one rfl)

theorem reaches_nextMember {self : Ancestor} {frames : List Frame} {bound : Nat}
    {tree : String × TypeId → Except UnknownType TypeNode} (members : List (String × TypeId))
    (opened : ∀ member ∈ members, ∀ fields rest, registry.Reaches bound
      (.opening member.2 (self.path ++ [member.1]) (.object self fields member.1 rest :: frames))
      (.settled (.object self fields member.1 rest :: frames) (tree member)))
    (fields : List (String × TypeNode)) :
    registry.Reaches (members.length * (bound + 1)) (nextMember self fields frames members)
      (.settled frames ((fun rest => TypeNode.object self.name (fields ++ rest)) <$>
        members.mapM fun member => (member.1, ·) <$> tree member)) := by
  induction members generalizing fields with
  | nil =>
    rw [List.length_nil, Nat.zero_mul, List.mapM_nil]
    change registry.Reaches 0 _ (.closing (.object self.name (fields ++ [])) frames)
    rw [List.append_nil]
    exact .refl registry _
  | cons member rest ih =>
    obtain ⟨hmember, hrest⟩ := List.forall_mem_cons.mp opened
    have hopened := hmember fields rest
    rw [List.mapM_cons]
    cases htree : tree member with
    | error unknown =>
      rw [htree] at hopened
      refine hopened.mono ?_
      rw [List.length_cons, Nat.succ_mul]
      omega
    | ok node =>
      rw [htree] at hopened
      have hlater := ih hrest (fields ++ [(member.1, node)])
      have hfields : Progress.settled frames ((fun later =>
          TypeNode.object self.name (fields ++ [(member.1, node)] ++ later)) <$>
            rest.mapM fun member => (member.1, ·) <$> tree member) =
          .settled frames ((fun later => TypeNode.object self.name (fields ++ later)) <$> do
            let field ← (member.1, ·) <$> (.ok node : Except UnknownType TypeNode)
            let later ← rest.mapM fun member => (member.1, ·) <$> tree member
            pure (field :: later)) := by
        cases rest.mapM fun member => (member.1, ·) <$> tree member with
        | error unknown => rfl
        | ok later =>
          change Progress.closing (.object self.name (fields ++ [_] ++ later)) frames = _
          rw [List.append_assoc]
          rfl
      rw [← hfields, List.length_cons, Nat.succ_mul]
      refine (hopened.trans (Reaches.step hlater)).mono ?_
      omega

/-- An identity that is opened is expanded, with those of the frames as its ancestors. -/
theorem reaches_settled (registry : TypeRegistry) (ancestors : List Ancestor) (path : List String)
    (id : TypeId) : ∀ frames, frames.map Frame.self = ancestors →
      registry.Reaches (registry.cost (registry.remaining ancestors)) (.opening id path frames)
        (.settled frames (registry.expand ancestors path id)) := by
  induction ancestors, path, id using expand_induction registry with
  | expanding ancestors path id ancestor hexpanding =>
    rintro frames rfl
    refine (Reaches.one ?_).mono (one_le_cost _)
    rw [expand_eq, hexpanding, advance, hexpanding]
    rfl
  | primitive ancestors path id name hnew hprimitive =>
    rintro frames rfl
    refine (Reaches.one ?_).mono (one_le_cost _)
    rw [expand_eq, hnew, hprimitive, advance, hnew, hprimitive]
    rfl
  | unknown ancestors path id hnew hprimitive hget =>
    rintro frames rfl
    refine (Reaches.one ?_).mono (one_le_cost _)
    rw [expand_eq, hnew, hprimitive, hget, advance, hnew, hprimitive, hget]
    rfl
  | known ancestors path id descriptor hnew hprimitive hget ih =>
    rintro frames rfl
    have hwidth := registry.width_bounds.2 descriptor (List.mem_of_find?_eq_some hget)
    have hleft : registry.remaining (⟨id, descriptor.name, path⟩ :: frames.map Frame.self) <
        registry.remaining (frames.map Frame.self) := remaining_cons_lt registry hget hnew
    refine Reaches.mono ?_ (cost_succ_le hleft)
    refine Reaches.step ?_
    rw [expand_eq, hnew, hprimitive, hget, advance, hnew, hprimitive, hget]
    cases hshape : descriptor.shape with
    | scalar name =>
      simp only [hshape]
      exact (Reaches.refl registry _).mono (Nat.zero_le _)
    | enumeration literals =>
      simp only [hshape]
      exact (Reaches.refl registry _).mono (Nat.zero_le _)
    | container kind element =>
      simp only [hshape]
      have hmember : (TypeNode.elementLabel, element) ∈ descriptor.shape.links := by
        simp [hshape, TypeShape.links]
      have hclosed := reaches_container (ih _ _ hmember
        (.container ⟨id, descriptor.name, path⟩ kind :: frames) rfl)
      refine hclosed.mono ?_
      nlinarith [registry.width_bounds.1]
    | object members =>
      simp only [hshape]
      rw [hshape] at ih hwidth
      refine Reaches.mono (reaches_nextMember members ?_ []) (Nat.mul_le_mul_right _ hwidth)
      exact fun member hmember fields rest => ih member.1 member.2 hmember
        (.object ⟨id, descriptor.name, path⟩ fields member.1 rest :: frames) rfl

theorem reaches_finished (registry : TypeRegistry) (root : TypeId) :
    registry.Reaches registry.stepBound (.opening root [] [])
      (.finished (registry.expand [] [] root)) := by
  have hsettled := reaches_settled registry [] [] root [] rfl
  have hleft : registry.remaining [] = registry.types.length := by simp [remaining]
  rw [hleft] at hsettled
  have hbound := cost_lt_stepBound registry
  cases hexpand : registry.expand [] [] root with
  | error unknown =>
    rw [hexpand] at hsettled
    exact hsettled.mono hbound.le
  | ok node =>
    rw [hexpand] at hsettled
    exact (hsettled.trans (Reaches.step (.refl registry _))).mono hbound

theorem build_eq (registry : TypeRegistry) (root : TypeId) :
    registry.build root = registry.expand [] [] root := by
  rw [build, (reaches_finished registry root).outcome? le_rfl]
  rfl

/-- The stack machine stops, with what the recursion gives. That is a tree which nests no deeper
than there are types, or else the first identity below the root that is unknown. -/
theorem build_eq_expand (registry : TypeRegistry) (root : TypeId) :
    (∃ steps, ∀ more ≥ steps, registry.outcome? more (.opening root [] []) =
      some (registry.expand [] [] root)) ∧
    registry.build root = registry.expand [] [] root ∧
    (∀ unknown, registry.build root = .error unknown ↔
      (registry.unknowns [] root).head? = some unknown.id) ∧
    ∀ node, registry.build root = .ok node → node.nesting ≤ registry.typeCount := by
  have hreaches := reaches_finished registry root
  refine ⟨⟨registry.stepBound, fun _ hle => hreaches.outcome? hle⟩, build_eq registry root, ?_, ?_⟩
  · intro unknown
    rw [build_eq, ← Except.failure?_eq_some_iff, failure?_expand]
    cases unknown
    simp
  · intro node hnode
    rw [build_eq] at hnode
    exact nesting_add_length_le hnode (.nil registry)

/-- Nodes that lie below each other, and a plan that names two types which nothing is known of. -/
def forestRegistry : TypeRegistry :=
  (((({} : TypeRegistry).insertObject "garden.Forest"
    [("oldest", "garden.Node"), ("all", "garden.Nodes")]).insertContainer
    "garden.Nodes" .list "garden.Node").insertObject "garden.Node"
    [("name", "lang.Name"), ("next", "garden.Node"), ("below", "garden.Nodes")]).insertObject
    "garden.Plan" [("forest", "garden.Forest"), ("owner", "garden.Owner"), ("site", "garden.Site")]
    |>.markAtomic "lang.Name" "string"

def forestTree : TypeNode :=
  .object "Forest" [
    ("oldest", .object "Node" [("name", .primitive "string"),
      ("next", .reference "Node" ["oldest"]),
      ("below", .container .list (.reference "Node" ["oldest"]))]),
    ("all", .container .list (.object "Node" [("name", .primitive "string"),
      ("next", .reference "Node" ["all", "[]"]), ("below", .reference "Nodes" ["all"])]))]

theorem build_eq_expand_forest :
    forestRegistry.expand [] [] "garden.Forest" = .ok forestTree ∧
    forestTree.nesting ≤ forestRegistry.typeCount ∧
    (forestRegistry.unknowns [] "garden.Plan").head? = some "garden.Owner" := by
  obtain ⟨-, hexpand, -, hnesting⟩ := build_eq_expand forestRegistry "garden.Forest"
  obtain ⟨-, -, hunknown, -⟩ := build_eq_expand forestRegistry "garden.Plan"
  have htree : forestRegistry.build "garden.Forest" = .ok forestTree := by decide +kernel
  have hplan : forestRegistry.build "garden.Plan" = .error ⟨"garden.Owner"⟩ := by decide +kernel
  exact ⟨hexpand ▸ htree, hnesting _ htree, (hunknown ⟨_⟩).mp hplan⟩

end ApiManual.TypeRegistry
