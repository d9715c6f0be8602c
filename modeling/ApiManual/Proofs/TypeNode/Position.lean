import ApiManual.Proofs.Lookup
import ApiManual.TypeNode

/-!
The nodes of a tree and the labels that lead to them. Fields of one name share their label, so
labels lead to one node only where no object repeats a name.
-/

namespace ApiManual.TypeNode

@[elab_as_elim]
theorem tree_induction {motive : TypeNode → Prop} (primitive : ∀ name, motive (primitive name))
    (object : ∀ name fields, (∀ field ∈ fields, motive field.2) → motive (object name fields))
    (container : ∀ kind element, motive element → motive (container kind element))
    (enumeration : ∀ name literals, motive (enumeration name literals))
    (reference : ∀ target path, motive (reference target path)) (node : TypeNode) : motive node :=
  @TypeNode.rec motive (fun fields => ∀ field ∈ fields, motive field.2)
    (fun field => motive field.2) primitive object container enumeration reference nofun
    (fun _ _ first rest => List.forall_mem_cons.mpr ⟨first, rest⟩) (fun _ _ type => type) node

/-- The nodes right below a node, with their labels. -/
def links : TypeNode → List (String × TypeNode)
  | object _ fields => fields
  | container _ element => [(elementLabel, element)]
  | _ => []

theorem child?_eq_lookup (node : TypeNode) (label : String) :
    node.child? label = node.links.lookup label := by
  cases node with
  | container _ element =>
    rw [child?, links, List.lookup_cons]
    by_cases h : label = elementLabel
    · simp [h]
    · simp [h, beq_eq_false_iff_ne.mpr h]
  | _ => rfl

/-- The labels lead from one node down to another. -/
inductive LeadsTo : TypeNode → List String → TypeNode → Prop
  | self (node : TypeNode) : LeadsTo node [] node
  | link {node child inner : TypeNode} {label : String} {labels : List String}
      (first : (label, child) ∈ node.links) (rest : LeadsTo child labels inner) :
      LeadsTo node (label :: labels) inner

theorem leadsTo_append {node inner : TypeNode} {labels labels' : List String} :
    node.LeadsTo (labels ++ labels') inner ↔
      ∃ middle, node.LeadsTo labels middle ∧ middle.LeadsTo labels' inner := by
  constructor
  · intro h
    induction labels generalizing node with
    | nil => exact ⟨node, .self node, h⟩
    | cons label labels ih =>
      cases h with
      | link first rest =>
        obtain ⟨middle, hmiddle, hinner⟩ := ih rest
        exact ⟨middle, .link first hmiddle, hinner⟩
  · rintro ⟨middle, hmiddle, hinner⟩
    induction hmiddle with
    | self => exact hinner
    | link first _ ih => exact .link first (ih hinner)

theorem preOrderFields_eq_flatMap (fields : List (String × TypeNode)) :
    preOrderFields fields = fields.flatMap fun field => field.2.preOrder := by
  induction fields with
  | nil => rfl
  | cons field rest ih => rw [preOrderFields, ih, List.flatMap_cons]

theorem preOrder_eq_cons (node : TypeNode) :
    node.preOrder = node :: node.links.flatMap fun link => link.2.preOrder := by
  cases node with
  | object name fields => rw [preOrder, preOrderFields_eq_flatMap, links]
  | container _ element => rw [preOrder, links, List.flatMap_singleton]
  | _ => rfl

/-- No object of the tree repeats a field name. -/
def DistinctFields (root : TypeNode) : Prop :=
  ∀ node ∈ root.preOrder, (node.links.map (·.1)).Nodup

instance (root : TypeNode) : Decidable root.DistinctFields :=
  inferInstanceAs (Decidable (∀ node ∈ root.preOrder, _))

namespace DistinctFields

variable {node child : TypeNode} {label : String} (distinct : node.DistinctFields)

include distinct

theorem nodup_links : (node.links.map (·.1)).Nodup := by
  apply distinct
  rw [preOrder_eq_cons]
  exact List.mem_cons_self

theorem of_link (link : (label, child) ∈ node.links) : child.DistinctFields := by
  intro inner hinner
  apply distinct
  rw [preOrder_eq_cons]
  exact List.mem_cons_of_mem node (List.mem_flatMap.mpr ⟨(label, child), link, hinner⟩)

theorem child?_eq (link : (label, child) ∈ node.links) : node.child? label = some child := by
  rw [child?_eq_lookup]
  exact List.lookup_eq_some_of_mem distinct.nodup_links link

end DistinctFields

theorem leadsTo_of_resolve? {node inner : TypeNode} {labels : List String}
    (h : node.resolve? labels = some inner) : node.LeadsTo labels inner := by
  induction labels generalizing node with
  | nil =>
    cases h
    exact .self _
  | cons label labels ih =>
    obtain ⟨child, hchild, hrest⟩ := Option.bind_eq_some_iff.mp h
    rw [child?_eq_lookup] at hchild
    obtain ⟨before, after, hlinks, -⟩ := List.lookup_eq_some_iff.mp hchild
    have hlink : (label, child) ∈ node.links := by
      rw [hlinks]
      exact List.mem_append_right _ List.mem_cons_self
    exact .link hlink (ih hrest)

mutual

/-- The most objects and containers that lie one inside the other. -/
def nesting : TypeNode → Nat
  | object _ fields => nestingFields fields + 1
  | container _ element => element.nesting + 1
  | _ => 0

def nestingFields : List (String × TypeNode) → Nat
  | [] => 0
  | (_, type) :: rest => max type.nesting (nestingFields rest)

end

theorem nestingFields_le {fields : List (String × TypeNode)} {bound : Nat}
    (h : ∀ field ∈ fields, field.2.nesting ≤ bound) : nestingFields fields ≤ bound := by
  induction fields with
  | nil => exact Nat.zero_le bound
  | cons field rest ih =>
    obtain ⟨hfirst, hrest⟩ := List.forall_mem_cons.mp h
    exact Nat.max_le.mpr ⟨hfirst, ih hrest⟩

end ApiManual.TypeNode
