import ApiManual.TypeRegistry.Expansion
import ApiManual.Proofs.Except
import ApiManual.Distinct
import ApiManual.Proofs.Pairing
import ApiManual.Proofs.TypeNode.Position
import Mathlib.Data.List.Perm.Subperm

/-!
The tree of a type, case by case. It nests no deeper than there are registered identities, and where
there is no tree, the first identity below it that nothing is registered for is to blame.
-/
namespace ApiManual

/-- The identities that a shape refers to, with the labels that lead to them. -/
def TypeShape.links : TypeShape → List (String × TypeId)
  | scalar _ => []
  | object members => members
  | container _ element => [(TypeNode.elementLabel, element)]
  | enumeration _ => []

namespace TypeRegistry

variable {registry : TypeRegistry} {ancestors : List Ancestor} {path : List String} {id : TypeId}

theorem find?_eq_none_iff : ancestors.find? (·.id = id) = none ↔ id ∉ ancestors.map (·.id) := by
  simp

theorem mem_ids_of_get? {descriptor : TypeDescriptor} (h : registry.get? id = some descriptor) :
    id ∈ registry.types.map (·.id) := by
  have hid : descriptor.id = id := by simpa using List.find?_some h
  exact hid ▸ List.mem_map_of_mem (List.mem_of_find?_eq_some h)

theorem expand_eq (registry : TypeRegistry) (ancestors : List Ancestor) (path : List String)
    (id : TypeId) : registry.expand ancestors path id =
      match ancestors.find? (·.id = id), registry.primitive? id, registry.get? id with
      | some ancestor, _, _ => .ok (.reference ancestor.name ancestor.path)
      | none, some name, _ => .ok (.primitive name)
      | none, none, none => .error ⟨id⟩
      | none, none, some descriptor =>
        match descriptor.shape with
        | .scalar name => .ok (.primitive name)
        | .enumeration literals => .ok (.enumeration descriptor.name literals)
        | .container kind element =>
          TypeNode.container kind <$>
            registry.expand (⟨id, descriptor.name, path⟩ :: ancestors)
              (path ++ [TypeNode.elementLabel]) element
        | .object members =>
          TypeNode.object descriptor.name <$> members.mapM fun (label, member) =>
            (label, ·) <$> registry.expand (⟨id, descriptor.name, path⟩ :: ancestors)
              (path ++ [label]) member := by
  rw [expand]
  split
  · rename_i hexpanding
    rw [hexpanding]
  · rename_i hnew
    rw [hnew]
    cases registry.primitive? id with
    | some name => rfl
    | none =>
      dsimp only
      split
      · rename_i hget
        simp only [hget]
      · rename_i descriptor hget
        cases hshape : descriptor.shape <;> simp only [hget, hshape]

theorem expand_induction (registry : TypeRegistry)
    {motive : List Ancestor → List String → TypeId → Prop}
    (expanding : ∀ ancestors path id ancestor, ancestors.find? (·.id = id) = some ancestor →
      motive ancestors path id)
    (primitive : ∀ ancestors path id name, ancestors.find? (·.id = id) = none →
      registry.primitive? id = some name → motive ancestors path id)
    (unknown : ∀ ancestors path id, ancestors.find? (·.id = id) = none →
      registry.primitive? id = none → registry.get? id = none → motive ancestors path id)
    (known : ∀ ancestors path id descriptor, ancestors.find? (·.id = id) = none →
      registry.primitive? id = none → registry.get? id = some descriptor →
        (∀ label member, (label, member) ∈ descriptor.shape.links →
          motive (⟨id, descriptor.name, path⟩ :: ancestors) (path ++ [label]) member) →
            motive ancestors path id)
    (ancestors : List Ancestor) (path : List String) (id : TypeId) : motive ancestors path id := by
  induction ancestors, path, id using expand.induct registry with
  | case1 ancestors path id ancestor hexpanding => exact expanding _ _ _ ancestor hexpanding
  | case2 ancestors path id hnew name hprimitive => exact primitive _ _ _ name hnew hprimitive
  | case3 ancestors path id hnew hprimitive hget => exact unknown _ _ _ hnew hprimitive hget
  | case4 ancestors path id hnew hprimitive descriptor hget name hshape =>
    exact known _ _ _ _ hnew hprimitive hget (by simp [hshape, TypeShape.links])
  | case5 ancestors path id hnew hprimitive descriptor hget literals hshape =>
    exact known _ _ _ _ hnew hprimitive hget (by simp [hshape, TypeShape.links])
  | case6 ancestors path id hnew hprimitive descriptor hget kind element hshape ih =>
    refine known _ _ _ _ hnew hprimitive hget ?_
    simpa [hshape, TypeShape.links] using ih
  | case7 ancestors path id hnew hprimitive descriptor hget members hshape ih =>
    exact known _ _ _ _ hnew hprimitive hget fun label member _ => ih label member

theorem mapM_field_eq_ok_iff {tree : String × TypeId → Except UnknownType TypeNode}
    {members : List (String × TypeId)} {fields : List (String × TypeNode)} :
    (members.mapM fun member => (member.1, ·) <$> tree member) = .ok fields ↔
      List.Forall₂ (fun member field => field.1 = member.1 ∧ tree member = .ok field.2) members
        fields := by
  rw [Except.mapM_eq_ok_iff]
  refine ⟨fun h => h.imp ?_, fun h => h.imp ?_⟩
  · intro member field hfield
    obtain ⟨type, htype, rfl⟩ := Except.map_eq_ok_iff.mp hfield
    exact ⟨rfl, htype⟩
  · rintro member ⟨label, type⟩ ⟨rfl, htype⟩
    exact Except.map_eq_ok_iff.mpr ⟨type, htype, rfl⟩

/-- What the tree of a type is: a reference to the nearest ancestor with its identity, a leaf, or a
new type with the trees that its links lead to. -/
inductive Expanded (registry : TypeRegistry) (ancestors : List Ancestor) (path : List String)
    (id : TypeId) : TypeNode → Prop
  | reference (ancestor : Ancestor) (nearest : ancestors.find? (·.id = id) = some ancestor) :
      Expanded registry ancestors path id (.reference ancestor.name ancestor.path)
  | primitive (name : String) : Expanded registry ancestors path id (.primitive name)
  | enumeration (name : String) (literals : List String) :
      Expanded registry ancestors path id (.enumeration name literals)
  | container {kind : ContainerKind} {element : TypeId} {type : TypeNode}
      (descriptor : TypeDescriptor) (new : id ∉ ancestors.map (·.id))
      (get : registry.get? id = some descriptor)
      (shape : descriptor.shape = .container kind element)
      (below : registry.expand (⟨id, descriptor.name, path⟩ :: ancestors)
        (path ++ [TypeNode.elementLabel]) element = .ok type) :
      Expanded registry ancestors path id (.container kind type)
  | object {members : List (String × TypeId)} {fields : List (String × TypeNode)}
      (descriptor : TypeDescriptor) (new : id ∉ ancestors.map (·.id))
      (get : registry.get? id = some descriptor) (shape : descriptor.shape = .object members)
      (below : List.Forall₂ (fun member field => field.1 = member.1 ∧
        registry.expand (⟨id, descriptor.name, path⟩ :: ancestors) (path ++ [member.1]) member.2 =
          .ok field.2) members fields) :
      Expanded registry ancestors path id (.object descriptor.name fields)

theorem expanded {node : TypeNode} (h : registry.expand ancestors path id = .ok node) :
    registry.Expanded ancestors path id node := by
  rw [expand_eq] at h
  split at h
  · rename_i hexpanding
    cases h
    exact .reference _ hexpanding
  · cases h
    exact .primitive _
  · cases h
  · rename_i descriptor hnew hprimitive hget
    rw [find?_eq_none_iff] at hnew
    cases hshape : descriptor.shape with
    | scalar name =>
      simp only [hshape] at h
      cases h
      exact .primitive name
    | enumeration literals =>
      simp only [hshape] at h
      cases h
      exact .enumeration _ literals
    | container kind element =>
      simp only [hshape, Except.map_eq_ok_iff] at h
      obtain ⟨type, htype, rfl⟩ := h
      exact .container descriptor hnew hget hshape htype
    | object members =>
      simp only [hshape, Except.map_eq_ok_iff, mapM_field_eq_ok_iff] at h
      obtain ⟨fields, hfields, rfl⟩ := h
      exact .object descriptor hnew hget hshape hfields

/-- The identities that are met below one, depth first and in the order of the members, and that
have neither a descriptor nor a primitive. One that is being expanded is not looked at again. -/
def unknowns (registry : TypeRegistry) (expanding : List TypeId) (id : TypeId) : List TypeId :=
  if _hnew : id ∈ expanding then []
  else if registry.isAtomic id then []
  else match _hget : registry.get? id with
    | none => [id]
    | some descriptor =>
      descriptor.shape.links.flatMap fun (_, member) => registry.unknowns (id :: expanding) member
  termination_by registry.remaining (expanding.map (⟨·, "", []⟩))
  decreasing_by
    refine remaining_cons_lt registry _hget ?_
    simp only [List.find?_eq_none, List.forall_mem_map, decide_eq_true_eq]
    exact fun other hother heq => _hnew (heq ▸ hother)

theorem unknowns_eq (registry : TypeRegistry) (expanding : List TypeId) (id : TypeId) :
    registry.unknowns expanding id =
      if id ∈ expanding then []
      else match registry.primitive? id, registry.get? id with
        | some _, _ => []
        | none, none => [id]
        | none, some descriptor => descriptor.shape.links.flatMap fun (_, member) =>
            registry.unknowns (id :: expanding) member := by
  rw [unknowns, isAtomic]
  split
  · rfl
  · cases registry.primitive? id with
    | some name => rfl
    | none =>
      rw [Option.isSome_none, if_neg Bool.false_ne_true]
      split
      · rename_i hget
        rw [hget]
      · rename_i hget
        rw [hget]

/-- Nothing comes of a type if something below it is unknown, and the first such identity is named.
-/
theorem failure?_expand (registry : TypeRegistry) (ancestors : List Ancestor) (path : List String)
    (id : TypeId) : (registry.expand ancestors path id).failure? =
      (registry.unknowns (ancestors.map (·.id)) id).head?.map UnknownType.mk := by
  induction ancestors, path, id using expand_induction registry with
  | expanding ancestors path id ancestor hexpanding =>
    have hmem : id ∈ ancestors.map (·.id) := by
      by_contra hnew
      simp [find?_eq_none_iff.mpr hnew] at hexpanding
    rw [expand_eq, unknowns_eq, hexpanding, if_pos hmem]
    rfl
  | primitive ancestors path id name hnew hprimitive =>
    rw [expand_eq, unknowns_eq, hnew, if_neg (find?_eq_none_iff.mp hnew), hprimitive]
    rfl
  | unknown ancestors path id hnew hprimitive hget =>
    rw [expand_eq, unknowns_eq, hnew, if_neg (find?_eq_none_iff.mp hnew), hprimitive, hget]
    rfl
  | known ancestors path id descriptor hnew hprimitive hget ih =>
    rw [expand_eq, unknowns_eq, hnew, if_neg (find?_eq_none_iff.mp hnew), hprimitive, hget]
    cases hshape : descriptor.shape with
    | scalar name => simp [hshape, TypeShape.links]
    | enumeration literals => simp [hshape, TypeShape.links]
    | container kind element =>
      rw [hshape] at ih
      simpa [hshape, TypeShape.links] using ih
    | object members =>
      rw [hshape] at ih
      simp only [hshape, Except.failure?_map, List.head?_flatMap, List.map_findSome?]
      apply Except.failure?_mapM
      rintro ⟨label, member⟩ hmember
      rw [Except.failure?_map]
      exact ih label member hmember

def typeCount (registry : TypeRegistry) : Nat := (distinct (registry.types.map (·.id))).length

/-- The types that are being expanded are registered, and none of them comes twice. -/
structure Stacked (registry : TypeRegistry) (ancestors : List Ancestor) : Prop where
  nodup : (ancestors.map (·.id)).Nodup
  known : ∀ ancestor ∈ ancestors, ancestor.id ∈ registry.types.map (·.id)

theorem Stacked.nil (registry : TypeRegistry) : registry.Stacked [] := ⟨List.nodup_nil, nofun⟩

theorem Stacked.cons {descriptor : TypeDescriptor} (h : registry.Stacked ancestors)
    (hnew : id ∉ ancestors.map (·.id)) (hget : registry.get? id = some descriptor) :
    registry.Stacked (⟨id, descriptor.name, path⟩ :: ancestors) :=
  ⟨List.nodup_cons.mpr ⟨hnew, h.nodup⟩,
    List.forall_mem_cons.mpr ⟨mem_ids_of_get? hget, h.known⟩⟩

theorem Stacked.length_le (h : registry.Stacked ancestors) :
    ancestors.length ≤ registry.typeCount := by
  have hsubset : ancestors.map (·.id) ⊆ distinct (registry.types.map (·.id)) := by
    intro id hid
    obtain ⟨ancestor, hancestor, rfl⟩ := List.mem_map.mp hid
    exact mem_distinct.mpr (h.known ancestor hancestor)
  have hle := (List.subperm_of_subset h.nodup hsubset).length_le
  rwa [List.length_map] at hle

/-- Objects and containers below a stack take up the room that the stack leaves. -/
theorem nesting_add_length_le {node : TypeNode}
    (h : registry.expand ancestors path id = .ok node) (stacked : registry.Stacked ancestors) :
    node.nesting + ancestors.length ≤ registry.typeCount := by
  have hroom := stacked.length_le
  induction node using TypeNode.tree_induction generalizing ancestors path id with
  | primitive name => simpa [TypeNode.nesting] using hroom
  | enumeration name literals => simpa [TypeNode.nesting] using hroom
  | reference target labels => simpa [TypeNode.nesting] using hroom
  | container kind type ih =>
    cases expanded h with
    | container descriptor hnew hget _ hbelow =>
      have hstacked : registry.Stacked (⟨id, descriptor.name, path⟩ :: ancestors) :=
        stacked.cons hnew hget
      have hle := ih hbelow hstacked hstacked.length_le
      simp only [TypeNode.nesting, List.length_cons] at hle ⊢
      omega
  | object name fields ih =>
    cases expanded h with
    | object descriptor hnew hget _ hbelow =>
      have hstacked : registry.Stacked (⟨id, descriptor.name, path⟩ :: ancestors) :=
        stacked.cons hnew hget
      have hinner := hstacked.length_le
      have hle : ∀ field ∈ fields,
          field.2.nesting ≤ registry.typeCount - (ancestors.length + 1) := by
        intro field hfield
        obtain ⟨member, -, -, hmember⟩ := hbelow.exists_left hfield
        have hle := ih field hfield hmember hstacked hinner
        simp only [List.length_cons] at hle
        omega
      have hfields := TypeNode.nestingFields_le hle
      simp only [TypeNode.nesting, List.length_cons] at hinner ⊢
      omega

end TypeRegistry

end ApiManual
