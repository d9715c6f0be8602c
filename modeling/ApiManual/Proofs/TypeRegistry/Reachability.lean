import ApiManual.Proofs.Relation
import ApiManual.Proofs.TypeRegistry.Recursion

/-!
The types as a graph. The expansion of a type turns back at the types that enclose it, and still
comes to everything unknown that the type leads to, since a way in the graph need not come twice to
where it starts.
-/
namespace ApiManual.TypeRegistry

variable {registry : TypeRegistry} {ancestors : List Ancestor} {path : List String}
  {root id other : TypeId}

/-- The types of the members or of the elements. An atomic type leads nowhere, whatever its
descriptor says. -/
def successors (registry : TypeRegistry) (id : TypeId) : List TypeId :=
  match registry.primitive? id, registry.get? id with
  | none, some descriptor => descriptor.shape.links.map (·.2)
  | _, _ => []

def Refers (registry : TypeRegistry) (id other : TypeId) : Prop := other ∈ registry.successors id

/-- The types that a type leads to, itself included. -/
def Reachable (registry : TypeRegistry) : TypeId → TypeId → Prop :=
  Relation.ReflTransGen registry.Refers

def OnCycle (registry : TypeRegistry) (id : TypeId) : Prop :=
  Relation.TransGen registry.Refers id id

/-- Nothing stands for the identity. -/
def IsUnknown (registry : TypeRegistry) (id : TypeId) : Prop :=
  registry.primitive? id = none ∧ registry.get? id = none

theorem refers_iff : registry.Refers id other ↔ registry.primitive? id = none ∧
    ∃ descriptor, registry.get? id = some descriptor ∧
      ∃ label, (label, other) ∈ descriptor.shape.links := by
  rw [Refers, successors]
  cases registry.primitive? id <;> cases registry.get? id <;> simp

theorem refers_of_link {descriptor : TypeDescriptor} {label : String}
    (hprimitive : registry.primitive? id = none) (hget : registry.get? id = some descriptor)
    (hlink : (label, other) ∈ descriptor.shape.links) : registry.Refers id other :=
  refers_iff.mpr ⟨hprimitive, descriptor, hget, label, hlink⟩

theorem Reachable.mem_of_closed (reachable : registry.Reachable id other) (ids : List TypeId)
    (closed : ∀ id ∈ ids, ∀ other ∈ registry.successors id, other ∈ ids) (hid : id ∈ ids) :
    other ∈ ids := by
  induction reachable with
  | refl => exact hid
  | tail _ last ih => exact closed _ ih _ last

theorem reachable_of_mem_unknowns {expanding : List TypeId}
    (h : other ∈ registry.unknowns expanding id) :
    registry.Reachable id other ∧ registry.IsUnknown other := by
  induction expanding, id using unknowns.induct registry with
  | case1 expanding id hexpanding =>
    rw [unknowns_eq, if_pos hexpanding] at h
    cases h
  | case2 expanding id hnew hatomic =>
    obtain ⟨name, hprimitive⟩ := Option.isSome_iff_exists.mp hatomic
    rw [unknowns_eq, if_neg hnew, hprimitive] at h
    cases h
  | case3 expanding id hnew hatomic hget =>
    have hprimitive : registry.primitive? id = none := by simpa [isAtomic] using hatomic
    rw [unknowns_eq, if_neg hnew, hprimitive, hget] at h
    obtain rfl := List.mem_singleton.mp h
    exact ⟨.refl, hprimitive, hget⟩
  | case4 expanding id hnew hatomic descriptor hget ih =>
    have hprimitive : registry.primitive? id = none := by simpa [isAtomic] using hatomic
    rw [unknowns_eq, if_neg hnew, hprimitive, hget] at h
    obtain ⟨⟨label, member⟩, hlink, hmember⟩ := List.mem_flatMap.mp h
    obtain ⟨hreachable, hunknown⟩ := ih member hmember
    exact ⟨.head (refers_of_link hprimitive hget hlink) hreachable, hunknown⟩

/-- What is met below a type is all that can be reached without the types that enclose it. -/
theorem mem_unknowns_of_way {expanding : List TypeId} (new : id ∉ expanding)
    (way : Relation.ReflTransGen (fun a b => registry.Refers a b ∧ b ∉ expanding) id other)
    (hunknown : registry.IsUnknown other) : other ∈ registry.unknowns expanding id := by
  induction expanding, id using unknowns.induct registry with
  | case1 expanding id hexpanding => exact absurd hexpanding new
  | case2 expanding id hnew hatomic =>
    -- nothing lies beyond an atomic type, and it is not unknown itself
    obtain ⟨name, hprimitive⟩ := Option.isSome_iff_exists.mp hatomic
    rcases way.cases_head with rfl | ⟨next, ⟨hrefers, -⟩, -⟩
    · rw [hunknown.1] at hprimitive
      cases hprimitive
    · rw [(refers_iff.mp hrefers).1] at hprimitive
      cases hprimitive
  | case3 expanding id hnew hatomic hget =>
    have hprimitive : registry.primitive? id = none := by simpa [isAtomic] using hatomic
    rw [unknowns_eq, if_neg hnew, hprimitive, hget, List.mem_singleton]
    rcases way.cases_head with rfl | ⟨next, ⟨hrefers, -⟩, -⟩
    · rfl
    · obtain ⟨-, descriptor, hdescriptor, -⟩ := refers_iff.mp hrefers
      rw [hget] at hdescriptor
      cases hdescriptor
  | case4 expanding id hnew hatomic descriptor hget ih =>
    have hprimitive : registry.primitive? id = none := by simpa [isAtomic] using hatomic
    have hne : other ≠ id := by
      rintro rfl
      rw [hunknown.2] at hget
      cases hget
    obtain ⟨next, ⟨hrefers, hnext⟩, hback, hrest⟩ := way.exists_departure hne
    obtain ⟨-, descriptor', hget', label, hlink⟩ := refers_iff.mp hrefers
    obtain rfl : descriptor = descriptor' := Option.some.inj (hget.symm.trans hget')
    rw [unknowns_eq, if_neg hnew, hprimitive, hget]
    refine List.mem_flatMap.mpr ⟨(label, next), hlink, ih next ?_ ?_⟩
    · simp [hback, hnext]
    · refine Relation.ReflTransGen.mono ?_ _ _ hrest
      rintro a b ⟨⟨hrefers, hb⟩, hback⟩
      exact ⟨hrefers, by simp [hback, hb]⟩

theorem mem_unknowns_iff : other ∈ registry.unknowns [] root ↔
    registry.Reachable root other ∧ registry.IsUnknown other := by
  refine ⟨reachable_of_mem_unknowns, fun ⟨hreachable, hunknown⟩ => ?_⟩
  refine mem_unknowns_of_way List.not_mem_nil ?_ hunknown
  exact Relation.ReflTransGen.mono (fun _ _ hrefers => ⟨hrefers, List.not_mem_nil⟩) _ _ hreachable

end ApiManual.TypeRegistry
