import ApiManual.Proofs.TypeRegistry.Reference
import ApiManual.Proofs.TypeRegistry.Use

/-!
What a build comes to, read off the graph of the types: it fails if something unknown can be
reached, and otherwise its tree has a reference if a cycle can be reached.
-/
namespace ApiManual.TypeRegistry

variable {registry : TypeRegistry} {ancestors : List Ancestor} {path : List String}
  {root id other : TypeId} {node tree : TypeNode}

theorem exists_refers_of_link {label : String} {child : TypeNode}
    (h : registry.expand ancestors path id = .ok node) (hlink : (label, child) ∈ node.links) :
    ∃ name member, registry.Refers id member ∧
      registry.expand (⟨id, name, path⟩ :: ancestors) (path ++ [label]) member = .ok child := by
  obtain ⟨descriptor, member, hnew, hget, hmember, hchild⟩ := exists_link_of_expand h hlink
  refine ⟨descriptor.name, member, refers_of_link ?_ hget hmember, hchild⟩
  by_contra hatomic
  obtain ⟨name, hprimitive⟩ := Option.ne_none_iff_exists'.mp hatomic
  rw [expand_eq, find?_eq_none_iff.mpr hnew, hprimitive] at h
  cases h
  cases hlink

/-- A reference below a type turns back to what encloses the type, or goes round a cycle. -/
theorem exists_of_containsReference (h : registry.expand ancestors path id = .ok node)
    (hreference : node.containsReference = true) : ∃ other, registry.Reachable id other ∧
      (other ∈ ancestors.map (·.id) ∨ registry.OnCycle other) := by
  induction node using TypeNode.link_induction generalizing ancestors path id with
  | step node ih =>
    rcases TypeNode.containsReference_iff.mp hreference with hself | ⟨link, hlink, hbelow⟩
    · cases expanded h with
      | reference ancestor hnearest =>
        have hid : ancestor.id = id := by simpa using List.find?_some hnearest
        exact ⟨id, .refl, .inl (hid ▸ List.mem_map_of_mem (List.mem_of_find?_eq_some hnearest))⟩
      | _ => cases hself
    · obtain ⟨name, member, hrefers, hchild⟩ := exists_refers_of_link h hlink
      obtain ⟨other, hreachable, hother⟩ := ih link hlink hchild hbelow
      -- what encloses the member is the type itself, which closes a cycle, or encloses the type too
      rcases hother with hencloses | hcycle
      · rcases List.mem_cons.mp hencloses with rfl | hencloses
        · exact ⟨other, .refl, .inr (.head' hrefers hreachable)⟩
        · exact ⟨other, .head hrefers hreachable, .inl hencloses⟩
      · exact ⟨other, .head hrefers hreachable, .inr hcycle⟩

theorem forall₂_links_of_expand {descriptor : TypeDescriptor} (hnew : id ∉ ancestors.map (·.id))
    (hprimitive : registry.primitive? id = none) (hget : registry.get? id = some descriptor)
    (h : registry.expand ancestors path id = .ok node) :
    List.Forall₂ (fun link child => child.1 = link.1 ∧
      registry.expand (⟨id, descriptor.name, path⟩ :: ancestors) (path ++ [link.1]) link.2 =
        .ok child.2) descriptor.shape.links node.links := by
  rw [expand_eq, find?_eq_none_iff.mpr hnew, hprimitive, hget] at h
  cases hshape : descriptor.shape with
  | scalar name =>
    simp only [hshape] at h
    cases h
    exact .nil
  | enumeration literals =>
    simp only [hshape] at h
    cases h
    exact .nil
  | container kind element =>
    simp only [hshape, Except.map_eq_ok_iff] at h
    obtain ⟨child, hchild, rfl⟩ := h
    exact .cons ⟨rfl, hchild⟩ .nil
  | object members =>
    simp only [hshape, Except.map_eq_ok_iff, mapM_field_eq_ok_iff] at h
    obtain ⟨fields, hfields, rfl⟩ := h
    exact hfields

/-- Within the types that enclose it, the identity comes to a tree without references. -/
def ComesFree (registry : TypeRegistry) (expanding : List TypeId) (id : TypeId) : Prop :=
  ∃ ancestors path node, ancestors.map (·.id) = expanding ∧
    registry.expand ancestors path id = .ok node ∧ node.containsReference = false

namespace ComesFree

variable {expanding : List TypeId} (free : registry.ComesFree expanding id)

include free

theorem not_mem : id ∉ expanding := by
  obtain ⟨ancestors, path, node, rfl, h, hfree⟩ := free
  intro hmem
  obtain ⟨ancestor, hancestor⟩ : ∃ ancestor, ancestors.find? (·.id = id) = some ancestor := by
    rw [← Option.ne_none_iff_exists', ne_eq, find?_eq_none_iff, not_not]
    exact hmem
  rw [expand_eq, hancestor] at h
  cases h
  exact Bool.eq_false_iff.mp hfree (TypeNode.containsReference_iff.mpr (.inl rfl))

theorem refers (hrefers : registry.Refers id other) :
    registry.ComesFree (id :: expanding) other := by
  have hnew := free.not_mem
  obtain ⟨ancestors, path, node, rfl, h, hfree⟩ := free
  obtain ⟨hprimitive, descriptor, hget, label, hlink⟩ := refers_iff.mp hrefers
  obtain ⟨child, hchild, -, hexpand⟩ :=
    (forall₂_links_of_expand hnew hprimitive hget h).exists_right hlink
  refine ⟨_, _, child.2, by simp, hexpand, Bool.eq_false_iff.mpr fun hreference => ?_⟩
  exact Bool.eq_false_iff.mp hfree
    (TypeNode.containsReference_iff.mpr (.inr ⟨child, hchild, hreference⟩))

theorem of_transGen (way : Relation.TransGen registry.Refers id other) :
    ∃ enclosing, id ∈ enclosing ∧ registry.ComesFree enclosing other := by
  induction way with
  | single hrefers => exact ⟨_, List.mem_cons_self, free.refers hrefers⟩
  | tail _ hrefers ih =>
    obtain ⟨enclosing, hid, hfree⟩ := ih
    exact ⟨_, List.mem_cons_of_mem _ hid, hfree.refers hrefers⟩

theorem not_onCycle (reachable : registry.Reachable id other) : ¬ registry.OnCycle other := by
  intro hcycle
  obtain ⟨enclosing, hfree⟩ : ∃ enclosing, registry.ComesFree enclosing other := by
    rcases Relation.reflTransGen_iff_eq_or_transGen.mp reachable with rfl | way
    · exact ⟨expanding, free⟩
    · obtain ⟨enclosing, -, hfree⟩ := free.of_transGen way
      exact ⟨enclosing, hfree⟩
  -- the second time round, the type is met within itself
  obtain ⟨enclosing', hmem, hfree'⟩ := hfree.of_transGen hcycle
  exact hfree'.not_mem hmem

end ComesFree

theorem exists_build_eq_error_iff : (∃ unknown, registry.build root = .error unknown) ↔
    ∃ id, registry.Reachable root id ∧ registry.IsUnknown id := by
  simp only [← mem_unknowns_iff, build_eq, ← Except.failure?_eq_some_iff, failure?_expand,
    List.map_nil]
  cases registry.unknowns [] root with
  | nil => simp
  | cons id rest => exact iff_of_true ⟨⟨id⟩, rfl⟩ ⟨id, List.mem_cons_self⟩

theorem of_build_eq_error {unknown : UnknownType} (h : registry.build root = .error unknown) :
    registry.Reachable root unknown.id ∧ registry.IsUnknown unknown.id := by
  rw [build_eq, ← Except.failure?_eq_some_iff, failure?_expand, Option.map_eq_some_iff] at h
  obtain ⟨id, hid, rfl⟩ := h
  exact mem_unknowns_iff.mp (List.mem_of_head? hid)

theorem containsReference_iff_of_build (h : registry.build root = .ok tree) :
    tree.containsReference = true ↔ ∃ id, registry.Reachable root id ∧ registry.OnCycle id := by
  rw [build_eq] at h
  constructor
  · intro hreference
    obtain ⟨id, hreachable, hid⟩ := exists_of_containsReference h hreference
    exact ⟨id, hreachable, hid.resolve_left List.not_mem_nil⟩
  · rintro ⟨id, hreachable, hcycle⟩
    by_contra hfree
    have hroot : registry.ComesFree [] root := ⟨[], [], tree, rfl, h, Bool.eq_false_iff.mpr hfree⟩
    exact hroot.not_onCycle hreachable hcycle

/-- Without cycles, nothing that encloses a type can be reached from it, and each use of the type
comes to the whole tree that is built of it. -/
theorem Opened.exists_whole {frames : List Frame} (opened : registry.Opened root id path frames)
    (h : registry.build root = .ok tree)
    (acyclic : ∀ id, registry.Reachable root id → ¬ registry.OnCycle id) :
    ∃ own, registry.build id = .ok own ∧ own.containsReference = false ∧
      registry.expand (frames.map Frame.self) path id = .ok own ∧ tree.LeadsTo path own := by
  obtain ⟨hid, hframes⟩ := opened.waiting.reachable
  obtain ⟨own, hown, hplace⟩ := opened.exists_own h fun frame hframe hback =>
    acyclic _ (hframes frame hframe).1 ((hframes frame hframe).2.trans_left hback)
  have hfree : own.containsReference = false := by
    rw [← Bool.not_eq_true, containsReference_iff_of_build hown]
    rintro ⟨other, hother, hcycle⟩
    exact acyclic other (hid.trans hother) hcycle
  rw [TypeNode.shift_eq_self path hfree] at hplace
  exact ⟨own, hown, hfree, hplace⟩

/-- A build fails exactly if something unknown can be reached from the root, and that is what it
names. Its tree has a reference exactly if a cycle can be reached; and if none can, each place of
the tree holds the whole tree of a type, and each use of a type comes to that tree. -/
theorem build_outcome (registry : TypeRegistry) (root : TypeId) :
    ((∃ unknown, registry.build root = .error unknown) ↔
      ∃ id, registry.Reachable root id ∧ registry.IsUnknown id) ∧
    (∀ unknown, registry.build root = .error unknown →
      registry.Reachable root unknown.id ∧ registry.IsUnknown unknown.id) ∧
    ∀ tree, registry.build root = .ok tree →
      (tree.containsReference = true ↔
        ∃ id, registry.Reachable root id ∧ registry.OnCycle id) ∧
      ((∀ id, registry.Reachable root id → ¬ registry.OnCycle id) →
        (∀ path node, tree.LeadsTo path node → ∃ id frames,
          registry.Opened root id path frames ∧ registry.build id = .ok node) ∧
        ∀ id path frames, registry.Opened root id path frames →
          ∃ own, registry.build id = .ok own ∧ own.containsReference = false ∧
            registry.ComesTo id path frames own ∧ tree.LeadsTo path own) := by
  refine ⟨exists_build_eq_error_iff, fun _ h => of_build_eq_error h, fun tree h =>
    ⟨containsReference_iff_of_build h, fun acyclic => ⟨fun path node leads => ?_, ?_⟩⟩⟩
  · obtain ⟨id, frames, opened, hnode⟩ := exists_opened h leads
    obtain ⟨own, hown, -, hexpand, -⟩ := opened.exists_whole h acyclic
    cases hnode.symm.trans hexpand
    exact ⟨id, frames, opened, hown⟩
  · intro id path frames opened
    obtain ⟨own, hown, hfree, hexpand, hleads⟩ := opened.exists_whole h acyclic
    exact ⟨own, hown, hfree, comesTo_of_expand hexpand, hleads⟩

/-- A bed has the same kind of spot at both ends, and nothing that contains itself. -/
def bedRegistry : TypeRegistry :=
  (({} : TypeRegistry).insertObject "garden.Bed" [("first", "garden.Spot"), ("last", "garden.Spot")]
    ).insertObject "garden.Spot" [("row", "lang.Number")] |>.markAtomic "lang.Number" "number"

def bedTree : TypeNode :=
  .object "Bed" [("first", .object "Spot" [("row", .primitive "number")]),
    ("last", .object "Spot" [("row", .primitive "number")])]

theorem build_outcome_garden :
    (∃ id, forestRegistry.Reachable "garden.Plan" id ∧ forestRegistry.IsUnknown id) ∧
    (∃ id, forestRegistry.Reachable "garden.Forest" id ∧ forestRegistry.OnCycle id) ∧
    (∀ id, bedRegistry.Reachable "garden.Bed" id → ¬ bedRegistry.OnCycle id) ∧
    ∃ own, bedRegistry.build "garden.Spot" = .ok own ∧ bedTree.LeadsTo ["last"] own := by
  have hplan : forestRegistry.build "garden.Plan" = .error ⟨"garden.Owner"⟩ := by decide +kernel
  have hforest : forestRegistry.build "garden.Forest" = .ok forestTree := by decide +kernel
  have hbed : bedRegistry.build "garden.Bed" = .ok bedTree := by decide +kernel
  have hreference : forestTree.containsReference = true := by
    rw [TypeNode.containsReference_eq_any]
    rfl
  have hfree : bedTree.containsReference = false := by
    rw [TypeNode.containsReference_eq_any]
    rfl
  obtain ⟨hcycle, huses⟩ := (build_outcome bedRegistry "garden.Bed").2.2 _ hbed
  have hacyclic : ∀ id, bedRegistry.Reachable "garden.Bed" id → ¬ bedRegistry.OnCycle id :=
    fun id hid hround => Bool.eq_false_iff.mp hfree (hcycle.mpr ⟨id, hid, hround⟩)
  obtain ⟨own, hown, -, -, hlast⟩ := (huses hacyclic).2 "garden.Spot" ["last"]
    [.object ⟨"garden.Bed", "Bed", []⟩ [("first", .object "Spot" [("row", .primitive "number")])]
      "last" []] ⟨5, rfl⟩
  exact ⟨(build_outcome forestRegistry "garden.Plan").1.mp ⟨_, hplan⟩,
    ((build_outcome forestRegistry "garden.Forest").2.2 _ hforest).1.mp hreference, hacyclic,
    own, hown, hlast⟩

end ApiManual.TypeRegistry
