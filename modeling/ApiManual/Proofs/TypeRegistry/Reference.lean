import ApiManual.Proofs.TypeRegistry.Stack

/-!
References and the nodes that they stand for. The path of a reference is written down while the
type that it names is still being expanded. In the finished tree, the same labels lead to the node
that has come of that type, since the labels of a position settle which identity is expanded there.
-/
namespace ApiManual.TypeRegistry

variable {registry : TypeRegistry} {ancestors : List Ancestor} {path labels : List String}
  {root id : TypeId} {node inner : TypeNode}

/-- No object lists a member name twice. -/
def DistinctMembers (registry : TypeRegistry) : Prop :=
  ∀ descriptor ∈ registry.types, (descriptor.shape.links.map (·.1)).Nodup

instance (registry : TypeRegistry) : Decidable registry.DistinctMembers :=
  inferInstanceAs (Decidable (∀ descriptor ∈ registry.types, _))

/-- The identity that one label leads to. -/
def member? (registry : TypeRegistry) (id : TypeId) (label : String) : Option TypeId :=
  registry.get? id >>= fun descriptor => descriptor.shape.links.lookup label

/-- The identity that the labels lead to from a root. -/
def identity? (registry : TypeRegistry) (root : TypeId) (labels : List String) : Option TypeId :=
  labels.foldlM registry.member? root

theorem DistinctMembers.member?_eq (distinct : registry.DistinctMembers)
    {descriptor : TypeDescriptor} {label : String} {member : TypeId}
    (hget : registry.get? id = some descriptor)
    (hlink : (label, member) ∈ descriptor.shape.links) :
    registry.member? id label = some member := by
  rw [member?, hget]
  exact List.lookup_eq_some_of_mem (distinct _ (List.mem_of_find?_eq_some hget)) hlink

theorem nodup_links_of_expand (distinct : registry.DistinctMembers)
    (h : registry.expand ancestors path id = .ok node) : (node.links.map (·.1)).Nodup := by
  cases expanded h with
  | object descriptor _ hget hshape below =>
    have hlabels := below.map_eq_map (f := (·.1)) (g := (·.1)) fun _ _ _ h => h.1.symm
    have hnodup := distinct _ (List.mem_of_find?_eq_some hget)
    rw [hshape] at hnodup
    exact hlabels ▸ hnodup
  | _ => simp [TypeNode.links]

theorem exists_link_of_expand {label : String} {child : TypeNode}
    (h : registry.expand ancestors path id = .ok node) (hlink : (label, child) ∈ node.links) :
    ∃ descriptor member, id ∉ ancestors.map (·.id) ∧ registry.get? id = some descriptor ∧
      (label, member) ∈ descriptor.shape.links ∧
      registry.expand (⟨id, descriptor.name, path⟩ :: ancestors) (path ++ [label]) member =
        .ok child := by
  cases expanded h with
  | reference => cases hlink
  | primitive => cases hlink
  | enumeration => cases hlink
  | container descriptor hnew hget hshape below =>
    obtain ⟨rfl, rfl⟩ : label = TypeNode.elementLabel ∧ child = _ := by
      simpa [TypeNode.links] using hlink
    exact ⟨descriptor, _, hnew, hget, by simp [hshape, TypeShape.links], below⟩
  | object descriptor hnew hget hshape below =>
    obtain ⟨member, hmember, rfl, hchild⟩ := below.exists_left hlink
    refine ⟨descriptor, member.2, hnew, hget, ?_, hchild⟩
    simpa [hshape, TypeShape.links] using hmember

theorem resolve?_of_leadsTo (distinct : registry.DistinctMembers)
    (h : registry.expand ancestors path id = .ok node) (leads : node.LeadsTo labels inner) :
    node.resolve? labels = some inner := by
  induction leads generalizing ancestors path id with
  | self => rfl
  | link first _ ih =>
    obtain ⟨_, _, -, -, -, hchild⟩ := exists_link_of_expand h first
    rw [TypeNode.resolve?, List.foldlM_cons, TypeNode.child?_eq_lookup,
      List.lookup_eq_some_of_mem (nodup_links_of_expand distinct h) first]
    exact ih hchild

/-- The types on the way from a root down to an identity, nearest first, and the labels of the way.
-/
inductive Trail (registry : TypeRegistry) (root : TypeId) :
    List Ancestor → List String → TypeId → Prop
  | start : Trail registry root [] [] root
  | down {ancestors : List Ancestor} {path : List String} {id member : TypeId}
      {descriptor : TypeDescriptor} {label : String} (above : Trail registry root ancestors path id)
      (new : id ∉ ancestors.map (·.id)) (get : registry.get? id = some descriptor)
      (link : (label, member) ∈ descriptor.shape.links) :
      Trail registry root (⟨id, descriptor.name, path⟩ :: ancestors) (path ++ [label]) member

namespace Trail

theorem nodup (trail : registry.Trail root ancestors path id) : (ancestors.map (·.id)).Nodup := by
  induction trail with
  | start => exact List.nodup_nil
  | down _ new _ _ ih => exact List.nodup_cons.mpr ⟨new, ih⟩

theorem identity? (trail : registry.Trail root ancestors path id)
    (distinct : registry.DistinctMembers) : registry.identity? root path = some id := by
  induction trail with
  | start => rfl
  | down _ _ get link ih =>
    rw [TypeRegistry.identity?] at ih
    rw [TypeRegistry.identity?, List.foldlM_append, ih]
    simpa using distinct.member?_eq get link

theorem of_mem (trail : registry.Trail root ancestors path id) {ancestor : Ancestor}
    (h : ancestor ∈ ancestors) : ancestor.path <+: path ∧ ancestor.path ≠ path ∧
      (∃ above, registry.Trail root above ancestor.path ancestor.id) ∧
      ∃ descriptor, registry.get? ancestor.id = some descriptor ∧
        descriptor.name = ancestor.name := by
  induction trail with
  | start => cases h
  | @down _ path _ _ descriptor label above _ get _ ih =>
    rcases List.mem_cons.mp h with rfl | h
    · exact ⟨List.prefix_append path [label], by simp, ⟨_, above⟩, descriptor, get, rfl⟩
    · obtain ⟨hinit, _, habove, hname⟩ := ih h
      have hlonger := hinit.trans (List.prefix_append path [label])
      refine ⟨hlonger, ?_, habove, hname⟩
      intro heq
      have hle := hinit.length_le
      rw [heq, List.length_append, List.length_singleton] at hle
      omega

theorem exists_ancestor (trail : registry.Trail root ancestors path id)
    (distinct : registry.DistinctMembers) {middle : List String} (hinit : middle <+: path)
    (hproper : middle ≠ path) :
    ∃ ancestor ∈ ancestors, ancestor.path = middle ∧
      registry.identity? root middle = some ancestor.id := by
  induction trail with
  | start => exact absurd (List.prefix_nil.mp hinit) hproper
  | @down _ path id _ descriptor _ above _ _ _ ih =>
    rcases List.prefix_concat_iff.mp hinit with heq | hshorter
    · exact absurd heq hproper
    · by_cases heq : middle = path
      · refine ⟨⟨id, descriptor.name, path⟩, List.mem_cons_self, heq.symm, ?_⟩
        exact heq ▸ above.identity? distinct
      · obtain ⟨ancestor, hancestor, hmiddle⟩ := ih hshorter heq
        exact ⟨ancestor, List.mem_cons_of_mem _ hancestor, hmiddle⟩

end Trail

/-- The way down to a node of a tree leads on from the way to the tree. -/
theorem exists_trail (trail : registry.Trail root ancestors path id)
    (h : registry.expand ancestors path id = .ok node) (leads : node.LeadsTo labels inner) :
    ∃ ancestors' id', registry.Trail root ancestors' (path ++ labels) id' ∧
      registry.expand ancestors' (path ++ labels) id' = .ok inner := by
  induction leads generalizing ancestors path id with
  | self => exact ⟨ancestors, id, by simpa using trail, by simpa using h⟩
  | @link _ _ _ label labels first _ ih =>
    obtain ⟨descriptor, member, hnew, hget, hlink, hchild⟩ := exists_link_of_expand h first
    have hrest := ih (trail.down hnew hget hlink) hchild
    rwa [List.append_assoc] at hrest

/-- The reference at the end of the labels stands for the type of a node that encloses it. That node
was expanded for the same identity as the reference, and none that lies between the two was. -/
structure StandsFor (registry : TypeRegistry) (root : TypeId) (tree : TypeNode)
    (labels : List String) (target : String) (path : List String) (id : TypeId)
    (ancestor : TypeNode) : Prop where
  identity : registry.identity? root labels = some id
  encloses : path <+: labels
  proper : path ≠ labels
  resolved : tree.resolve? path = some ancestor
  ancestor_identity : registry.identity? root path = some id
  ancestor_expanded : ∃ above, registry.Trail root above path id ∧ id ∉ above.map (·.id) ∧
    registry.expand above path id = .ok ancestor
  nearest : ∀ between, path <+: between → between <+: labels → between ≠ path →
    between ≠ labels → registry.identity? root between ≠ some id
  named : ∀ name fields, ancestor = .object name fields → name = target

/-- The types above a reference are the nodes that enclose it in the finished tree. -/
theorem build_reference (distinct : registry.DistinctMembers) {tree : TypeNode}
    (h : registry.build root = .ok tree) {target : String}
    (leads : tree.LeadsTo labels (.reference target path)) :
    ∃ id ancestor, registry.StandsFor root tree labels target path id ancestor := by
  rw [build_eq] at h
  obtain ⟨ancestors, id, htrail, hreference⟩ := exists_trail .start h leads
  rw [List.nil_append] at htrail hreference
  cases expanded hreference with
  | reference ancestor hnearest =>
    have hmem : ancestor ∈ ancestors := List.mem_of_find?_eq_some hnearest
    have hid : ancestor.id = id := by simpa using List.find?_some hnearest
    obtain ⟨hinit, hproper, ⟨_, habove⟩, descriptor, hget, hname⟩ := htrail.of_mem hmem
    have hidentity := habove.identity? distinct
    -- the way to the reference passes through a node with the ancestor's labels
    obtain ⟨rest, rfl⟩ := hinit
    obtain ⟨node, hnode, hrest⟩ := TypeNode.leadsTo_append.mp leads
    obtain ⟨above, id', htrail', hexpanded⟩ := exists_trail .start h hnode
    rw [List.nil_append] at htrail' hexpanded
    have hsame : id' = ancestor.id := by
      have hidentity' := htrail'.identity? distinct
      rw [hidentity] at hidentity'
      exact (Option.some.inj hidentity').symm
    subst hsame hid
    refine ⟨ancestor.id, node, htrail.identity? distinct, List.prefix_append _ _, hproper,
      resolve?_of_leadsTo distinct h hnode, hidentity, ⟨above, htrail', ?_, hexpanded⟩, ?_, ?_⟩
    · cases hrest with
      | self => simp at hproper
      | link first _ =>
        obtain ⟨_, _, hnew, -⟩ := exists_link_of_expand hexpanded first
        exact hnew
    · intro between hafter hbefore hne hne' hbetween
      obtain ⟨other, hother, rfl, hidentity'⟩ := htrail.exists_ancestor distinct hbefore hne'
      rw [hbetween] at hidentity'
      have hequal : other = ancestor :=
        List.inj_on_of_nodup_map htrail.nodup hother hmem (Option.some.inj hidentity').symm
      exact hne (hequal ▸ rfl)
    · rintro name fields rfl
      cases expanded hexpanded with
      | object descriptor' _ hget' _ _ =>
        rw [hget] at hget'
        exact Option.some.inj hget' ▸ hname

theorem build_reference_forest :
    ∃ id ancestor, forestRegistry.StandsFor "garden.Forest" forestTree ["all", "[]", "below"]
      "Nodes" ["all"] id ancestor := by
  have leads : forestTree.LeadsTo ["all", "[]", "below"] (.reference "Nodes" ["all"]) :=
    .link (List.mem_cons_of_mem _ List.mem_cons_self) (.link List.mem_cons_self
      (.link (List.mem_cons_of_mem _ (List.mem_cons_of_mem _ List.mem_cons_self)) (.self _)))
  exact build_reference (by decide) (by decide +kernel) leads

end ApiManual.TypeRegistry
