import ApiManual.Proofs.TypeNode.References
import ApiManual.Proofs.TypeRegistry.Reachability
import ApiManual.Proofs.TypeRegistry.Stack

/-!
The uses of a type. Each identity that is opened gets a place in the finished tree, at the end of
the labels that it was opened with. Where nothing that it leads to encloses that place, the tree
there is the one that it has on its own, at the end of those labels.
-/
namespace ApiManual.TypeRegistry

variable {registry : TypeRegistry} {root id : TypeId} {path : List String} {frames : List Frame}
  {node tree : TypeNode}

def expandMembers (registry : TypeRegistry) (ancestors : List Ancestor) (path : List String)
    (members : List (String × TypeId)) : Except UnknownType (List (String × TypeNode)) :=
  members.mapM fun member =>
    (member.1, ·) <$> registry.expand ancestors (path ++ [member.1]) member.2

theorem expandMembers_cons (registry : TypeRegistry) (ancestors : List Ancestor)
    (path : List String) (label : String) (member : TypeId) (rest : List (String × TypeId)) :
    registry.expandMembers ancestors path ((label, member) :: rest) = (do
      let node ← registry.expand ancestors (path ++ [label]) member
      ((label, node) :: ·) <$> registry.expandMembers ancestors path rest) := by
  rw [expandMembers, List.mapM_cons, ← expandMembers]
  dsimp only
  cases registry.expand ancestors (path ++ [label]) member with
  | error unknown => rfl
  | ok node => cases registry.expandMembers ancestors path rest <;> rfl

def Ancestor.shift (labels : List String) (ancestor : Ancestor) : Ancestor :=
  { ancestor with path := labels ++ ancestor.path }

theorem find?_shift (labels : List String) (ancestors : List Ancestor) (id : TypeId) :
    (ancestors.map (Ancestor.shift labels)).find? (·.id = id) =
      (ancestors.find? (·.id = id)).map (Ancestor.shift labels) := List.find?_map

theorem find?_outer {outer : List Ancestor}
    (apart : ∀ ancestor ∈ outer, ¬ registry.Reachable id ancestor.id) :
    outer.find? (·.id = id) = none := by
  rw [find?_eq_none_iff]
  intro hmem
  obtain ⟨ancestor, hancestor, rfl⟩ := List.mem_map.mp hmem
  exact apart ancestor hancestor .refl

/-- Whatever encloses a type without being reached from it is not met below the type, and leaves no
trace in the tree but the labels that the type stands at. -/
theorem expand_append (registry : TypeRegistry) (outer ancestors : List Ancestor)
    (labels path : List String) (id : TypeId)
    (apart : ∀ ancestor ∈ outer, ¬ registry.Reachable id ancestor.id) :
    registry.expand (ancestors.map (Ancestor.shift labels) ++ outer) (labels ++ path) id =
      TypeNode.shift labels <$> registry.expand ancestors path id := by
  induction ancestors, path, id using expand_induction registry with
  | expanding ancestors path id ancestor hexpanding =>
    rw [expand_eq, List.find?_append, find?_shift, expand_eq, hexpanding]
    rfl
  | primitive ancestors path id name hnew hprimitive =>
    rw [expand_eq, List.find?_append, find?_shift, find?_outer apart, expand_eq, hnew, hprimitive]
    rfl
  | unknown ancestors path id hnew hprimitive hget =>
    rw [expand_eq, List.find?_append, find?_shift, find?_outer apart, expand_eq, hnew, hprimitive,
      hget]
    rfl
  | known ancestors path id descriptor hnew hprimitive hget ih =>
    have hlinks : ∀ label member, (label, member) ∈ descriptor.shape.links →
        registry.expand (⟨id, descriptor.name, labels ++ path⟩ ::
            (ancestors.map (Ancestor.shift labels) ++ outer)) (labels ++ path ++ [label]) member =
          TypeNode.shift labels <$> registry.expand (⟨id, descriptor.name, path⟩ :: ancestors)
            (path ++ [label]) member := by
      intro label member hlink
      -- what a member leads to, the type leads to as well
      rw [List.append_assoc]
      refine ih label member hlink fun ancestor hancestor hreachable => ?_
      exact apart ancestor hancestor (.head (refers_of_link hprimitive hget hlink) hreachable)
    rw [expand_eq, List.find?_append, find?_shift, find?_outer apart, expand_eq, hnew, hprimitive,
      hget]
    dsimp only [Option.map_none, Option.none_or]
    cases hshape : descriptor.shape with
    | scalar name => rfl
    | enumeration literals => rfl
    | container kind element =>
      dsimp only
      rw [hlinks TypeNode.elementLabel element (by simp [hshape, TypeShape.links])]
      cases registry.expand (⟨id, descriptor.name, path⟩ :: ancestors)
        (path ++ [TypeNode.elementLabel]) element <;> rfl
    | object members =>
      have hfields : registry.expandMembers (⟨id, descriptor.name, labels ++ path⟩ ::
            (ancestors.map (Ancestor.shift labels) ++ outer)) (labels ++ path) members =
          TypeNode.shiftFields labels <$>
            registry.expandMembers (⟨id, descriptor.name, path⟩ :: ancestors) path members := by
        rw [funext (TypeNode.shiftFields_eq_map labels)]
        refine Except.mapM_eq_map_mapM ?_
        rintro ⟨label, member⟩ hmember
        dsimp only
        rw [hlinks label member (by simpa [hshape, TypeShape.links] using hmember)]
        cases registry.expand (⟨id, descriptor.name, path⟩ :: ancestors) (path ++ [label])
          member <;> rfl
      change TypeNode.object _ <$> registry.expandMembers _ (labels ++ path) members =
        TypeNode.shift labels <$> TypeNode.object _ <$>
          registry.expandMembers (⟨id, descriptor.name, path⟩ :: ancestors) path members
      rw [hfields]
      cases registry.expandMembers (⟨id, descriptor.name, path⟩ :: ancestors) path members <;> rfl

/-- What the machine and the recursion do with an identity. It comes to a node or an error at once,
or else what it refers to is opened within it. -/
inductive Entered (registry : TypeRegistry) (id : TypeId) (path : List String)
    (frames : List Frame) : Progress → Except UnknownType TypeNode → Prop
  | closed (node : TypeNode) (leaf : node.links = []) :
      Entered registry id path frames (.closing node frames) (.ok node)
  | unknown : Entered registry id path frames (.finished (.error ⟨id⟩)) (.error ⟨id⟩)
  | container (name : String) (kind : ContainerKind) (element : TypeId)
      (refers : registry.Refers id element) :
      Entered registry id path frames
        (.opening element (path ++ [TypeNode.elementLabel])
          (.container ⟨id, name, path⟩ kind :: frames))
        (TypeNode.container kind <$> registry.expand (⟨id, name, path⟩ :: frames.map Frame.self)
          (path ++ [TypeNode.elementLabel]) element)
  | object (name : String) (members : List (String × TypeId))
      (refers : ∀ member ∈ members, registry.Refers id member.2) :
      Entered registry id path frames (nextMember ⟨id, name, path⟩ [] frames members)
        (TypeNode.object name <$>
          registry.expandMembers (⟨id, name, path⟩ :: frames.map Frame.self) path members)

theorem entered (registry : TypeRegistry) (id : TypeId) (path : List String)
    (frames : List Frame) : registry.Entered id path frames
      (registry.advance (.opening id path frames))
      (registry.expand (frames.map Frame.self) path id) := by
  rw [advance.eq_def, expand_eq]
  dsimp only
  cases (frames.map Frame.self).find? (·.id = id) with
  | some ancestor => exact .closed _ rfl
  | none =>
    cases hprimitive : registry.primitive? id with
    | some name => exact .closed _ rfl
    | none =>
      cases hget : registry.get? id with
      | none => exact .unknown
      | some descriptor =>
        have hrefers : ∀ link ∈ descriptor.shape.links, registry.Refers id link.2 :=
          fun link hlink => refers_of_link hprimitive hget hlink
        dsimp only
        cases hshape : descriptor.shape with
        | scalar name => exact .closed _ rfl
        | enumeration literals => exact .closed _ rfl
        | container kind element =>
          rw [hshape] at hrefers
          exact .container _ kind element (hrefers _ (List.mem_singleton_self _))
        | object members =>
          rw [hshape] at hrefers
          exact .object _ members hrefers

/-- The label of the node that a frame waits for. -/
def Frame.label : Frame → String
  | object _ _ label _ => label
  | container _ _ => TypeNode.elementLabel

/-- The members that come after it. -/
def Frame.members : Frame → List (String × TypeId)
  | object _ _ _ members => members
  | container _ _ => []

def Frame.fill (registry : TypeRegistry) (outer : List Ancestor) :
    Frame → TypeNode → Except UnknownType TypeNode
  | object self fields label members, node =>
    (fun later => .object self.name (fields ++ (label, node) :: later)) <$>
      registry.expandMembers (self :: outer) self.path members
  | container _ kind, node => .ok (.container kind node)

/-- The tree that comes of the open nodes with the one that the innermost of them waits for. -/
def close (registry : TypeRegistry) : List Frame → TypeNode → Except UnknownType TypeNode
  | [], node => .ok node
  | frame :: frames, node =>
    frame.fill registry (frames.map Frame.self) node >>= registry.close frames

/-- What comes of the whole, as far as it is known from here. -/
def Progress.result (registry : TypeRegistry) : Progress → Except UnknownType TypeNode
  | opening id path frames =>
    registry.expand (frames.map Frame.self) path id >>= registry.close frames
  | closing node frames => registry.close frames node
  | finished outcome => outcome

theorem result_nextMember (self : Ancestor) (frames : List Frame)
    (members : List (String × TypeId)) (fields : List (String × TypeNode)) :
    (nextMember self fields frames members).result registry = (do
      let later ← registry.expandMembers (self :: frames.map Frame.self) self.path members
      registry.close frames (.object self.name (fields ++ later))) := by
  cases members with
  | nil =>
    change _ = registry.close frames (.object self.name (fields ++ []))
    rw [List.append_nil]
    rfl
  | cons member rest =>
    rw [expandMembers_cons, nextMember, Progress.result, List.map_cons, Frame.self]
    cases registry.expand (self :: frames.map Frame.self) (self.path ++ [member.1]) member.2 with
    | error unknown => rfl
    | ok node =>
      change Frame.fill registry (frames.map Frame.self) (.object self fields member.1 rest) node
        >>= registry.close frames = _
      rw [Frame.fill]
      cases registry.expandMembers (self :: frames.map Frame.self) self.path rest <;> rfl

theorem result_advance (progress : Progress) :
    (registry.advance progress).result registry = progress.result registry := by
  cases progress with
  | finished outcome => rfl
  | closing node frames =>
    match frames with
    | [] => rfl
    | .container self kind :: frames => rfl
    | .object self fields label members :: frames =>
      change (nextMember self (fields ++ [(label, node)]) frames members).result registry =
        Frame.fill registry (frames.map Frame.self) (.object self fields label members) node >>=
          registry.close frames
      rw [result_nextMember, Frame.fill]
      cases registry.expandMembers (self :: frames.map Frame.self) self.path members with
      | error unknown => rfl
      | ok later =>
        change registry.close frames (.object self.name (fields ++ [(label, node)] ++ later)) = _
        rw [List.append_assoc]
        rfl
  | opening id path frames =>
    have hentered := entered registry id path frames
    rw [Progress.result]
    generalize registry.advance (.opening id path frames) = next at hentered ⊢
    generalize registry.expand (frames.map Frame.self) path id = tree at hentered ⊢
    cases hentered with
    | closed node _ => rfl
    | unknown => rfl
    | container name kind element _ =>
      change registry.expand (⟨id, name, path⟩ :: frames.map Frame.self)
        (path ++ [TypeNode.elementLabel]) element >>= _ = _
      cases registry.expand (⟨id, name, path⟩ :: frames.map Frame.self)
        (path ++ [TypeNode.elementLabel]) element <;> rfl
    | object name members _ =>
      rw [result_nextMember]
      dsimp only
      cases registry.expandMembers (⟨id, name, path⟩ :: frames.map Frame.self) path members <;> rfl

theorem result_iterate (registry : TypeRegistry) (steps : Nat) (progress : Progress) :
    (registry.advance^[steps] progress).result registry = progress.result registry := by
  induction steps generalizing progress with
  | zero => rfl
  | succ steps ih => rw [Function.iterate_succ_apply, ih, result_advance]

/-- The open nodes lie one inside the other, on the way down from the root to what the innermost of
them waits for, which stands at the end of the labels. -/
inductive Waiting (registry : TypeRegistry) (root : TypeId) :
    List Frame → List String → TypeId → Prop
  | outermost : Waiting registry root [] [] root
  | inner (frame : Frame) {frames : List Frame} {id : TypeId}
      (outer : Waiting registry root frames frame.self.path frame.self.id)
      (refers : registry.Refers frame.self.id id)
      (later : ∀ member ∈ frame.members, registry.Refers frame.self.id member.2) :
      Waiting registry root (frame :: frames) (frame.self.path ++ [frame.label]) id

def Progress.Waits (registry : TypeRegistry) (root : TypeId) : Progress → Prop
  | opening id path frames => registry.Waiting root frames path id
  | closing _ frames => ∃ path id, registry.Waiting root frames path id
  | finished _ => True

theorem waits_nextMember (self : Ancestor) {members : List (String × TypeId)}
    (outer : registry.Waiting root frames self.path self.id)
    (refers : ∀ member ∈ members, registry.Refers self.id member.2)
    (fields : List (String × TypeNode)) :
    (nextMember self fields frames members).Waits registry root := by
  cases members with
  | nil => exact ⟨_, _, outer⟩
  | cons member rest =>
    obtain ⟨hmember, hrest⟩ := List.forall_mem_cons.mp refers
    exact Waiting.inner (.object self fields member.1 rest) outer hmember hrest

theorem waits_advance {progress : Progress} (waits : progress.Waits registry root) :
    (registry.advance progress).Waits registry root := by
  cases progress with
  | finished outcome => trivial
  | closing node frames =>
    obtain ⟨path, id, waiting⟩ := waits
    cases waiting with
    | outermost => trivial
    | @inner frame frames id outer refers later =>
      cases frame with
      | container self kind => exact ⟨_, _, outer⟩
      | object self fields label members => exact waits_nextMember self outer later _
  | opening id path frames =>
    have hentered := entered registry id path frames
    generalize registry.advance (.opening id path frames) = next at hentered ⊢
    generalize registry.expand (frames.map Frame.self) path id = tree at hentered
    cases hentered with
    | closed node _ => exact ⟨path, id, waits⟩
    | unknown => trivial
    | container name kind element refers =>
      exact Waiting.inner (.container ⟨id, name, path⟩ kind) waits refers nofun
    | object name members refers => exact waits_nextMember ⟨id, name, path⟩ waits refers []

theorem waits_iterate (registry : TypeRegistry) (root : TypeId) (steps : Nat) :
    (registry.advance^[steps] (.opening root [] [])).Waits registry root := by
  induction steps with
  | zero => exact Waiting.outermost
  | succ steps ih =>
    rw [Function.iterate_succ_apply']
    exact waits_advance ih

namespace Waiting

theorem leadsTo (waiting : registry.Waiting root frames path id)
    (h : registry.close frames node = .ok tree) : tree.LeadsTo path node := by
  induction waiting generalizing node with
  | outermost =>
    cases h
    exact .self _
  | @inner frame frames id _ _ _ ih =>
    obtain ⟨outer, houter, hrest⟩ := Except.bind_eq_ok_iff.mp h
    have hlink : (frame.label, node) ∈ outer.links := by
      cases frame with
      | container self kind =>
        cases houter
        exact List.mem_singleton_self _
      | object self fields label members =>
        obtain ⟨later, -, rfl⟩ := Except.map_eq_ok_iff.mp houter
        exact List.mem_append_right _ List.mem_cons_self
    exact TypeNode.leadsTo_append.mpr ⟨outer, ih hrest, .link hlink (.self node)⟩

theorem reachable (waiting : registry.Waiting root frames path id) :
    registry.Reachable root id ∧ ∀ frame ∈ frames, registry.Reachable root frame.self.id ∧
      Relation.TransGen registry.Refers frame.self.id id := by
  induction waiting with
  | outermost => exact ⟨.refl, nofun⟩
  | inner _ _ refers _ ih =>
    obtain ⟨hroot, hframes⟩ := ih
    refine ⟨hroot.tail refers, List.forall_mem_cons.mpr ⟨⟨hroot, .single refers⟩, ?_⟩⟩
    exact fun frame hframe => ⟨(hframes frame hframe).1, (hframes frame hframe).2.tail refers⟩

end Waiting

/-- Of the members of an object, each one is opened once those before it are closed. -/
theorem exists_opening_member (self : Ancestor) (frames : List Frame)
    (fields : List (String × TypeNode)) {members : List (String × TypeId)}
    {later : List (String × TypeNode)}
    (h : registry.expandMembers (self :: frames.map Frame.self) self.path members = .ok later)
    {label : String} {child : TypeNode} (hmem : (label, child) ∈ later) :
    ∃ steps member frames', registry.advance^[steps] (nextMember self fields frames members) =
        .opening member (self.path ++ [label]) frames' ∧
      registry.expand (frames'.map Frame.self) (self.path ++ [label]) member = .ok child := by
  induction members generalizing fields later with
  | nil =>
    cases h
    cases hmem
  | cons member rest ih =>
    rw [expandMembers_cons] at h
    obtain ⟨node, hnode, h⟩ := Except.bind_eq_ok_iff.mp h
    obtain ⟨others, hothers, rfl⟩ := Except.map_eq_ok_iff.mp h
    rcases List.mem_cons.mp hmem with heq | hmem
    · obtain ⟨rfl, rfl⟩ := Prod.mk.inj heq
      exact ⟨0, member.2, _, rfl, hnode⟩
    · obtain ⟨steps, other, frames', hsteps, hchild⟩ :=
        ih (fields ++ [(member.1, node)]) hothers hmem
      obtain ⟨first, -, hfirst⟩ := reaches_settled registry _ (self.path ++ [member.1]) member.2
        (.object self fields member.1 rest :: frames) rfl
      refine ⟨steps + 1 + first, other, frames', ?_, hchild⟩
      rw [Function.iterate_add_apply, nextMember, hfirst, List.map_cons, Frame.self, hnode,
        Function.iterate_succ_apply]
      exact hsteps

/-- While the root is built, the identity is opened at the end of the labels, within the frames. -/
def Opened (registry : TypeRegistry) (root id : TypeId) (path : List String)
    (frames : List Frame) : Prop :=
  ∃ steps, registry.advance^[steps] (.opening root [] []) = .opening id path frames

/-- From where the identity is opened, the node comes of it. -/
def ComesTo (registry : TypeRegistry) (id : TypeId) (path : List String) (frames : List Frame)
    (node : TypeNode) : Prop :=
  ∃ steps, registry.advance^[steps] (.opening id path frames) = .closing node frames

theorem comesTo_of_expand (h : registry.expand (frames.map Frame.self) path id = .ok node) :
    registry.ComesTo id path frames node := by
  obtain ⟨steps, -, hsteps⟩ := reaches_settled registry _ path id frames rfl
  rw [h] at hsteps
  exact ⟨steps, hsteps⟩

namespace Opened

variable (opened : registry.Opened root id path frames)

include opened

theorem waiting : registry.Waiting root frames path id := by
  obtain ⟨steps, hsteps⟩ := opened
  have hwaits := waits_iterate registry root steps
  rwa [hsteps] at hwaits

theorem exists_expand (h : registry.build root = .ok tree) :
    ∃ node, registry.expand (frames.map Frame.self) path id = .ok node ∧
      tree.LeadsTo path node := by
  have waiting := opened.waiting
  obtain ⟨steps, hsteps⟩ := opened
  have hresult := result_iterate registry steps (.opening root [] [])
  have hstart : Progress.result registry (.opening root [] []) = .ok tree :=
    Except.bind_eq_ok_iff.mpr ⟨tree, build_eq registry root ▸ h, rfl⟩
  rw [hsteps, hstart] at hresult
  obtain ⟨node, hnode, hclose⟩ := Except.bind_eq_ok_iff.mp hresult
  exact ⟨node, hnode, waiting.leadsTo hclose⟩

theorem exists_opened_of_link {label : String} {child : TypeNode}
    (h : registry.expand (frames.map Frame.self) path id = .ok node)
    (hlink : (label, child) ∈ node.links) :
    ∃ member frames', registry.Opened root member (path ++ [label]) frames' ∧
      registry.expand (frames'.map Frame.self) (path ++ [label]) member = .ok child := by
  obtain ⟨steps, hsteps⟩ := opened
  have hopened : ∀ more, registry.advance^[more] (registry.advance (.opening id path frames)) =
      registry.advance^[more + 1 + steps] (.opening root [] []) := by
    intro more
    rw [Function.iterate_add_apply, hsteps, Function.iterate_succ_apply]
  have hentered := entered registry id path frames
  rw [h] at hentered
  generalize registry.advance (.opening id path frames) = next at hentered hopened
  generalize htree : (Except.ok node : Except UnknownType TypeNode) = tree at hentered
  cases hentered with
  | closed leaf hleaf =>
    cases htree
    rw [hleaf] at hlink
    cases hlink
  | unknown => cases htree
  | container name kind element _ =>
    obtain ⟨below, hbelow, rfl⟩ := Except.map_eq_ok_iff.mp htree.symm
    obtain ⟨rfl, rfl⟩ := Prod.mk.inj (List.mem_singleton.mp hlink)
    exact ⟨element, _, ⟨_, (hopened 0).symm⟩, hbelow⟩
  | object name members _ =>
    obtain ⟨fields, hfields, rfl⟩ := Except.map_eq_ok_iff.mp htree.symm
    obtain ⟨more, member, frames', hmore, hchild⟩ :=
      exists_opening_member ⟨id, name, path⟩ frames [] hfields hlink
    exact ⟨member, frames', ⟨_, (hopened more).symm.trans hmore⟩, hchild⟩

theorem exists_opened_of_leadsTo {labels : List String} {inner : TypeNode}
    (h : registry.expand (frames.map Frame.self) path id = .ok node)
    (leads : node.LeadsTo labels inner) :
    ∃ id' frames', registry.Opened root id' (path ++ labels) frames' ∧
      registry.expand (frames'.map Frame.self) (path ++ labels) id' = .ok inner := by
  induction leads generalizing id path frames with
  | self node => exact ⟨id, frames, by simpa using opened, by simpa using h⟩
  | link first _ ih =>
    obtain ⟨member, frames', hopened, hchild⟩ := opened.exists_opened_of_link h first
    simpa using ih hopened hchild

/-- An identity that leads to nothing of what encloses it comes to the tree that is built of it
alone, at the end of the labels of its place. -/
theorem exists_own (h : registry.build root = .ok tree)
    (apart : ∀ frame ∈ frames, ¬ registry.Reachable id frame.self.id) :
    ∃ own, registry.build id = .ok own ∧
      registry.expand (frames.map Frame.self) path id = .ok (own.shift path) ∧
      tree.LeadsTo path (own.shift path) := by
  obtain ⟨node, hnode, hleads⟩ := opened.exists_expand h
  have hshift := expand_append registry (frames.map Frame.self) [] path [] id (by simpa using apart)
  rw [List.map_nil, List.nil_append, List.append_nil, hnode] at hshift
  obtain ⟨own, hown, rfl⟩ := Except.map_eq_ok_iff.mp hshift.symm
  exact ⟨own, build_eq registry id ▸ hown, hnode, hleads⟩

end Opened

theorem exists_opened (h : registry.build root = .ok tree) (leads : tree.LeadsTo path node) :
    ∃ id frames, registry.Opened root id path frames ∧
      registry.expand (frames.map Frame.self) path id = .ok node := by
  have hstart : registry.Opened root root [] [] := ⟨0, rfl⟩
  rw [build_eq] at h
  exact hstart.exists_opened_of_leadsTo h leads

/-- The uses of a type come to one and the same tree, each at the end of the labels of its place,
as long as the type leads to nothing of what encloses them: it is the tree that is built of the type
alone. -/
theorem build_use (registry : TypeRegistry) (root : TypeId) (h : registry.build root = .ok tree) :
    (∀ path node, tree.LeadsTo path node → ∃ id frames, registry.Opened root id path frames ∧
      registry.ComesTo id path frames node) ∧
    ∀ id, ∃ own, ∀ path frames, registry.Opened root id path frames →
      (∀ frame ∈ frames, ¬ registry.Reachable id frame.self.id) →
        registry.build id = .ok own ∧ registry.ComesTo id path frames (own.shift path) ∧
          tree.LeadsTo path (own.shift path) := by
  constructor
  · intro path node leads
    obtain ⟨id, frames, opened, hnode⟩ := exists_opened h leads
    exact ⟨id, frames, opened, comesTo_of_expand hnode⟩
  · intro id
    cases hbuild : registry.build id with
    | error unknown =>
      refine ⟨default, fun path frames opened apart => ?_⟩
      obtain ⟨own, hown, -⟩ := opened.exists_own h apart
      cases hbuild.symm.trans hown
    | ok own =>
      refine ⟨own, fun path frames opened apart => ?_⟩
      obtain ⟨own', hown, hnode, hleads⟩ := opened.exists_own h apart
      cases hbuild.symm.trans hown
      exact ⟨rfl, comesTo_of_expand hnode, hleads⟩

/-- A walk takes the same type twice. -/
def walkRegistry : TypeRegistry :=
  forestRegistry.insertObject "garden.Walk" [("start", "garden.Node"), ("end", "garden.Node")]

def nodeTree : TypeNode :=
  .object "Node" [("name", .primitive "string"), ("next", .reference "Node" []),
    ("below", .container .list (.reference "Node" []))]

def walkTree : TypeNode :=
  .object "Walk" [("start", nodeTree.shift ["start"]), ("end", nodeTree.shift ["end"])]

theorem build_use_walk : ∃ own, walkRegistry.build "garden.Node" = .ok own ∧
    walkTree.LeadsTo ["start"] (own.shift ["start"]) ∧
    walkTree.LeadsTo ["end"] (own.shift ["end"]) := by
  have htree : walkRegistry.build "garden.Walk" = .ok walkTree := by decide +kernel
  obtain ⟨own, huse⟩ := (build_use walkRegistry "garden.Walk" htree).2 "garden.Node"
  -- a node leads to nodes, lists of them and names, and so not back to a walk
  have hapart : ¬ walkRegistry.Reachable "garden.Node" "garden.Walk" := fun h => absurd
    (h.mem_of_closed ["garden.Node", "garden.Nodes", "lang.Name"] (by decide) (by decide))
    (by decide)
  obtain ⟨hbuild, -, hstart⟩ := huse ["start"]
    [.object ⟨"garden.Walk", "Walk", []⟩ [] "start" [("end", "garden.Node")]] ⟨1, rfl⟩
    (by simpa [Frame.self] using hapart)
  obtain ⟨-, -, hend⟩ := huse ["end"]
    [.object ⟨"garden.Walk", "Walk", []⟩ [("start", nodeTree.shift ["start"])] "end" []] ⟨11, rfl⟩
    (by simpa [Frame.self] using hapart)
  exact ⟨own, hbuild, hstart, hend⟩

end ApiManual.TypeRegistry
