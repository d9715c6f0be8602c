import ApiManual.TypeRegistry

/-!
The tree of a type. A type that is met while it is being expanded becomes a reference to the nearest
ancestor that stands for it; one that is used in two unrelated places is expanded twice. `expand`
says so by recursion, and `build` does it with a stack of its own.
-/
namespace ApiManual

structure UnknownType where
  id : TypeId
  deriving DecidableEq, Repr

namespace TypeRegistry

structure Ancestor where
  id : TypeId
  name : String
  path : List String
  deriving DecidableEq, Repr

/-- How many registered types are not being expanded. -/
def remaining (registry : TypeRegistry) (ancestors : List Ancestor) : Nat :=
  (registry.types.filter fun d => !ancestors.any (·.id = d.id)).length

theorem remaining_cons_lt (registry : TypeRegistry) {ancestors : List Ancestor} {self : Ancestor}
    {descriptor : TypeDescriptor} (hget : registry.get? self.id = some descriptor)
    (hnew : ancestors.find? (·.id = self.id) = none) :
    registry.remaining (self :: ancestors) < registry.remaining ancestors := by
  have hid : descriptor.id = self.id := by simpa using List.find?_some hget
  have hmem : descriptor ∈ registry.types := List.mem_of_find?_eq_some hget
  -- of the types that are not being expanded, that of `self` alone is expanded now
  have hothers : registry.types.filter (fun d => !(self :: ancestors).any (·.id = d.id)) =
      (registry.types.filter fun d => !ancestors.any (·.id = d.id)).filter (self.id ≠ ·.id) := by
    rw [List.filter_filter]
    apply List.filter_congr
    simp
  rw [remaining, remaining, hothers, List.length_filter_lt_length_iff_exists]
  refine ⟨descriptor, List.mem_filter.mpr ⟨hmem, ?_⟩, by simp [hid]⟩
  simpa [hid] using hnew

/-- The tree of a type at the end of a path below its ancestors, nearest first. -/
def expand (registry : TypeRegistry) (ancestors : List Ancestor) (path : List String)
    (id : TypeId) : Except UnknownType TypeNode :=
  match _hnew : ancestors.find? (·.id = id) with
  | some ancestor => .ok (.reference ancestor.name ancestor.path)
  | none =>
    match registry.primitive? id with
    | some name => .ok (.primitive name)
    | none =>
      match _hget : registry.get? id with
      | none => .error ⟨id⟩
      | some descriptor =>
        match descriptor.shape with
        | .scalar name => .ok (.primitive name)
        | .enumeration literals => .ok (.enumeration descriptor.name literals)
        | .container kind element =>
          TypeNode.container kind <$>
            expand registry (⟨id, descriptor.name, path⟩ :: ancestors)
              (path ++ [TypeNode.elementLabel]) element
        | .object members =>
          TypeNode.object descriptor.name <$> members.mapM fun (label, member) =>
            (label, ·) <$>
              expand registry (⟨id, descriptor.name, path⟩ :: ancestors) (path ++ [label]) member
  termination_by registry.remaining ancestors
  decreasing_by all_goals exact remaining_cons_lt registry _hget _hnew

/-- A node that is still open: an object, the fields it has so far, the label of the one that is
being expanded and the members that come after it; or a container. -/
inductive Frame where
  | object (self : Ancestor) (fields : List (String × TypeNode)) (label : String)
      (members : List (String × TypeId))
  | container (self : Ancestor) (kind : ContainerKind)

def Frame.self : Frame → Ancestor
  | object self _ _ _ => self
  | container self _ => self

inductive Progress where
  | opening (id : TypeId) (path : List String) (frames : List Frame)
  | closing (node : TypeNode) (frames : List Frame)
  | finished (outcome : Except UnknownType TypeNode)

def nextMember (self : Ancestor) (fields : List (String × TypeNode)) (frames : List Frame) :
    List (String × TypeId) → Progress
  | [] => .closing (.object self.name fields) frames
  | (label, member) :: members =>
    .opening member (self.path ++ [label]) (.object self fields label members :: frames)

def advance (registry : TypeRegistry) : Progress → Progress
  | .opening id path frames =>
    match (frames.map Frame.self).find? (·.id = id) with
    | some ancestor => .closing (.reference ancestor.name ancestor.path) frames
    | none =>
      match registry.primitive? id with
      | some name => .closing (.primitive name) frames
      | none =>
        match registry.get? id with
        | none => .finished (.error ⟨id⟩)
        | some descriptor =>
          let self := ⟨id, descriptor.name, path⟩
          match descriptor.shape with
          | .scalar name => .closing (.primitive name) frames
          | .enumeration literals => .closing (.enumeration descriptor.name literals) frames
          | .container kind element =>
            .opening element (path ++ [TypeNode.elementLabel]) (.container self kind :: frames)
          | .object members => nextMember self [] frames members
  | .closing node (.container _ kind :: frames) => .closing (.container kind node) frames
  | .closing node (.object self fields label members :: frames) =>
    nextMember self (fields ++ [(label, node)]) frames members
  | .closing node [] => .finished (.ok node)
  | .finished outcome => .finished outcome

/-- The outcome after at most so many steps. -/
def outcome? (registry : TypeRegistry) : Nat → Progress → Option (Except UnknownType TypeNode)
  | _, .finished outcome => some outcome
  | 0, _ => none
  | steps + 1, progress => outcome? registry steps (registry.advance progress)

def width (registry : TypeRegistry) : Nat :=
  registry.types.foldl (fun w d => match d.shape with
    | .object members => max w members.length
    | _ => w) 1

/-- Enough steps for every root: branches are no longer than the list of types. -/
def stepBound (registry : TypeRegistry) : Nat :=
  3 * Nat.pow (registry.width + 1) (registry.types.length + 2)

def build (registry : TypeRegistry) (root : TypeId) : Except UnknownType TypeNode :=
  (registry.outcome? registry.stepBound (.opening root [] [])).getD (.error ⟨root⟩)

end TypeRegistry

end ApiManual
