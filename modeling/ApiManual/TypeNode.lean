/-!
The shape of a value that an endpoint takes or gives, as a finite tree. Where a type contains itself
the tree ends in a reference to the ancestor that stands for it.
-/
namespace ApiManual

inductive ContainerKind where
  | array
  | list
  | set
  | map
  deriving DecidableEq, Repr, Inhabited

namespace ContainerKind

def name : ContainerKind → String
  | array => "array"
  | list => "list"
  | set => "set"
  | map => "map"

def all : List ContainerKind := [array, list, set, map]

def ofName? (text : String) : Option ContainerKind := all.find? (·.name = text)

def isKeyed (kind : ContainerKind) : Bool := kind = map

end ContainerKind

inductive TypeNode where
  | primitive (name : String)
  | object (name : String) (fields : List (String × TypeNode))
  | container (kind : ContainerKind) (element : TypeNode)
  | enumeration (name : String) (literals : List String)
  | reference (target : String) (path : List String)
  deriving Inhabited, Repr

namespace TypeNode

def elementLabel : String := "[]"

def typeName : TypeNode → String
  | primitive name => name
  | object name _ => name
  | container kind element => kind.name ++ "<" ++ element.typeName ++ ">"
  | enumeration name _ => name
  | reference target _ => target

def children : TypeNode → List TypeNode
  | object _ fields => fields.map (·.2)
  | container _ element => [element]
  | _ => []

mutual

def size : TypeNode → Nat
  | object _ fields => sizeFields fields + 1
  | container _ element => element.size + 1
  | _ => 1

def sizeFields : List (String × TypeNode) → Nat
  | [] => 0
  | (_, type) :: rest => type.size + sizeFields rest

end

def sizeAll : List TypeNode → Nat
  | [] => 0
  | node :: rest => node.size + sizeAll rest

theorem sizeAll_append (xs ys : List TypeNode) : sizeAll (xs ++ ys) = sizeAll xs + sizeAll ys := by
  induction xs with
  | nil => simp [sizeAll]
  | cons x rest ih => simp [sizeAll, ih, Nat.add_assoc]

theorem sizeAll_map_snd (fields : List (String × TypeNode)) :
    sizeAll (fields.map (·.2)) = sizeFields fields := by
  induction fields with
  | nil => rfl
  | cons field rest ih => simp [sizeAll, sizeFields, ih]

theorem sizeAll_children_lt (node : TypeNode) : sizeAll node.children < node.size := by
  cases node <;> simp [children, size, sizeAll, sizeAll_map_snd]

mutual

/-- All nodes of a tree, each one before those below it and its fields in order. -/
def preOrder : TypeNode → List TypeNode
  | primitive name => [primitive name]
  | object name fields => object name fields :: preOrderFields fields
  | container kind element => container kind element :: element.preOrder
  | enumeration name literals => [enumeration name literals]
  | reference target path => [reference target path]

def preOrderFields : List (String × TypeNode) → List TypeNode
  | [] => []
  | (_, type) :: rest => type.preOrder ++ preOrderFields rest

end

def isReference : TypeNode → Bool
  | reference _ _ => true
  | _ => false

/-- The references in trees that wait to be visited: the first one is taken off, and the nodes below
it are put in its place. -/
def referencesIn : List TypeNode → List TypeNode
  | [] => []
  | node :: pending =>
    if node.isReference then node :: referencesIn (node.children ++ pending)
    else referencesIn (node.children ++ pending)
  termination_by pending => sizeAll pending
  decreasing_by all_goals simp [sizeAll_append, sizeAll, sizeAll_children_lt]

def references (node : TypeNode) : List TypeNode := referencesIn [node]

def containsReference (node : TypeNode) : Bool := !node.references.isEmpty

/-- The node that one label leads to; of fields with one name the first. -/
def child? : TypeNode → String → Option TypeNode
  | object _ fields, label => fields.lookup label
  | container _ element, label => if label = elementLabel then some element else none
  | _, _ => none

def resolve? (root : TypeNode) (path : List String) : Option TypeNode := path.foldlM child? root

mutual

def isSame : TypeNode → TypeNode → Bool
  | primitive name, primitive name' => name = name'
  | object name fields, object name' fields' => name = name' && areSame fields fields'
  | container kind element, container kind' element' => kind = kind' && element.isSame element'
  | enumeration name literals, enumeration name' literals' => name = name' && literals = literals'
  | reference target path, reference target' path' => target = target' && path = path'
  | _, _ => false

def areSame : List (String × TypeNode) → List (String × TypeNode) → Bool
  | [], [] => true
  | (name, type) :: rest, (name', type') :: rest' =>
    name = name' && type.isSame type' && areSame rest rest'
  | _, _ => false

end

mutual

theorem isSame_iff (a b : TypeNode) : a.isSame b = true ↔ a = b := by
  cases a with
  | object _ fields =>
    cases b with
    | object _ fields' => simp [isSame, areSame_iff fields fields']
    | _ => simp [isSame]
  | container _ element =>
    cases b with
    | container _ element' => simp [isSame, isSame_iff element element']
    | _ => simp [isSame]
  | _ => cases b <;> simp [isSame]

theorem areSame_iff (fields fields' : List (String × TypeNode)) :
    areSame fields fields' = true ↔ fields = fields' := by
  match fields, fields' with
  | [], [] => simp [areSame]
  | [], _ :: _ => simp [areSame]
  | _ :: _, [] => simp [areSame]
  | (_, type) :: rest, (_, type') :: rest' =>
    simp [areSame, isSame_iff type type', areSame_iff rest rest']

end

instance : DecidableEq TypeNode := fun a b => decidable_of_iff _ (isSame_iff a b)

end TypeNode

end ApiManual
