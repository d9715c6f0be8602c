import ApiManual.TypeNode

/-!
Descriptions of types, as they are found one at a time. A description names the types of its members
by their identities, so descriptions may be cyclic.
-/
namespace ApiManual

abbrev TypeId := String

inductive TypeShape where
  | scalar (name : String)
  | object (members : List (String × TypeId))
  | container (kind : ContainerKind) (element : TypeId)
  | enumeration (literals : List String)
  deriving DecidableEq, Repr

structure TypeDescriptor where
  id : TypeId
  name : String
  shape : TypeShape
  deriving DecidableEq, Repr

structure TypeRegistry where
  types : List TypeDescriptor := []
  primitives : List (TypeId × String) := []

namespace TypeRegistry

def get? (registry : TypeRegistry) (id : TypeId) : Option TypeDescriptor :=
  registry.types.find? (·.id = id)

/-- The primitive that an atomic type is written as, whatever its descriptor says. -/
def primitive? (registry : TypeRegistry) (id : TypeId) : Option String :=
  registry.primitives.lookup id

def isAtomic (registry : TypeRegistry) (id : TypeId) : Bool := (registry.primitive? id).isSome

def insert (registry : TypeRegistry) (descriptor : TypeDescriptor) : TypeRegistry :=
  { registry with
    types := registry.types.filter (·.id ≠ descriptor.id) ++ [descriptor] }

def markAtomic (registry : TypeRegistry) (id : TypeId) (primitive : String) : TypeRegistry :=
  { registry with
    primitives := registry.primitives.filter (·.1 ≠ id) ++ [(id, primitive)] }

/-- The part of an identity after its last full stop or colon. -/
def shortName (id : TypeId) : String :=
  String.ofList (id.toList.reverse.takeWhile fun c => c ≠ '.' && c ≠ ':').reverse

def insertScalar (registry : TypeRegistry) (id : TypeId) (name : String) : TypeRegistry :=
  registry.insert ⟨id, name, .scalar name⟩

def insertObject (registry : TypeRegistry) (id : TypeId) (members : List (String × TypeId)) :
    TypeRegistry :=
  registry.insert ⟨id, shortName id, .object members⟩

def insertContainer (registry : TypeRegistry) (id : TypeId) (kind : ContainerKind)
    (element : TypeId) : TypeRegistry :=
  registry.insert ⟨id, shortName id, .container kind element⟩

def insertEnumeration (registry : TypeRegistry) (id : TypeId) (literals : List String) :
    TypeRegistry :=
  registry.insert ⟨id, shortName id, .enumeration literals⟩

end TypeRegistry

end ApiManual
