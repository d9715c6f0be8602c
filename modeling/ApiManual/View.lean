import ApiManual.Fragment

/-! An interface as it is documented: a tree of resources with the methods that they answer. -/
namespace ApiManual

structure UriParameter where
  name : String
  /-- The index of its segment in the whole path. -/
  position : Nat
  description : Option String := none
  allowedValues : Option (List String) := none
  type : Option TypeNode := none
  deriving DecidableEq, Repr, Inhabited

structure ResourceMethod where
  endpoint : Endpoint
  traits : List StabilityTrait
  origin : String
  deriving DecidableEq, Repr, Inhabited

structure Resource where
  path : String
  /-- The path as it is written below the parent. -/
  relativePath : String
  uriParameters : List UriParameter
  methods : List ResourceMethod
  children : List Resource
  deriving Repr, Inhabited

namespace Resource

mutual

def size : Resource → Nat
  | ⟨_, _, _, _, children⟩ => sizeAll children + 1

def sizeAll : List Resource → Nat
  | [] => 0
  | resource :: rest => resource.size + sizeAll rest

end

theorem size_eq (resource : Resource) : resource.size = sizeAll resource.children + 1 := by
  cases resource; rfl

theorem sizeAll_append (xs ys : List Resource) : sizeAll (xs ++ ys) = sizeAll xs + sizeAll ys := by
  induction xs with
  | nil => simp [sizeAll]
  | cons x rest ih => simp [sizeAll, ih, Nat.add_assoc]

mutual

/-- A resource and all resources below it, each one before those below it. -/
def preOrder : Resource → List Resource
  | ⟨path, relativePath, uriParameters, methods, children⟩ =>
    ⟨path, relativePath, uriParameters, methods, children⟩ :: preOrderAll children

def preOrderAll : List Resource → List Resource
  | [] => []
  | resource :: rest => resource.preOrder ++ preOrderAll rest

end

/-- The resources that wait to be visited, each one followed by all that lie below it. -/
def visit : List Resource → List Resource
  | [] => []
  | resource :: pending => resource :: visit (resource.children ++ pending)
  termination_by pending => sizeAll pending
  decreasing_by simp [sizeAll_append, sizeAll, size_eq]

end Resource

structure SecurityScheme where
  name : String
  scopes : List String
  deriving DecidableEq, Repr, Inhabited

structure ApiView where
  id : Option String
  title : String
  version : Option String
  basePath : Option String
  documentation : List DocumentationItem
  resources : List Resource
  traits : List StabilityTrait
  securitySchemes : List SecurityScheme
  /-- The labels of the fragments that had a part in it. -/
  origins : List String
  deriving Repr, Inhabited

namespace ApiView

def isDefault (view : ApiView) : Bool := view.id.isNone

def label (view : ApiView) : String := interfaceLabel view.id

def walk (view : ApiView) : List Resource := Resource.visit view.resources

def resource? (view : ApiView) (path : String) : Option Resource :=
  view.walk.find? (·.path = path)

def methodCount (view : ApiView) : Nat := (view.walk.flatMap (·.methods)).length

end ApiView

end ApiManual
