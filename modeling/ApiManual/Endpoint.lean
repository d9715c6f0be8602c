import ApiManual.TypeNode

/-! Documented operations: their method, parameters, bodies, audiences, traits and security. -/
namespace ApiManual

inductive HttpMethod where
  | get
  | post
  | put
  | patch
  | delete
  | head
  | options
  deriving DecidableEq, Repr, Inhabited

namespace HttpMethod

def all : List HttpMethod := [get, post, put, patch, delete, head, options]

def name : HttpMethod → String
  | get => "GET"
  | post => "POST"
  | put => "PUT"
  | patch => "PATCH"
  | delete => "DELETE"
  | head => "HEAD"
  | options => "OPTIONS"

def key : HttpMethod → String
  | get => "get"
  | post => "post"
  | put => "put"
  | patch => "patch"
  | delete => "delete"
  | head => "head"
  | options => "options"

def ofName? (text : String) : Option HttpMethod := all.find? (·.name = text)

@[simp] theorem ofName?_name (method : HttpMethod) : ofName? method.name = some method := by
  cases method <;> rfl

end HttpMethod

structure Scope where
  name : String
  deriving DecidableEq, Repr, Inhabited

namespace Scope

/-- The scope that every endpoint belongs to. -/
def all : Scope := ⟨"all"⟩

/-- The scope of an endpoint that names none. -/
def published : Scope := ⟨"public"⟩

def isAll (scope : Scope) : Bool := scope = all

end Scope

structure StabilityTrait where
  name : String
  deriving DecidableEq, Repr, Inhabited

namespace StabilityTrait

def experimental : StabilityTrait := ⟨"experimental"⟩

def deprecated : StabilityTrait := ⟨"deprecated"⟩

/-- The traits that are declared before all others, in this order. -/
def known : List StabilityTrait := [experimental, deprecated]

def rank? (tag : StabilityTrait) : Option Nat := known.findIdx? (· = tag)

def description (tag : StabilityTrait) : String :=
  if tag = experimental then "The method is experimental and may change without notice."
  else if tag = deprecated then "The method is deprecated and will be removed."
  else "The method is marked " ++ tag.name ++ "."

end StabilityTrait

structure Security where
  scheme : String
  parameters : List (String × List String) := []
  deriving DecidableEq, Repr, Inhabited

namespace Security

def values (security : Security) (name : String) : List String :=
  (security.parameters.lookup name).getD []

def scopesKey : String := "scopes"

def scopes (security : Security) : List String := security.values scopesKey

def oauth2Scheme : String := "oauth_2_0"

def addParameter (security : Security) (name : String) (values : List String) : Security :=
  { security with parameters := security.parameters ++ [(name, values)] }

def oauth2 (scopes : List String) : Security :=
  ({ scheme := oauth2Scheme } : Security).addParameter scopesKey scopes

end Security

structure Parameter where
  name : String
  type : Option TypeNode := none
  description : Option String := none
  allowedValues : Option (List String) := none
  required : Bool := true
  deriving DecidableEq, Repr, Inhabited

namespace Parameter

/-- Sets the type. The literals of an enumeration become the allowed values if there are none yet.
-/
def withType (parameter : Parameter) (type : TypeNode) : Parameter :=
  match type with
  | .enumeration _ literals =>
    { parameter with
      type := some type, allowedValues := some (parameter.allowedValues.getD literals) }
  | _ => { parameter with type := some type }

end Parameter

structure Endpoint where
  method : HttpMethod
  /-- The name of the handler. -/
  operation : String := ""
  /-- The URI templates that the operation is mounted at. -/
  paths : List String
  pathParameters : List Parameter := []
  queryParameters : List Parameter := []
  request : Option TypeNode := none
  response : Option TypeNode := none
  doc : Option String := none
  returnDoc : Option String := none
  scopes : List Scope := [Scope.published]
  traits : List StabilityTrait := []
  security : Option Security := none
  deriving DecidableEq, Repr, Inhabited

namespace Endpoint

def isInScope (endpoint : Endpoint) (scope : Scope) : Bool :=
  scope.isAll || endpoint.scopes.contains scope

def pathParameterNamed? (endpoint : Endpoint) (name : String) : Option Parameter :=
  endpoint.pathParameters.find? (·.name = name)

end Endpoint

end ApiManual
