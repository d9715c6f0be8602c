import ApiManual.View

/-!
The shape of a view: its lists and trees, which members are absent and which texts are empty, its
methods and flags, and how its types are built. What the other texts are is no part of it.
-/
namespace ApiManual

inductive Shape where
  | text (isEmpty : Bool)
  | flag (value : Bool)
  | verb (method : HttpMethod)
  /-- The constructor of a type. -/
  | kind (name : String)
  | absent
  | parts (shapes : List Shape)

namespace Shape

variable {α : Type} {shape : α → Shape}

def ofText (content : String) : Shape := text content.isEmpty

def ofList (shape : α → Shape) (items : List α) : Shape := parts (items.map shape)

def ofOption (shape : α → Shape) : Option α → Shape
  | none => absent
  | some item => parts [shape item]

@[simp] theorem ofText_inj {content content' : String} :
    ofText content = ofText content' ↔ content.isEmpty = content'.isEmpty := by
  simp [ofText]

@[simp] theorem ofList_inj {items items' : List α} :
    ofList shape items = ofList shape items' ↔ items.map shape = items'.map shape := by
  simp [ofList]

@[simp] theorem ofOption_inj {item item' : Option α} :
    ofOption shape item = ofOption shape item' ↔ item.map shape = item'.map shape := by
  cases item <;> cases item' <;> simp [ofOption]

end Shape

open Shape

namespace TypeNode

mutual

def shape : TypeNode → Shape
  | primitive name => parts [kind "primitive", ofText name]
  | object name fields => parts [kind "object", ofText name, parts (fieldShapes fields)]
  | container _ element => parts [kind "container", element.shape]
  | enumeration name literals => parts [kind "enumeration", ofText name, ofList ofText literals]
  | reference target path => parts [kind "reference", ofText target, ofList ofText path]

def fieldShapes : List (String × TypeNode) → List Shape
  | [] => []
  | (name, type) :: rest => parts [ofText name, type.shape] :: fieldShapes rest

end

end TypeNode

def Parameter.shape (parameter : Parameter) : Shape :=
  parts [ofText parameter.name, ofOption TypeNode.shape parameter.type,
    ofOption ofText parameter.description, ofOption (ofList ofText) parameter.allowedValues,
    flag parameter.required]

def UriParameter.shape (parameter : UriParameter) : Shape :=
  parts [ofText parameter.name, ofOption TypeNode.shape parameter.type,
    ofOption ofText parameter.description, ofOption (ofList ofText) parameter.allowedValues]

namespace Security

def shape (security : Security) : Shape :=
  parts [ofText security.scheme,
    ofList (fun (name, values) => parts [ofText name, ofList ofText values]) security.parameters]

/-- The shape and, where the scheme is empty, whether there are scopes. The shape alone does not
tell, since it leaves out which list of values has the name of the scopes. -/
def shapeWithScopes (security : Security) : Shape :=
  parts [security.shape,
    if security.scheme.isEmpty then flag security.scopes.isEmpty else absent]

end Security

section Securities

variable (security : Security → Shape)

def Endpoint.shape (endpoint : Endpoint) : Shape :=
  parts [verb endpoint.method, ofText endpoint.operation, ofList ofText endpoint.paths,
    ofList Parameter.shape endpoint.pathParameters,
    ofList Parameter.shape endpoint.queryParameters,
    ofOption TypeNode.shape endpoint.request, ofOption TypeNode.shape endpoint.response,
    ofOption ofText endpoint.doc, ofOption ofText endpoint.returnDoc,
    ofList (ofText ·.name) endpoint.scopes, ofList (ofText ·.name) endpoint.traits,
    ofOption security endpoint.security]

def ResourceMethod.shape (method : ResourceMethod) : Shape :=
  parts [method.endpoint.shape security, ofList (ofText ·.name) method.traits,
    ofText method.origin]

namespace Resource

mutual

def shape : Resource → Shape
  | ⟨path, relativePath, uriParameters, methods, children⟩ =>
    parts [ofText path, ofText relativePath, ofList UriParameter.shape uriParameters,
      ofList (ResourceMethod.shape security) methods, parts (shapes children)]

def shapes : List Resource → List Shape
  | [] => []
  | resource :: rest => resource.shape :: shapes rest

end

end Resource

/-- The shape of a view, with a choice of what counts of its security requirements. -/
def ApiView.shape (view : ApiView) : Shape :=
  parts [ofOption ofText view.id, ofText view.title, ofOption ofText view.version,
    ofOption ofText view.basePath,
    ofList (fun item => parts [ofText item.title, ofText item.content]) view.documentation,
    parts (Resource.shapes security view.resources),
    ofList (ofText ·.name) view.traits,
    ofList (fun scheme => parts [ofText scheme.name, ofList ofText scheme.scopes])
      view.securitySchemes,
    ofList ofText view.origins]

end Securities

theorem TypeNode.fieldShapes_eq_map (fields : List (String × TypeNode)) :
    fieldShapes fields = fields.map fun field => parts [ofText field.1, field.2.shape] := by
  induction fields with
  | nil => rfl
  | cons field rest ih => rw [fieldShapes, ih, List.map_cons]

theorem Resource.shapes_eq_map (security : Security → Shape) (resources : List Resource) :
    shapes security resources = resources.map (shape security) := by
  induction resources with
  | nil => rfl
  | cons resource rest ih => rw [shapes, ih, List.map_cons]

theorem Resource.shape_eq_parts (security : Security → Shape) (resource : Resource) :
    resource.shape security =
      parts [ofText resource.path, ofText resource.relativePath,
        ofList UriParameter.shape resource.uriParameters,
        ofList (ResourceMethod.shape security) resource.methods,
        ofList (shape security) resource.children] := by
  cases resource
  rw [shape, shapes_eq_map, ofList, ofList, ofList]

section Lists

variable {α β γ : Type} {f : α → γ} {items items' : List α}

/-- What the shapes of the members of a list determine is the same for lists of the same shapes. -/
theorem map_eq_of_map_eq {g g' : α → β} (hshapes : items.map f = items'.map f)
    (h : ∀ item ∈ items, ∀ item', f item = f item' → g item = g' item') :
    items.map g = items'.map g' := by
  induction items generalizing items' with
  | nil =>
    rw [List.map_nil, eq_comm, List.map_eq_nil_iff] at hshapes
    rw [hshapes, List.map_nil, List.map_nil]
  | cons item rest ih =>
    obtain ⟨item', rest', rfl, hitem, hrest⟩ := List.map_eq_cons_iff.mp hshapes.symm
    obtain ⟨hfirst, hmore⟩ := List.forall_mem_cons.mp h
    rw [List.map_cons, List.map_cons, hfirst item' hitem.symm, ih hrest.symm hmore]

theorem flatMap_eq_of_map_eq {g g' : α → List β} (hshapes : items.map f = items'.map f)
    (h : ∀ item ∈ items, ∀ item', f item = f item' → g item = g' item') :
    items.flatMap g = items'.flatMap g' := by
  rw [List.flatMap_def, List.flatMap_def, map_eq_of_map_eq hshapes h]

end Lists

end ApiManual
