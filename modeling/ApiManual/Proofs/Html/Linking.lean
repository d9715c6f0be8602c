import ApiManual.Proofs.Html.Page

/-!
What elements of a page are found by, and what its links lead to: the attributes `id` and `href`, in
the order of the document. Besides the index, where each resource is linked to, only the headings of
resources and methods have such attributes.
-/
namespace ApiManual.Html

def isLinking (entry : String × String) : Bool := entry.1 = "id" || entry.1 = "href"

mutual

/-- The attributes that link, in the order of the document. -/
def linking : Html → List (String × String)
  | element _ attributes children => attributes.filter isLinking ++ linkingAll children
  | void _ attributes => attributes.filter isLinking
  | text _ => []
  | entity _ => []

def linkingAll : List Html → List (String × String)
  | [] => []
  | node :: rest => node.linking ++ linkingAll rest

end

def valuesOf (name : String) (attributes : List (String × String)) : List String :=
  (attributes.filter (·.1 = name)).map (·.2)

/-- The ids of all elements. A link to one of them leads to the first element that has it. -/
def ids (nodes : List Html) : List String := valuesOf "id" (linkingAll nodes)

def addresses (nodes : List Html) : List String := valuesOf "href" (linkingAll nodes)

@[simp] theorem linkingAll_nil : linkingAll [] = [] := rfl

@[simp] theorem linkingAll_cons (node : Html) (rest : List Html) :
    linkingAll (node :: rest) = node.linking ++ linkingAll rest := rfl

@[simp] theorem linking_element (tag : String) (entries : List (String × String))
    (children : List Html) :
    (element tag entries children).linking = entries.filter isLinking ++ linkingAll children := rfl

@[simp] theorem linking_void (tag : String) (entries : List (String × String)) :
    (void tag entries).linking = entries.filter isLinking := rfl

@[simp] theorem linking_text (content : String) : (text content).linking = [] := rfl

@[simp] theorem linking_line : line.linking = [] := rfl

@[simp] theorem linking_classed (tag className : String) (children : List Html) :
    (classed tag className children).linking = linkingAll children := rfl

@[simp] theorem linkingAll_append (left right : List Html) :
    linkingAll (left ++ right) = linkingAll left ++ linkingAll right := by
  induction left with
  | nil => rfl
  | cons node rest ih => rw [List.cons_append, linkingAll, linkingAll, ih, List.append_assoc]

theorem linkingAll_flatMap {α : Type} (items : List α) (nodes : α → List Html) :
    linkingAll (items.flatMap nodes) = items.flatMap fun item => linkingAll (nodes item) := by
  induction items with
  | nil => rfl
  | cons item rest ih => rw [List.flatMap_cons, linkingAll_append, ih, List.flatMap_cons]

theorem linkingAll_flatMap_eq_nil {α : Type} {items : List α} {nodes : α → List Html}
    (h : ∀ item ∈ items, linkingAll (nodes item) = []) : linkingAll (items.flatMap nodes) = [] := by
  rw [linkingAll_flatMap]
  exact List.flatMap_eq_nil_iff.mpr h

@[simp] theorem linkingAll_unlessEmpty {content : String} {make : String → List Html}
    (h : ∀ content, linkingAll (make content) = []) :
    linkingAll (unlessEmpty content make) = [] := by
  rw [unlessEmpty]
  split
  · rfl
  · exact h content

@[simp] theorem linkingAll_unlessAbsent {content : Option String} {make : String → List Html}
    (h : ∀ content, linkingAll (make content) = []) :
    linkingAll (unlessAbsent content make) = [] :=
  linkingAll_unlessEmpty h

@[simp] theorem linkingAll_elim {α : Type} {item : Option α} {make : α → List Html}
    (h : ∀ value, linkingAll (make value) = []) : linkingAll (item.elim [] make) = [] := by
  cases item with
  | none => rfl
  | some value => exact h value

@[simp] theorem linkingAll_markup (type : TypeNode) : linkingAll type.markup = [] := by
  induction type using TypeNode.tree_induction with
  | primitive name => rfl
  | object name fields ih =>
    have hfields : linkingAll (TypeNode.fieldsMarkup fields) = [] := by
      rw [TypeNode.fieldsMarkup_eq_flatMap]
      apply linkingAll_flatMap_eq_nil
      intro field hfield
      simp [ih field hfield]
    simp [TypeNode.markup, hfields]
  | container kind element ih =>
    simp [TypeNode.markup, ih]
  | enumeration name literals => rfl
  | reference target path => rfl

@[simp] theorem linkingAll_markupOr (type : Option TypeNode) :
    linkingAll (TypeNode.markupOr type) = [] := by
  cases type with
  | none => rfl
  | some type => exact linkingAll_markup type

@[simp] theorem linkingAll_row (parameter : Row) : linkingAll (row parameter) = [] := by
  have hoptional : linkingAll (if parameter.required then []
      else [text " ", element "em" [] [text "(optional)"]]) = [] := by
    split <;> rfl
  simp [row, hoptional]

@[simp] theorem linkingAll_table (title : String) (rows : List Row) :
    linkingAll (table title rows) = [] := by
  have hrows : linkingAll (rows.flatMap row) = [] :=
    linkingAll_flatMap_eq_nil fun entry _ => linkingAll_row entry
  rw [table]
  split
  · rfl
  · simp [hrows]

@[simp] theorem linkingAll_body (title : String) (type : TypeNode) :
    linkingAll (body title type) = [] := by
  simp [body]

@[simp] theorem linkingAll_response (returnDoc : Option String) (type : Option TypeNode) :
    linkingAll (response returnDoc type) = [] := by
  rw [response]
  split
  · rfl
  · simp

@[simp] theorem linkingAll_documentation (item : DocumentationItem) :
    linkingAll (documentation item) = [] := rfl

@[simp] theorem linkingAll_traits (tags : List StabilityTrait) : linkingAll (traits tags) = [] := by
  have htags : linkingAll (tags.flatMap fun tag =>
      [classed "dt" "trait" [text tag.name], element "dd" [] [text tag.description], line]) = [] :=
    linkingAll_flatMap_eq_nil fun _ _ => rfl
  rw [traits]
  split
  · rfl
  · simp [htags]

@[simp] theorem linkingAll_methodFront (path : String) (m : ResourceMethod) :
    linkingAll (methodFront path m) = [("id", anchor path m.endpoint.method)] := by
  have htags : linkingAll (m.traits.map fun tag => classed "span" "trait" [text tag.name]) =
      [] := by
    rw [List.map_eq_flatMap]
    exact linkingAll_flatMap_eq_nil fun _ _ => rfl
  simp [methodFront, isLinking, htags]

@[simp] theorem linkingAll_methodBack (m : ResourceMethod) : linkingAll (methodBack m) = [] := by
  simp [methodBack]

@[simp] theorem linkingAll_method (path : String) (parameters : List UriParameter)
    (m : ResourceMethod) :
    linkingAll (method path parameters m) = [("id", anchor path m.endpoint.method)] := by
  simp [method]

@[simp] theorem linkingAll_resource (entry : Section) :
    linkingAll (resource entry) = ("id", entry.resource.path) ::
      entry.resource.methods.map fun m => ("id", anchor entry.resource.path m.endpoint.method) := by
  simp [resource, isLinking, linkingAll_flatMap,
    List.map_eq_flatMap]

@[simp] theorem linking_index (entries : List Section) :
    (index entries).linking = entries.map fun entry => ("href", "#" ++ entry.resource.path) := by
  simp [index, isLinking, linkingAll_flatMap,
    List.map_eq_flatMap]

@[simp] theorem linking_head (view : ApiView) : (head view).linking = [] := by
  simp [head, isLinking]

theorem linkingAll_page (view : ApiView) :
    linkingAll (page view) =
      (sections view).map (fun entry => ("href", "#" ++ entry.resource.path)) ++
      (sections view).flatMap fun entry => ("id", entry.resource.path) ::
        entry.resource.methods.map fun m =>
          ("id", anchor entry.resource.path m.endpoint.method) := by
  have hdocumentation : linkingAll (view.documentation.flatMap documentation) = [] :=
    linkingAll_flatMap_eq_nil fun item _ => linkingAll_documentation item
  simp [page, isLinking, linkingAll_flatMap, hdocumentation]

section

variable {α : Type} (name : String) (items : List α) (value : α → String)

theorem valuesOf_append (left right : List (String × String)) :
    valuesOf name (left ++ right) = valuesOf name left ++ valuesOf name right := by
  rw [valuesOf, List.filter_append, List.map_append, valuesOf, valuesOf]

theorem valuesOf_flatMap (entries : α → List (String × String)) :
    valuesOf name (items.flatMap entries) =
      items.flatMap fun item => valuesOf name (entries item) := by
  rw [valuesOf, List.filter_flatMap, List.map_flatMap]
  rfl

theorem valuesOf_map_self :
    valuesOf name (items.map fun item => (name, value item)) = items.map value := by
  simp [valuesOf, List.filter_map, Function.comp_def]

theorem valuesOf_map_of_ne {other : String} (h : other ≠ name) :
    valuesOf name (items.map fun item => (other, value item)) = [] := by
  simp [valuesOf, List.filter_map, Function.comp_def, h]

end

theorem ids_page (view : ApiView) :
    ids (page view) = (sections view).flatMap fun entry => entry.resource.path ::
      entry.resource.methods.map fun m => anchor entry.resource.path m.endpoint.method := by
  have hsection : ∀ entry : Section, valuesOf "id" (("id", entry.resource.path) ::
      entry.resource.methods.map fun m => ("id", anchor entry.resource.path m.endpoint.method)) =
      entry.resource.path ::
        entry.resource.methods.map fun m => anchor entry.resource.path m.endpoint.method :=
    fun entry => congrArg (entry.resource.path :: ·) (valuesOf_map_self "id" _ _)
  rw [ids, linkingAll_page, valuesOf_append, valuesOf_map_of_ne "id" _ _ (by decide),
    List.nil_append, valuesOf_flatMap]
  simp only [hsection]

theorem addresses_page (view : ApiView) :
    addresses (page view) = (sections view).map fun entry => "#" ++ entry.resource.path := by
  have hsection : ∀ entry : Section, valuesOf "href" (("id", entry.resource.path) ::
      entry.resource.methods.map fun m => ("id", anchor entry.resource.path m.endpoint.method)) =
      [] :=
    fun entry => valuesOf_map_of_ne "href" entry.resource.methods _ (by decide)
  rw [addresses, linkingAll_page, valuesOf_append, valuesOf_map_self, valuesOf_flatMap]
  simp [hsection]

end ApiManual.Html
