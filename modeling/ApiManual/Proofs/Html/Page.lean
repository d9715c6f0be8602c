import ApiManual.Proofs.Html.PageTree
import ApiManual.Proofs.Html.Tags
import ApiManual.Proofs.TypeNode.Position

/-! All markup of a page is made of names of the vocabulary. -/
namespace ApiManual

open Html

theorem TypeNode.fieldsMarkup_eq_flatMap (fields : List (String × TypeNode)) :
    fieldsMarkup fields = fields.flatMap fun field =>
      [element "li" []
        (classed "span" "json-field-name" [text field.1] :: text ": " :: field.2.markup)] := by
  induction fields with
  | nil => rfl
  | cons field rest ih => rw [fieldsMarkup, ih, List.flatMap_cons, List.singleton_append]

namespace Html

@[simp] theorem wellFormed_classed {tag className : String} {children : List Html} :
    (classed tag className children).wellFormed = true ↔
      tag ∈ elementNames ∧ wellFormedAll children = true := by
  simp [classed, wellFormed_element, attributeNames]

@[simp] theorem wellFormed_line : line.wellFormed = true := rfl

@[simp] theorem wellFormedAll_unlessEmpty {content : String} {make : String → List Html} :
    wellFormedAll (unlessEmpty content make) = true ↔
      content.isEmpty = true ∨ wellFormedAll (make content) = true := by
  rw [unlessEmpty]
  split <;> simp [*, wellFormedAll]

@[simp] theorem wellFormedAll_unlessAbsent {content : Option String} {make : String → List Html} :
    wellFormedAll (unlessAbsent content make) = true ↔
      (content.getD "").isEmpty = true ∨ wellFormedAll (make (content.getD "")) = true :=
  wellFormedAll_unlessEmpty

@[simp] theorem wellFormedAll_elim {α : Type} {item : Option α} {make : α → List Html} :
    wellFormedAll (item.elim [] make) = true ↔
      ∀ value ∈ item, wellFormedAll (make value) = true := by
  cases item <;> simp [wellFormedAll]

@[simp] theorem wellFormedAll_markup (type : TypeNode) : wellFormedAll type.markup = true := by
  induction type using TypeNode.tree_induction with
  | primitive name => rfl
  | object name fields ih =>
    have hfields : wellFormedAll (TypeNode.fieldsMarkup fields) = true := by
      rw [TypeNode.fieldsMarkup_eq_flatMap, wellFormedAll_flatMap]
      intro field hfield
      simp [wellFormedAll, wellFormed, ih field hfield, elementNames]
    simp [TypeNode.markup, wellFormedAll, wellFormed, hfields, elementNames]
  | container kind element ih =>
    simp [TypeNode.markup, wellFormedAll, wellFormed, ih, elementNames]
  | enumeration name literals => rfl
  | reference target path => rfl

@[simp] theorem wellFormedAll_markupOr (type : Option TypeNode) :
    wellFormedAll (TypeNode.markupOr type) = true := by
  cases type with
  | none => rfl
  | some type => exact wellFormedAll_markup type

@[simp] theorem wellFormedAll_row (parameter : Row) : wellFormedAll (row parameter) = true := by
  have hoptional : wellFormedAll (if parameter.required then []
      else [text " ", element "em" [] [text "(optional)"]]) = true := by
    split <;> rfl
  simp [row, wellFormedAll, wellFormed, hoptional, elementNames]

@[simp] theorem wellFormedAll_table (title : String) (rows : List Row) :
    wellFormedAll (table title rows) = true := by
  rw [table]
  split <;> simp [wellFormedAll, wellFormed, elementNames]

@[simp] theorem wellFormedAll_body (title : String) (type : TypeNode) :
    wellFormedAll (body title type) = true := by
  simp [body, wellFormedAll, wellFormed, elementNames]

@[simp] theorem wellFormedAll_response (returnDoc : Option String) (type : Option TypeNode) :
    wellFormedAll (response returnDoc type) = true := by
  rw [response]
  split <;> simp [wellFormedAll, wellFormed, elementNames]

@[simp] theorem wellFormedAll_methodFront (path : String) (method : ResourceMethod) :
    wellFormedAll (methodFront path method) = true := by
  simp [methodFront, wellFormedAll, wellFormed, elementNames, attributeNames]

@[simp] theorem wellFormedAll_methodBack (method : ResourceMethod) :
    wellFormedAll (methodBack method) = true := by
  simp [methodBack, wellFormedAll]

@[simp] theorem wellFormedAll_method (path : String) (parameters : List UriParameter)
    (method : ResourceMethod) : wellFormedAll (Html.method path parameters method) = true := by
  simp [Html.method, wellFormedAll, elementNames]

@[simp] theorem wellFormedAll_resource (entry : Section) :
    wellFormedAll (resource entry) = true := by
  simp [resource, wellFormedAll, wellFormed, elementNames, attributeNames]

@[simp] theorem wellFormedAll_documentation (item : DocumentationItem) :
    wellFormedAll (documentation item) = true := rfl

@[simp] theorem wellFormedAll_traits (tags : List StabilityTrait) :
    wellFormedAll (traits tags) = true := by
  rw [traits]
  split <;> simp [wellFormedAll, wellFormed, elementNames]

@[simp] theorem wellFormed_index (entries : List Section) : (index entries).wellFormed = true := by
  simp [index, wellFormedAll, wellFormed, elementNames, attributeNames]

@[simp] theorem wellFormed_head (view : ApiView) : (head view).wellFormed = true := by
  simp [head, wellFormedAll, wellFormed, elementNames, attributeNames, voidNames]

theorem wellFormedAll_page (view : ApiView) : wellFormedAll (page view) = true := by
  simp [page, wellFormedAll, wellFormed, elementNames, attributeNames]

end Html

end ApiManual
