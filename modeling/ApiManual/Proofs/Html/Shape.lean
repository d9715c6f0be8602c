import ApiManual.Proofs.Html.Page
import ApiManual.Proofs.View.Shape
import ApiManual.Proofs.View.Walk

/-! The marks of a page depend on nothing but the shape of the view that it documents. -/
namespace ApiManual

open Shape

theorem isEmpty_getD_eq {content content' : Option String}
    (h : content.map ofText = content'.map ofText) :
    (content.getD "").isEmpty = (content'.getD "").isEmpty := by
  cases content <;> cases content' <;> simp_all

theorem isEmpty_intercalate_cons_cons (first second : String) (rest : List String) :
    (", ".intercalate (first :: second :: rest)).isEmpty = false := by
  simp [String.intercalate_cons_cons]

theorem isEmpty_intercalate_eq {texts texts' : List String}
    (h : texts.map ofText = texts'.map ofText) :
    (", ".intercalate texts).isEmpty = (", ".intercalate texts').isEmpty := by
  match texts, texts' with
  | [], [] => rfl
  | [first], [first'] => simpa using h
  | _ :: _ :: _, _ :: _ :: _ => rw [isEmpty_intercalate_cons_cons, isEmpty_intercalate_cons_cons]
  | [], _ :: _ | _ :: _, [] | [_], _ :: _ :: _ | _ :: _ :: _, [_] => simp at h

namespace Html

section Parts

variable {α : Type}

@[simp] theorem marks_cons_line (right : List Html) : marks (line :: right) = marks right := rfl

@[simp] theorem marks_cons_classed (tag className : String) (children right : List Html) :
    marks (classed tag className children :: right) =
      ["<" ++ tag, " class=\"", "\"", ">"] ++ marks children ++ ["</" ++ tag ++ ">"] ++
        marks right :=
  marks_cons_element

@[simp] theorem marks_unlessEmpty (content : String) (make : String → List Html) :
    marks (unlessEmpty content make) = if content.isEmpty then [] else marks (make content) := by
  rw [unlessEmpty, apply_ite marks, marks_nil]

@[simp] theorem marks_unlessAbsent (content : Option String) (make : String → List Html) :
    marks (unlessAbsent content make) =
      if (content.getD "").isEmpty then [] else marks (make (content.getD "")) :=
  marks_unlessEmpty _ _

theorem marks_flatMap_eq {shape : α → Shape} {make make' : α → List Html} {items items' : List α}
    (hshapes : items.map shape = items'.map shape)
    (h : ∀ item item', shape item = shape item' → marks (make item) = marks (make' item')) :
    marks (items.flatMap make) = marks (items'.flatMap make') := by
  rw [marks_flatMap, marks_flatMap]
  exact flatMap_eq_of_map_eq hshapes fun item _ => h item

theorem marks_elim_eq {shape : α → Shape} {make : α → List Html} {item item' : Option α}
    (hshapes : item.map shape = item'.map shape)
    (h : ∀ value value', shape value = shape value' → marks (make value) = marks (make value')) :
    marks (item.elim [] make) = marks (item'.elim [] make) := by
  match item, item' with
  | none, none => rfl
  | some value, some value' => exact h value value' (Option.some.inj hshapes)
  | none, some _ | some _, none => cases hshapes

end Parts

theorem marks_markup_eq {type type' : TypeNode} (h : type.shape = type'.shape) :
    marks type.markup = marks type'.markup := by
  induction type using TypeNode.tree_induction generalizing type' with
  | primitive name =>
    cases type' with
    | primitive name' => rfl
    | _ => simp [TypeNode.shape] at h
  | object name fields ih =>
    cases type' with
    | object name' fields' =>
      simp only [TypeNode.shape, TypeNode.fieldShapes_eq_map, parts.injEq, List.cons.injEq] at h
      obtain ⟨-, -, hfields, -⟩ := h
      have hmarks : marks (TypeNode.fieldsMarkup fields) =
          marks (TypeNode.fieldsMarkup fields') := by
        simp only [TypeNode.fieldsMarkup_eq_flatMap, marks_flatMap]
        refine flatMap_eq_of_map_eq hfields fun field hfield field' hshape => ?_
        simp only [parts.injEq, List.cons.injEq] at hshape
        simp [ih field hfield hshape.2.1]
      simp [TypeNode.markup, hmarks]
    | _ => simp [TypeNode.shape] at h
  | container kind element ih =>
    cases type' with
    | container kind' element' =>
      simp only [TypeNode.shape, parts.injEq, List.cons.injEq] at h
      simp [TypeNode.markup, ih h.2.1]
    | _ => simp [TypeNode.shape] at h
  | enumeration name literals =>
    cases type' with
    | enumeration name' literals' => rfl
    | _ => simp [TypeNode.shape] at h
  | reference target path =>
    cases type' with
    | reference target' path' => rfl
    | _ => simp [TypeNode.shape] at h

theorem marks_markupOr_eq {type type' : Option TypeNode}
    (h : type.map TypeNode.shape = type'.map TypeNode.shape) :
    marks (TypeNode.markupOr type) = marks (TypeNode.markupOr type') := by
  match type, type' with
  | none, none => rfl
  | some type, some type' => exact marks_markup_eq (Option.some.inj h)
  | none, some _ | some _, none => cases h

def Row.shape (parameter : Row) : Shape :=
  parts [ofOption TypeNode.shape parameter.type, ofOption ofText parameter.description,
    ofOption (ofList ofText) parameter.allowedValues, flag parameter.required]

theorem Row.shape_ofUriParameter_eq {parameter parameter' : UriParameter}
    (h : parameter.shape = parameter'.shape) :
    (Row.ofUriParameter parameter).shape = (Row.ofUriParameter parameter').shape := by
  simp_all [UriParameter.shape, Row.shape, Row.ofUriParameter]

theorem Row.shape_ofParameter_eq {parameter parameter' : Parameter}
    (h : parameter.shape = parameter'.shape) :
    (Row.ofParameter parameter).shape = (Row.ofParameter parameter').shape := by
  simp_all [Parameter.shape, Row.shape, Row.ofParameter]

theorem map_ofText_getD_eq {texts texts' : Option (List String)}
    (h : texts.map (ofList ofText) = texts'.map (ofList ofText)) :
    (texts.getD []).map ofText = (texts'.getD []).map ofText := by
  cases texts <;> cases texts' <;> simp_all

theorem marks_row_eq {parameter parameter' : Row} (h : parameter.shape = parameter'.shape) :
    marks (row parameter) = marks (row parameter') := by
  simp only [Row.shape, parts.injEq, List.cons.injEq, ofOption_inj, flag.injEq] at h
  obtain ⟨htype, hdescription, hvalues, hrequired, -⟩ := h
  simp [row, marks_markupOr_eq htype, isEmpty_getD_eq hdescription, hrequired,
    isEmpty_intercalate_eq (map_ofText_getD_eq hvalues)]

theorem marks_table_eq {title title' : String} {rows rows' : List Row}
    (h : rows.map Row.shape = rows'.map Row.shape) :
    marks (table title rows) = marks (table title' rows') := by
  have hrows : marks (rows.flatMap row) = marks (rows'.flatMap row) :=
    marks_flatMap_eq h fun _ _ => marks_row_eq
  have hempty : rows.isEmpty = rows'.isEmpty := by
    cases rows <;> cases rows' <;> simp_all
  simp only [table, apply_ite marks, hempty]
  simp [hrows]

theorem marks_body_eq {title title' : String} {type type' : TypeNode}
    (h : type.shape = type'.shape) : marks (body title type) = marks (body title' type') := by
  simp [body, marks_markup_eq h]

theorem marks_response_eq {returnDoc returnDoc' : Option String} {type type' : Option TypeNode}
    (hdoc : returnDoc.map ofText = returnDoc'.map ofText)
    (htype : type.map TypeNode.shape = type'.map TypeNode.shape) :
    marks (response returnDoc type) = marks (response returnDoc' type') := by
  have hnone : type.isNone = type'.isNone := by
    cases type <;> cases type' <;> simp_all
  have hmarks : marks (type.elim [] fun type => [classed "div" "body" type.markup]) =
      marks (type'.elim [] fun type => [classed "div" "body" type.markup]) :=
    marks_elim_eq htype fun _ _ h => by simp [marks_markup_eq h]
  simp only [response, apply_ite marks, hnone, isEmpty_getD_eq hdoc]
  simp [isEmpty_getD_eq hdoc, hmarks]

theorem isEmpty_requirement (security : Security) :
    (requirement security).isEmpty = (security.scheme.isEmpty && security.scopes.isEmpty) := by
  rw [requirement]
  cases security.scopes <;> simp

theorem isEmpty_requirement_eq {security security' : Security}
    (h : security.shapeWithScopes = security'.shapeWithScopes) :
    (requirement security).isEmpty = (requirement security').isEmpty := by
  simp only [Security.shapeWithScopes, Security.shape, parts.injEq, List.cons.injEq,
    ofText_inj] at h
  obtain ⟨⟨hscheme, -⟩, hscopes, -⟩ := h
  rw [isEmpty_requirement, isEmpty_requirement, hscheme]
  rw [hscheme] at hscopes
  cases hempty : security'.scheme.isEmpty with
  | false => rfl
  | true => simpa [hempty] using hscopes

theorem isEmpty_requirements_eq {security security' : Option Security}
    (h : security.map Security.shapeWithScopes = security'.map Security.shapeWithScopes) :
    ((security.map requirement).getD "").isEmpty =
      ((security'.map requirement).getD "").isEmpty := by
  match security, security' with
  | none, none => rfl
  | some _, some _ => exact isEmpty_requirement_eq (Option.some.inj h)
  | none, some _ | some _, none => cases h

section Methods

variable {path path' : String} {method method' : ResourceMethod}

theorem marks_methodFront_eq
    (h : method.shape Security.shapeWithScopes = method'.shape Security.shapeWithScopes) :
    marks (methodFront path method) = marks (methodFront path' method') := by
  simp only [ResourceMethod.shape, Endpoint.shape, parts.injEq, List.cons.injEq, ofText_inj,
    ofList_inj, ofOption_inj] at h
  obtain ⟨⟨-, hoperation, -, -, -, -, -, hdoc, -, -, -, hsecurity, -⟩, htraits, -⟩ := h
  have htags : marks (method.traits.map fun tag => classed "span" "trait" [text tag.name]) =
      marks (method'.traits.map fun tag => classed "span" "trait" [text tag.name]) := by
    simp only [List.map_eq_flatMap]
    exact marks_flatMap_eq htraits fun _ _ _ => by simp
  simp [methodFront, htags, hoperation, isEmpty_getD_eq hdoc, isEmpty_requirements_eq hsecurity]

theorem marks_methodBack_eq
    (h : method.shape Security.shapeWithScopes = method'.shape Security.shapeWithScopes) :
    marks (methodBack method) = marks (methodBack method') := by
  simp only [ResourceMethod.shape, Endpoint.shape, parts.injEq, List.cons.injEq, ofText_inj,
    ofList_inj, ofOption_inj] at h
  obtain ⟨⟨-, -, -, -, hquery, hrequest, hresponse, -, hreturn, -⟩, -⟩ := h
  have hbody : marks (method.endpoint.request.elim [] (body "Request body")) =
      marks (method'.endpoint.request.elim [] (body "Request body")) :=
    marks_elim_eq hrequest fun _ _ => marks_body_eq
  have hqueries : marks (table "Query parameters" (method.endpoint.queryParameters.map
        Row.ofParameter)) =
      marks (table "Query parameters" (method'.endpoint.queryParameters.map Row.ofParameter)) := by
    apply marks_table_eq
    rw [List.map_map, List.map_map]
    exact map_eq_of_map_eq hquery fun _ _ _ => Row.shape_ofParameter_eq
  simp [methodBack, hbody, hqueries, marks_response_eq hreturn hresponse]

theorem marks_method_eq {parameters parameters' : List UriParameter}
    (hparameters : parameters.map UriParameter.shape = parameters'.map UriParameter.shape)
    (h : method.shape Security.shapeWithScopes = method'.shape Security.shapeWithScopes) :
    marks (Html.method path parameters method) = marks (Html.method path' parameters' method') := by
  have huri : marks (table "URI parameters" (parameters.map Row.ofUriParameter)) =
      marks (table "URI parameters" (parameters'.map Row.ofUriParameter)) := by
    apply marks_table_eq
    rw [List.map_map, List.map_map]
    exact map_eq_of_map_eq hparameters fun _ _ _ => Row.shape_ofUriParameter_eq
  have hfront : marks (methodFront path method) = marks (methodFront path' method') :=
    marks_methodFront_eq h
  simp [Html.method, huri, hfront, marks_methodBack_eq h]

end Methods

def Section.shape (entry : Section) : Shape :=
  parts [ofList (ResourceMethod.shape Security.shapeWithScopes) entry.resource.methods,
    ofList UriParameter.shape entry.parameters]

theorem marks_resource_eq {entry entry' : Section} (h : entry.shape = entry'.shape) :
    marks (resource entry) = marks (resource entry') := by
  simp only [Section.shape, parts.injEq, List.cons.injEq, ofList_inj] at h
  obtain ⟨hmethods, hparameters, -⟩ := h
  have hmarks : marks (entry.resource.methods.flatMap
        (Html.method entry.resource.path entry.parameters)) =
      marks (entry'.resource.methods.flatMap
        (Html.method entry'.resource.path entry'.parameters)) :=
    marks_flatMap_eq hmethods fun _ _ => marks_method_eq hparameters
  simp [resource, hmarks]

def waitingShape (waiting : Resource × List UriParameter) : Shape :=
  parts [waiting.1.shape Security.shapeWithScopes, ofList UriParameter.shape waiting.2]

/-- The shapes of the sections depend on the shapes of the resources that wait and on those of the
parameters that are declared above them. -/
theorem map_shape_visit_eq {pending pending' : List (Resource × List UriParameter)}
    (h : pending.map waitingShape = pending'.map waitingShape) :
    (visit pending).map Section.shape = (visit pending').map Section.shape := by
  induction pending using visit.induct generalizing pending' with
  | case1 => rw [List.map_eq_nil_iff.mp h.symm]
  | case2 first pending ih =>
    obtain ⟨first', pending', rfl, hfirst, hrest⟩ := List.map_eq_cons_iff.mp h.symm
    simp only [waitingShape, Resource.shape_eq_parts, parts.injEq, List.cons.injEq, ofList_inj]
      at hfirst
    obtain ⟨⟨-, -, huri, hmethods, hchildren, -⟩, hinherited, -⟩ := hfirst
    have hparameters : (Section.of first').parameters.map UriParameter.shape =
        (Section.of first).parameters.map UriParameter.shape := by
      simp only [Section.of, List.map_append, hinherited, huri]
    have hbelow : (Section.of first').below.map waitingShape =
        (Section.of first).below.map waitingShape := by
      simp only [Section.below, List.map_map]
      refine map_eq_of_map_eq hchildren fun child _ child' hchild => ?_
      simp only [Function.comp_apply, waitingShape, ofList, hchild, hparameters]
    have hsection : (Section.of first').shape = (Section.of first).shape := by
      simp only [Section.shape, ofList, hparameters]
      simp only [Section.of, hmethods]
    have hpending : ((Section.of first).below ++ pending).map waitingShape =
        ((Section.of first').below ++ pending').map waitingShape := by
      rw [List.map_append, List.map_append, hbelow, hrest]
    unfold visit
    rw [List.map_cons, List.map_cons, hsection, ih hpending]

theorem map_shape_sections_eq {view view' : ApiView}
    (h : view.resources.map (Resource.shape Security.shapeWithScopes) =
      view'.resources.map (Resource.shape Security.shapeWithScopes)) :
    (sections view).map Section.shape = (sections view').map Section.shape := by
  apply map_shape_visit_eq
  rw [List.map_map, List.map_map]
  exact map_eq_of_map_eq h fun _ _ _ hshape => by simp [waitingShape, hshape]

theorem marks_traits_eq {tags tags' : List StabilityTrait}
    (h : tags.map (ofText ·.name) = tags'.map (ofText ·.name)) :
    marks (traits tags) = marks (traits tags') := by
  have hempty : tags.isEmpty = tags'.isEmpty := by
    cases tags <;> cases tags' <;> simp_all
  have htags : marks (tags.flatMap fun tag =>
        [classed "dt" "trait" [text tag.name], element "dd" [] [text tag.description], line]) =
      marks (tags'.flatMap fun tag =>
        [classed "dt" "trait" [text tag.name], element "dd" [] [text tag.description], line]) :=
    marks_flatMap_eq h fun _ _ _ => rfl
  simp only [traits, apply_ite marks, hempty]
  simp [htags]

theorem marks_cons_index_eq {entries entries' : List Section} {right right' : List Html}
    (hentries : entries.map Section.shape = entries'.map Section.shape)
    (hright : marks right = marks right') :
    marks (index entries :: right) = marks (index entries' :: right') := by
  have hlinks : marks (entries.flatMap fun entry =>
        [element "li" [] [element "a" [("href", "#" ++ entry.resource.path)]
          [text entry.resource.path]], line]) =
      marks (entries'.flatMap fun entry =>
        [element "li" [] [element "a" [("href", "#" ++ entry.resource.path)]
          [text entry.resource.path]], line]) :=
    marks_flatMap_eq hentries fun _ _ _ => rfl
  simp [index, hlinks, hright]

theorem marks_page_eq {view view' : ApiView}
    (h : view.shape Security.shapeWithScopes = view'.shape Security.shapeWithScopes) :
    marks (page view) = marks (page view') := by
  simp only [ApiView.shape, Resource.shapes_eq_map, parts.injEq, List.cons.injEq, ofText_inj,
    ofList_inj, ofOption_inj] at h
  obtain ⟨-, -, hversion, hbasePath, hdocumentation, hresources, htraits, -⟩ := h
  have hentries := map_shape_sections_eq hresources
  have hdocumented : marks (view.documentation.flatMap documentation) =
      marks (view'.documentation.flatMap documentation) :=
    marks_flatMap_eq hdocumentation fun _ _ _ => rfl
  have hdescribed : marks ((sections view).flatMap resource) =
      marks ((sections view').flatMap resource) :=
    marks_flatMap_eq hentries fun _ _ => marks_resource_eq
  have hindex : marks (index (sections view) :: line ::
        ((sections view).flatMap resource ++ [line])) =
      marks (index (sections view') :: line ::
        ((sections view').flatMap resource ++ [line])) :=
    marks_cons_index_eq hentries (by simp [hdescribed])
  simp [page, head, isEmpty_getD_eq hversion, isEmpty_getD_eq hbasePath, hdocumented,
    marks_traits_eq htraits, hindex]

end Html

end ApiManual
