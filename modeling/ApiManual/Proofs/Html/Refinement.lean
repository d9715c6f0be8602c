import ApiManual.Proofs.Html.Escape
import ApiManual.Proofs.Html.PageTree
import ApiManual.Proofs.TypeNode.Position

/-!
The text that the template makes of a page is that of the tree. The template writes what it is given
as it is, so each text of the view has been escaped once before it gets there, and nothing that is
markup has been escaped.
-/
namespace ApiManual.Html

theorem toList_primitiveHtml (name : String) :
    (primitiveHtml name).toList = (TypeNode.primitiveMarkup name).print := by
  unfold primitiveHtml
  simp (disch := decide) [TypeNode.primitiveMarkup, openTag, closeTag, escapeText_eq_self]

theorem toList_fieldsHtml {fields : List (String × TypeNode)}
    (h : ∀ field ∈ fields, (typeHtml field.2).toList = printAll field.2.markup) :
    (fieldsHtml fields).toList = printAll (TypeNode.fieldsMarkup fields) := by
  induction fields with
  | nil => rfl
  | cons field rest ih =>
    rw [List.forall_mem_cons] at h
    unfold fieldsHtml
    simp (disch := decide) [TypeNode.fieldsMarkup, openTag, closeTag, escapeText_eq_self, h.1,
      ih h.2]

theorem toList_typeHtml (type : TypeNode) : (typeHtml type).toList = printAll type.markup := by
  induction type using TypeNode.tree_induction with
  | primitive name =>
    unfold typeHtml
    simp [TypeNode.markup, toList_primitiveHtml]
  | object name fields ih =>
    unfold typeHtml
    simp (disch := decide) [TypeNode.markup, toList_fieldsHtml ih, openTag, closeTag,
      escapeText_eq_self]
  | container kind element ih =>
    unfold typeHtml
    simp (disch := decide) [TypeNode.markup, ih, escapeText_phrase, openTag, closeTag,
      escapeText_eq_self]
  | enumeration name literals =>
    unfold typeHtml
    simp (disch := decide) [TypeNode.markup, openTag, closeTag, escapeText_eq_self]
  | reference target path =>
    unfold typeHtml
    simp (disch := decide) [TypeNode.markup, openTag, closeTag, escapeText_eq_self]

theorem toList_typeHtmlOr (type : Option TypeNode) :
    (typeHtmlOr type).toList = printAll (TypeNode.markupOr type) := by
  cases type with
  | none => simp [typeHtmlOr, TypeNode.markupOr, toList_primitiveHtml]
  | some type => exact toList_typeHtml type

theorem truthy_typeHtml (type : TypeNode) : truthy (some (typeHtml type)) = true := by
  have hne : typeHtml type ≠ "" := by
    intro hempty
    have hmarkup := toList_typeHtml type
    rw [hempty] at hmarkup
    cases type <;> simp [TypeNode.markup, TypeNode.primitiveMarkup, openTag] at hmarkup
  simpa [truthy] using hne

section Branches

variable {text : Option String} {content : String} {branch : String → String}
  {make : String → List Html}

theorem truthy_eq (text : Option String) : truthy text = !(text.getD "").isEmpty := by
  cases text <;> rfl

theorem getD_map_escapeHtml (text : Option String) :
    (text.map escapeHtml).getD "" = escapeHtml (text.getD "") := by
  cases text <;> rfl

theorem getD_escapeOpt (text : Option String) :
    (escapeOpt text).getD "" = escapeHtml (text.getD "") := by
  rw [escapeOpt, getD_map_escapeHtml, filled?]
  cases text with
  | none => rfl
  | some content => by_cases hempty : content = "" <;> simp [Option.filter, hempty]

theorem getD_allowedHtml (values : Option (List String)) :
    (allowedHtml values).getD "" = escapeHtml (", ".intercalate (values.getD [])) := by
  match values with
  | none => rfl
  | some [] => rfl
  | some (_ :: _) => rfl

theorem toList_whenText (htext : text.getD "" = escapeHtml content)
    (hbranch : (branch (escapeHtml content)).toList = printAll (make content)) :
    (whenText text branch).toList = printAll (unlessEmpty content make) := by
  rw [whenText, truthy_eq, unlessEmpty, htext, isEmpty_escapeHtml]
  cases content.isEmpty with
  | true => rfl
  | false => exact hbranch

theorem toList_whenText_typeHtml (type : Option TypeNode) {make : TypeNode → List Html}
    (hbranch : ∀ type, (branch (typeHtml type)).toList = printAll (make type)) :
    (whenText (type.map typeHtml) branch).toList = printAll (type.elim [] make) := by
  cases type with
  | none => rfl
  | some type =>
    rw [Option.map_some, whenText, truthy_typeHtml]
    exact hbranch type

theorem toList_forItems_map {α β : Type} (items : List α) (escaped : α → β) {body : β → String}
    {make : α → List Html} (h : ∀ item, (body (escaped item)).toList = printAll (make item)) :
    (forItems (items.map escaped) body).toList = printAll (items.flatMap make) := by
  simp [forItems, String.toList_join, List.flatMap_map, h]

end Branches

def Row.written (parameter : Row) : ParamRow where
  name := escapeHtml parameter.name
  type := typeHtmlOr parameter.type
  description := escapeOpt parameter.description
  allowed := allowedHtml parameter.allowedValues
  required := parameter.required

theorem toList_queryHtml (parameter : Row) :
    parameter.written.queryHtml.toList = printAll (row parameter) := by
  have hmark : (optionalMark parameter.required).toList =
      printAll (if parameter.required then []
        else [text " ", element "em" [] [text "(optional)"]]) := by
    cases parameter.required with
    | true => rfl
    | false => decide
  have hdescription : (whenText parameter.written.description id).toList =
      printAll (unlessAbsent parameter.description fun description => [text description]) :=
    toList_whenText (getD_escapeOpt _) (by simp)
  have hallowed : (whenText parameter.written.allowed fun allowed =>
        " <span class=\"allowed\">One of: " ++ allowed ++ "</span>").toList =
      printAll (unlessEmpty (", ".intercalate (parameter.allowedValues.getD [])) fun values =>
        [text " ", classed "span" "allowed" [text ("One of: " ++ values)]]) := by
    refine toList_whenText (getD_allowedHtml _) ?_
    simp (disch := decide) [openTag, closeTag, escapeText_eq_self]
  unfold ParamRow.queryHtml ParamRow.html
  simp (disch := decide) only [String.toList_append, hdescription, hallowed]
  simp (disch := decide) [Row.written, row, hmark, toList_typeHtmlOr, openTag, closeTag,
    escapeText_eq_self]

theorem toList_tableHtml {title : String} (htitle : escapeText title = title.toList) {α : Type}
    (items : List α) (rowOf : α → Row) {written : α → ParamRow} {rowHtml : ParamRow → String}
    (hrow : ∀ item, (rowHtml (written item)).toList = printAll (row (rowOf item))) :
    (tableHtml title (items.map written) rowHtml).toList =
      printAll (table title (items.map rowOf)) := by
  have hrows : (forItems (items.map written) rowHtml).toList =
      printAll ((items.map rowOf).flatMap row) := by
    rw [List.flatMap_map]
    exact toList_forItems_map items written hrow
  unfold tableHtml whenItems
  rw [table, List.isEmpty_map, List.isEmpty_map]
  cases items.isEmpty with
  | true => rfl
  | false =>
    simp only [Bool.false_eq_true, if_false, String.toList_append, hrows]
    simp (disch := decide) [htitle, openTag, closeTag, escapeText_eq_self]

theorem toList_bodyHtml {title : String} (htitle : escapeText title = title.toList)
    (type : Option TypeNode) :
    (bodyHtml title (type.map typeHtml)).toList = printAll (type.elim [] (body title)) := by
  refine toList_whenText_typeHtml type fun type => ?_
  simp (disch := decide) [body, htitle, toList_typeHtml, openTag, closeTag, escapeText_eq_self]

theorem toList_responseHtml (returnDoc : Option String) (type : Option TypeNode) :
    (responseHtml (escapeOpt returnDoc) (type.map typeHtml)).toList =
      printAll (response returnDoc type) := by
  have hdoc : (whenText (escapeOpt returnDoc) fun doc =>
        "<p class=\"return-doc\">" ++ doc ++ "</p>").toList =
      printAll (unlessAbsent returnDoc fun doc => [classed "p" "return-doc" [text doc]]) := by
    refine toList_whenText (getD_escapeOpt _) ?_
    simp (disch := decide) [openTag, closeTag, escapeText_eq_self]
  have htype : (whenText (type.map typeHtml) fun type =>
        "<div class=\"body\">" ++ type ++ "</div>").toList =
      printAll (type.elim [] fun type => [classed "div" "body" type.markup]) := by
    refine toList_whenText_typeHtml type fun type => ?_
    simp (disch := decide) [toList_typeHtml, openTag, closeTag, escapeText_eq_self]
  have hcondition : (truthy (type.map typeHtml) || truthy (escapeOpt returnDoc)) =
      !(type.isNone && (returnDoc.getD "").isEmpty) := by
    rw [truthy_eq (escapeOpt returnDoc), getD_escapeOpt, isEmpty_escapeHtml, Bool.not_and]
    cases type with
    | none => rfl
    | some type => simp [truthy_typeHtml]
  unfold responseHtml
  rw [hcondition, response]
  cases type.isNone && (returnDoc.getD "").isEmpty with
  | true => rfl
  | false =>
    simp only [Bool.not_false, Bool.false_eq_true, if_true, if_false, String.toList_append, hdoc,
      htype]
    simp (disch := decide) [openTag, closeTag, escapeText_eq_self]

theorem escapeText_methodName (method : HttpMethod) :
    escapeText method.name = method.name.toList := by
  cases method <;> decide

theorem toList_tagsHtml (tags : List StabilityTrait) :
    (forItems (tags.map (escapeHtml ·.name)) fun tag =>
      "<span class=\"trait\">" ++ tag ++ "</span>").toList =
      printAll (tags.flatMap fun tag => [classed "span" "trait" [text tag.name]]) := by
  refine toList_forItems_map _ _ fun tag => ?_
  simp (disch := decide) [openTag, closeTag, escapeText_eq_self]

theorem toList_operationHtml (operation : String) :
    (whenText (some (escapeHtml operation)) fun operation =>
      "<p class=\"operation\"><code>" ++ operation ++ "</code></p>").toList =
      printAll (unlessEmpty operation fun operation =>
        [classed "p" "operation" [element "code" [] [text operation]]]) := by
  refine toList_whenText rfl ?_
  simp (disch := decide) [openTag, closeTag, escapeText_eq_self]

theorem toList_docHtml (doc : Option String) :
    (whenText (escapeOpt doc) fun doc => "<div class=\"doc\">" ++ doc ++ "</div>").toList =
      printAll (unlessAbsent doc fun doc => [classed "div" "doc" [text doc]]) := by
  refine toList_whenText (getD_escapeOpt _) ?_
  simp (disch := decide) [openTag, closeTag, escapeText_eq_self]

theorem toList_securityHtml (security : Option Security) :
    (whenText (security.map (escapeHtml <| requirement ·)) fun security =>
      "<p class=\"security\">Requires " ++ security ++ "</p>").toList =
      printAll (unlessEmpty ((security.map requirement).getD "") fun requirement =>
        [classed "p" "security" [text ("Requires " ++ requirement)]]) := by
  have hwritten : security.map (escapeHtml <| requirement ·) =
      (security.map requirement).map escapeHtml := by
    rw [Option.map_map]
    rfl
  rw [hwritten]
  refine toList_whenText (getD_map_escapeHtml _) ?_
  simp (disch := decide) [openTag, closeTag, escapeText_eq_self]

theorem toList_html_method (path : String) (parameters : List UriParameter)
    (m : ResourceMethod) :
    ((MethodSection.of path parameters m).html (escapeHtml path)).toList =
      printAll (method path parameters m) := by
  have htags := toList_tagsHtml m.traits
  have hoperation := toList_operationHtml m.endpoint.operation
  have hdoc := toList_docHtml m.endpoint.doc
  have hsecurity := toList_securityHtml m.endpoint.security
  have huri : (tableHtml "URI parameters" (parameters.map ParamRow.ofUriParameter)
        ParamRow.uriHtml).toList =
      printAll (table "URI parameters" (parameters.map Row.ofUriParameter)) :=
    toList_tableHtml (by decide) parameters Row.ofUriParameter fun parameter =>
      toList_queryHtml (.ofUriParameter parameter)
  have hquery : (tableHtml "Query parameters"
        (m.endpoint.queryParameters.map ParamRow.ofParameter) ParamRow.queryHtml).toList =
      printAll (table "Query parameters" (m.endpoint.queryParameters.map Row.ofParameter)) :=
    toList_tableHtml (by decide) m.endpoint.queryParameters Row.ofParameter fun parameter =>
      toList_queryHtml (.ofParameter parameter)
  have hrequest : (bodyHtml "Request body" (m.endpoint.request.map typeHtml)).toList =
      printAll (m.endpoint.request.elim [] (body "Request body")) :=
    toList_bodyHtml (by decide) m.endpoint.request
  have hresponse := toList_responseHtml m.endpoint.returnDoc m.endpoint.response
  unfold MethodSection.html MethodSection.of
  simp only [String.toList_append, htags, hoperation, hdoc, hsecurity, huri, hquery, hrequest,
    hresponse]
  simp (disch := decide) [method, methodFront, methodBack, List.map_eq_flatMap,
    escapeText_methodName, openTag, closeTag, escapeText_eq_self]

theorem toList_html_resource (entry : Section) :
    (ResourceSection.of entry).html.toList = printAll (resource entry) := by
  have hmethods : (forItems (ResourceSection.of entry).methods
        (·.html (ResourceSection.of entry).path)).toList =
      printAll (entry.resource.methods.flatMap (method entry.resource.path entry.parameters)) :=
    toList_forItems_map _ _ (toList_html_method _ _)
  unfold ResourceSection.html
  simp only [String.toList_append, hmethods]
  simp (disch := decide) [ResourceSection.of, resource, openTag, closeTag, escapeText_eq_self]

theorem toList_html_documentation (item : DocumentationItem) :
    (DocSection.of item).html.toList = printAll (documentation item) := by
  unfold DocSection.html
  simp (disch := decide) [DocSection.of, documentation, openTag, closeTag, escapeText_eq_self]

theorem toList_traitsHtml (tags : List StabilityTrait) :
    (traitsHtml (tags.map .of)).toList = printAll (traits tags) := by
  have htags : (forItems (tags.map TraitRow.of) fun tag =>
        "<dt class=\"trait\">" ++ tag.name ++ "</dt><dd>" ++ tag.description ++ "</dd>\n").toList =
      printAll (tags.flatMap fun tag =>
        [classed "dt" "trait" [text tag.name], element "dd" [] [text tag.description], line]) := by
    refine toList_forItems_map _ _ fun tag => ?_
    simp (disch := decide) [TraitRow.of, openTag, closeTag, escapeText_eq_self]
  unfold traitsHtml whenItems
  rw [traits, List.isEmpty_map]
  cases tags.isEmpty with
  | true => rfl
  | false =>
    simp only [Bool.false_eq_true, if_false, String.toList_append, htags]
    simp (disch := decide) [openTag, closeTag, escapeText_eq_self]

theorem toList_indexHtml (entries : List Section) :
    (indexHtml (entries.map .of)).toList = printAll [index entries, line] := by
  have hlinks : (forItems (entries.map ResourceSection.of) fun resource =>
        "<li><a href=\"#" ++ resource.path ++ "\">" ++ resource.path ++ "</a></li>\n").toList =
      printAll (entries.flatMap fun entry =>
        [element "li" [] [element "a" [("href", "#" ++ entry.resource.path)]
          [text entry.resource.path]], line]) := by
    refine toList_forItems_map _ _ fun entry => ?_
    simp (disch := decide) [ResourceSection.of, openTag, closeTag, escapeText_eq_self]
  unfold indexHtml
  simp only [String.toList_append, hlinks]
  simp (disch := decide) [index, openTag, closeTag, escapeText_eq_self]

theorem escapeText_style : escapeText style = style.toList := by
  have hfront : escapeText styleFront = styleFront.toList :=
    escapeText_ofList_eq (by unfold styleFront; rfl) (by decide +kernel)
  have hmiddle : escapeText styleMiddle = styleMiddle.toList :=
    escapeText_ofList_eq (by unfold styleMiddle; rfl) (by decide +kernel)
  have hback : escapeText styleBack = styleBack.toList :=
    escapeText_ofList_eq (by unfold styleBack; rfl) (by decide +kernel)
  rw [style, escapeText_append, escapeText_append, hfront, hmiddle, hback, String.toList_append,
    String.toList_append]

theorem toList_style_element {rules : String} (h : escapeText rules = rules.toList) :
    ("<style>" ++ rules ++ "</style>").toList = (element "style" [] [text rules]).print := by
  simp [openTag, closeTag, h]

theorem toList_styleHtml : styleHtml.toList = (element "style" [] [text style]).print :=
  toList_style_element escapeText_style

theorem toList_headHtml (view : ApiView) : (Page.of view).headHtml.toList = (head view).print := by
  have hversion : (whenText (Page.of view).version (" " ++ ·)).toList =
      printAll (unlessAbsent view.version fun version => [text (" " ++ version)]) := by
    refine toList_whenText (getD_escapeOpt _) ?_
    simp (disch := decide) [escapeText_eq_self]
  unfold Page.headHtml head
  simp only [String.toList_append, hversion, toList_styleHtml]
  generalize element "style" [] [text style] = rules
  simp (disch := decide) [Page.of, openTag, closeTag, escapeText_eq_self]

/-- What the template makes of the escaped texts of a view is its page. -/
theorem pageHtml_eq_documentText (view : ApiView) : pageHtml view = documentText (page view) := by
  have hversion : (whenText (Page.of view).version fun version =>
        "<p class=\"api-version\">Version " ++ version ++ "</p>").toList =
      printAll (unlessAbsent view.version fun version =>
        [classed "p" "api-version" [text ("Version " ++ version)]]) := by
    refine toList_whenText (getD_escapeOpt _) ?_
    simp (disch := decide) [openTag, closeTag, escapeText_eq_self]
  have hbase : (whenText (Page.of view).basePath fun path =>
        "<p class=\"api-base\">Base path <code>" ++ path ++ "</code></p>").toList =
      printAll (unlessAbsent view.basePath fun path =>
        [classed "p" "api-base" [text "Base path ", element "code" [] [text path]]]) := by
    refine toList_whenText (getD_escapeOpt _) ?_
    simp (disch := decide) [openTag, closeTag, escapeText_eq_self]
  have hdocumentation : (forItems (Page.of view).documentation DocSection.html).toList =
      printAll (view.documentation.flatMap documentation) :=
    toList_forItems_map _ _ toList_html_documentation
  have htraits : (traitsHtml (Page.of view).traits).toList = printAll (traits view.traits) :=
    toList_traitsHtml view.traits
  have hindex : (indexHtml (Page.of view).resources).toList =
      printAll [index (sections view), line] := toList_indexHtml (sections view)
  have hresources : (forItems (Page.of view).resources ResourceSection.html).toList =
      printAll ((sections view).flatMap resource) :=
    toList_forItems_map _ _ toList_html_resource
  apply String.toList_inj.mp
  unfold pageHtml Page.html documentText
  rw [String.toList_ofList]
  simp only [String.toList_append, toList_headHtml, hversion, hbase, hdocumentation, htraits,
    hindex, hresources]
  simp (disch := decide) [Page.of, page, openTag, closeTag, escapeText_eq_self]

end ApiManual.Html
