import ApiManual.Proofs.Html.Refinement
import Mathlib.Data.List.Basic

/-!
What a page lists, found by looking for its elements: the sections of resources, in them those of
methods, and in these the rows of the table of URI parameters. A page is read from its tree; names
and values are those that are written, escaped as they are in the text.
-/
namespace ApiManual.Html

/-- The children of an element with a tag and a class, if the node is one. -/
def content? (tag : String) (className : Option String) : Html → Option (List Html)
  | element name attributes children =>
    if name = tag ∧ attributes.lookup "class" = className then some children else none
  | _ => none

def contents (tag : String) (className : Option String) (nodes : List Html) : List (List Html) :=
  nodes.filterMap (content? tag className)

def anchor? : Html → Option String
  | element "a" attributes _ => attributes.lookup "id"
  | _ => none

def anchors (tag : String) (nodes : List Html) : List String :=
  ((contents tag none nodes).head?.getD []).filterMap anchor?

def isHeading (title : String) : Html → Bool
  | element "h4" _ [text content] => content = title
  | _ => false

def rowsUnder (title : String) (nodes : List Html) : List (List Html) :=
  let tables := contents "table" (some "params") (nodes.dropWhile (!isHeading title ·))
  contents "tr" none (tables.head?.getD [])

def cell? : Html → Option (List Html)
  | element "td" _ children => some children
  | _ => none

/-- A parameter as a row of a page shows it. -/
structure ListedParameter where
  name : List Char
  type : List Char
  description : Option (List Char)
  allowed : Option (List Char)

structure ListedMethod where
  anchors : List String
  parameters : List ListedParameter

structure ListedResource where
  anchors : List String
  methods : List ListedMethod

def described? : List Html → Option Html
  | [node] => some node
  | [node, _, _] => some node
  | _ => none

def readParameter? (row : List Html) : Option ListedParameter :=
  match row.filterMap cell? with
  | [name, type, note] => some {
      name := printAll name
      type := printAll type
      description := (described? note).map print
      allowed := (contents "span" (some "allowed") note).head?.map printAll }
  | _ => none

def readMethod (nodes : List Html) : ListedMethod where
  anchors := anchors "h3" nodes
  parameters := (rowsUnder "URI parameters" nodes).filterMap readParameter?

def readResource (nodes : List Html) : ListedResource where
  anchors := anchors "h2" nodes
  methods := (contents "div" (some "method") nodes).map readMethod

def readPage (nodes : List Html) : List ListedResource :=
  (((contents "html" none nodes).flatMap (contents "body" none)).flatMap
    (contents "section" (some "resource"))).map readResource

section

variable {tag : String} {className : Option String}

@[simp] theorem contents_nil : contents tag className [] = [] := rfl

@[simp] theorem contents_append (left right : List Html) :
    contents tag className (left ++ right) =
      contents tag className left ++ contents tag className right :=
  List.filterMap_append

@[simp] theorem contents_cons (node : Html) (rest : List Html) :
    contents tag className (node :: rest) =
      (content? tag className node).toList ++ contents tag className rest := by
  rw [contents, List.filterMap_cons]
  cases content? tag className node <;> rfl

theorem contents_flatMap {α : Type} (items : List α) (nodes : α → List Html) :
    contents tag className (items.flatMap nodes) =
      items.flatMap fun item => contents tag className (nodes item) :=
  List.filterMap_flatMap

@[simp] theorem content?_element {name : String} {attributes : List (String × String)}
    {children : List Html} : content? tag className (element name attributes children) =
      if name = tag ∧ attributes.lookup "class" = className then some children else none := rfl

@[simp] theorem content?_classed {name className' : String} {children : List Html} :
    content? tag className (classed name className' children) =
      if name = tag ∧ some className' = className then some children else none := rfl

@[simp] theorem content?_text {content : String} : content? tag className (text content) = none :=
  rfl

@[simp] theorem content?_line : content? tag className line = none := rfl

theorem contents_unlessEmpty {content : String} {make : String → List Html}
    (h : ∀ content, contents tag className (make content) = []) :
    contents tag className (unlessEmpty content make) = [] := by
  rw [unlessEmpty]
  split
  · rfl
  · exact h content

end

/-- A row as it is read from the page. Allowed values are left out if there is nothing to read. -/
def listed (row : ParamRow) : ListedParameter where
  name := row.name.toList
  type := row.type.toList
  description := row.description.map String.toList
  allowed := (filled? row.allowed).map fun values => ("One of: " ++ values).toList

theorem unlessEmpty_eq (content : String) (make : String → List Html) :
    unlessEmpty content make = (filled? (some content)).elim [] make := by
  by_cases hempty : content = ""
  · simp [unlessEmpty, filled?, Option.filter, hempty]
  · simp [unlessEmpty, filled?, Option.filter, hempty]

theorem unlessAbsent_eq (content : Option String) (make : String → List Html) :
    unlessAbsent content make = (filled? content).elim [] make := by
  cases content with
  | none => rfl
  | some content => exact unlessEmpty_eq content make

theorem unlessEmpty_intercalate (values : Option (List String)) (make : String → List Html) :
    unlessEmpty (", ".intercalate (values.getD [])) make =
      (filled? (values.map (", ".intercalate ·))).elim [] make := by
  rw [← unlessAbsent_eq]
  cases values <;> rfl

def note (description allowed : Option String) : List Html :=
  description.elim [] (fun description => [text description]) ++
    allowed.elim [] fun values =>
      [text " ", classed "span" "allowed" [text ("One of: " ++ values)]]

theorem described?_note (description allowed : Option String) :
    (described? (note description allowed)).map print = description.map escapeText := by
  cases description <;> cases allowed <;> rfl

theorem allowed_note (description allowed : Option String) :
    (contents "span" (some "allowed") (note description allowed)).head?.map printAll =
      allowed.map fun values => escapeText ("One of: " ++ values) := by
  cases description <;> cases allowed <;> simp [note, printAll, print]

theorem contents_row (parameter : UriParameter) :
    contents "tr" none (row (Row.ofUriParameter parameter)) = [[
      classed "td" "param-name" [text parameter.name],
      element "td" [] (TypeNode.markupOr parameter.type),
      element "td" [] (note (filled? parameter.description)
        (filled? (parameter.allowedValues.map (", ".intercalate ·))))]] := by
  simp only [row, Row.ofUriParameter, unlessAbsent_eq, unlessEmpty_intercalate, note]
  simp

theorem filled?_map_escapeHtml (text : Option String) :
    filled? (text.map escapeHtml) = (filled? text).map escapeHtml := by
  cases text with
  | none => rfl
  | some content =>
    by_cases h : content = "" <;> simp [filled?, Option.filter, escapeHtml_eq_empty, h]

theorem filled?_allowedHtml (values : Option (List String)) :
    filled? (allowedHtml values) = (filled? (values.map (", ".intercalate ·))).map escapeHtml := by
  match values with
  | none => rfl
  | some [] => rfl
  | some (first :: rest) => exact filled?_map_escapeHtml (some (", ".intercalate (first :: rest)))

theorem listed_ofUriParameter (parameter : UriParameter) :
    listed (.ofUriParameter parameter) = {
      name := escapeText parameter.name
      type := printAll (TypeNode.markupOr parameter.type)
      description := (filled? parameter.description).map escapeText
      allowed := (filled? (parameter.allowedValues.map (", ".intercalate ·))).map fun values =>
        escapeText ("One of: " ++ values) } := by
  simp (disch := decide) [listed, ParamRow.ofUriParameter, toList_typeHtmlOr, escapeOpt,
    filled?_allowedHtml, Function.comp_def, escapeText_eq_self]

theorem readParameter?_row (parameter : UriParameter) :
    (contents "tr" none (row (Row.ofUriParameter parameter))).filterMap readParameter? =
      [listed (.ofUriParameter parameter)] := by
  have hname : printAll [text parameter.name] = escapeText parameter.name := by simp
  rw [contents_row, List.filterMap_cons, List.filterMap_nil, listed_ofUriParameter]
  simp only [readParameter?, cell?, classed, List.filterMap_cons, List.filterMap_nil,
    described?_note, allowed_note, hname]

theorem rowsUnder_append {title : String} {front : List Html}
    (h : front.any (isHeading title) = false) (rest : List Html) :
    rowsUnder title (front ++ rest) = rowsUnder title rest := by
  have hfront : ∀ node ∈ front, (!isHeading title node) = true := by
    intro node hnode
    rw [Bool.not_eq_true', ← Bool.not_eq_true]
    exact List.any_eq_false.mp h node hnode
  rw [rowsUnder, List.dropWhile_append_of_pos hfront]
  rfl

theorem rowsUnder_table (title : String) {rows : List Row} (h : rows ≠ []) (rest : List Html) :
    rowsUnder title (table title rows ++ rest) =
      [element "th" [] [text "Name"], element "th" [] [text "Type"],
        element "th" [] [text "Description"]] ::
        rows.flatMap fun entry => contents "tr" none (row entry) := by
  have hrows : rows.isEmpty = false := by simpa using h
  have htable : table title rows = [line, element "h4" [] [text title]] ++ [line,
      classed "table" "params" (line :: element "tr" []
        [element "th" [] [text "Name"], element "th" [] [text "Type"],
          element "th" [] [text "Description"]] :: line :: rows.flatMap row), line] := by
    rw [table, hrows]
    rfl
  rw [htable, rowsUnder]
  simp [isHeading, line, contents_flatMap]

theorem rowsUnder_of_not_any {title : String} {nodes : List Html}
    (h : nodes.any (isHeading title) = false) : rowsUnder title nodes = [] := by
  rw [← List.append_nil nodes, rowsUnder_append h]
  rfl

theorem readParameters_table (title : String) {front back : List Html}
    (hfront : front.any (isHeading title) = false) (hback : back.any (isHeading title) = false)
    (parameters : List UriParameter) :
    (rowsUnder title (front ++ (table title (parameters.map Row.ofUriParameter) ++ back))).filterMap
        readParameter? = parameters.map (listed <| .ofUriParameter ·) := by
  rw [rowsUnder_append hfront]
  by_cases hempty : parameters = []
  · rw [hempty]
    exact congrArg (List.filterMap readParameter?) (rowsUnder_of_not_any hback)
  · have hheader : readParameter? [element "th" [] [text "Name"], element "th" [] [text "Type"],
        element "th" [] [text "Description"]] = none := rfl
    rw [rowsUnder_table title (by simpa using hempty), List.filterMap_cons, hheader,
      List.flatMap_map, List.filterMap_flatMap]
    simp only [readParameter?_row, List.map_eq_flatMap]

section

variable {title : String}

theorem any_isHeading_unlessEmpty {content : String} {make : String → List Html}
    (h : ∀ content, (make content).any (isHeading title) = false) :
    (unlessEmpty content make).any (isHeading title) = false := by
  rw [unlessEmpty]
  split
  · rfl
  · exact h content

theorem any_isHeading_body {other : String} (hother : other ≠ title) (type : TypeNode) :
    (body other type).any (isHeading title) = false := by
  simp [body, isHeading, line, classed, hother]

theorem any_isHeading_table {other : String} (hother : other ≠ title) (rows : List Row) :
    (table other rows).any (isHeading title) = false := by
  rw [table]
  split
  · rfl
  · simp [isHeading, line, classed, hother]

theorem any_isHeading_response (hother : "Response" ≠ title) (returnDoc : Option String)
    (type : Option TypeNode) : (response returnDoc type).any (isHeading title) = false := by
  have hheading :
      [line, element "h4" [] [text "Response"], line].any (isHeading title) = false := by
    simp [isHeading, line, hother]
  have hdoc : (unlessAbsent returnDoc fun doc => [classed "p" "return-doc" [text doc]]).any
      (isHeading title) = false := any_isHeading_unlessEmpty fun _ => rfl
  have htype : (type.elim [] fun type => [classed "div" "body" type.markup]).any
      (isHeading title) = false := by cases type <;> rfl
  have hline : [line].any (isHeading title) = false := rfl
  rw [response]
  split
  · rfl
  · simp only [List.any_append, hheading, hdoc, htype, hline, Bool.or_false]

end

section Methods

variable (path : String) (m : ResourceMethod)

theorem any_isHeading_methodFront :
    (methodFront path m).any (isHeading "URI parameters") = false := by
  have hoperation : (unlessEmpty m.endpoint.operation fun operation =>
      [classed "p" "operation" [element "code" [] [text operation]]]).any
      (isHeading "URI parameters") = false := any_isHeading_unlessEmpty fun _ => rfl
  have hdoc : (unlessAbsent m.endpoint.doc fun doc => [classed "div" "doc" [text doc]]).any
      (isHeading "URI parameters") = false := any_isHeading_unlessEmpty fun _ => rfl
  have hsecurity : (unlessEmpty ((m.endpoint.security.map requirement).getD "") fun requirement =>
      [classed "p" "security" [text ("Requires " ++ requirement)]]).any
      (isHeading "URI parameters") = false := any_isHeading_unlessEmpty fun _ => rfl
  simp [methodFront, isHeading, line, hoperation, hdoc, hsecurity]

theorem any_isHeading_methodBack : (methodBack m).any (isHeading "URI parameters") = false := by
  have hquery : (table "Query parameters" (m.endpoint.queryParameters.map Row.ofParameter)).any
      (isHeading "URI parameters") = false := any_isHeading_table (by decide) _
  have hrequest : (m.endpoint.request.elim [] (body "Request body")).any
      (isHeading "URI parameters") = false := by
    cases m.endpoint.request with
    | none => rfl
    | some type => exact any_isHeading_body (by decide) type
  have hresponse : (response m.endpoint.returnDoc m.endpoint.response).any
      (isHeading "URI parameters") = false := any_isHeading_response (by decide) _ _
  simp only [methodBack, List.any_cons, List.any_append, hquery, hrequest, hresponse]
  rfl

theorem anchors_methodFront_append (rest : List Html) :
    anchors "h3" (methodFront path m ++ rest) = [anchor path m.endpoint.method] := by
  simp [anchors, methodFront, anchor?, classed]

theorem readMethod_method (parameters : List UriParameter) :
    (contents "div" (some "method") (method path parameters m)).map readMethod =
      [⟨[anchor path m.endpoint.method], parameters.map (listed <| .ofUriParameter ·)⟩] := by
  have hcontents : contents "div" (some "method") (method path parameters m) =
      [methodFront path m ++
        (table "URI parameters" (parameters.map Row.ofUriParameter) ++ methodBack m)] := by
    simp [method]
  rw [hcontents, List.map_singleton, readMethod, anchors_methodFront_append,
    readParameters_table _ (any_isHeading_methodFront path m) (any_isHeading_methodBack m)]

end Methods

/-- What the page shows of a resource and its methods. -/
def listing (entry : Section) : ListedResource where
  anchors := [entry.resource.path]
  methods := entry.resource.methods.map fun m =>
    ⟨[anchor entry.resource.path m.endpoint.method],
      entry.parameters.map (listed <| .ofUriParameter ·)⟩

theorem readResource_resource (entry : Section) :
    (contents "section" (some "resource") (resource entry)).map readResource = [listing entry] := by
  have hmethods : ∀ methods : List ResourceMethod,
      (contents "div" (some "method") (methods.flatMap
        (method entry.resource.path entry.parameters))).map readMethod =
        methods.map fun m =>
          ⟨[anchor entry.resource.path m.endpoint.method],
            entry.parameters.map (listed <| .ofUriParameter ·)⟩ := by
    intro methods
    rw [contents_flatMap, List.map_flatMap, List.map_eq_flatMap]
    simp only [readMethod_method]
  simp [resource, readResource, listing, anchors, anchor?, ← hmethods]

theorem readPage_page (view : ApiView) :
    readPage (page view) = (sections view).map listing := by
  have hversion : contents "section" (some "resource") (unlessAbsent view.version fun version =>
      [classed "p" "api-version" [text ("Version " ++ version)]]) = [] :=
    contents_unlessEmpty fun _ => by simp
  have hbase : contents "section" (some "resource") (unlessAbsent view.basePath fun path =>
      [classed "p" "api-base" [text "Base path ", element "code" [] [text path]]]) = [] :=
    contents_unlessEmpty fun _ => by simp
  have hdocumentation : contents "section" (some "resource")
      (view.documentation.flatMap documentation) = [] := by
    rw [contents_flatMap, List.flatMap_eq_nil_iff]
    intro item _
    simp [documentation]
  have htraits : contents "section" (some "resource") (traits view.traits) = [] := by
    rw [traits]
    split <;> simp
  have hresources : (contents "section" (some "resource")
      ((sections view).flatMap resource)).map readResource =
      (sections view).map listing := by
    rw [contents_flatMap, List.map_flatMap, List.map_eq_flatMap]
    simp only [readResource_resource]
  simp [readPage, page, head, index, hversion, hbase, hdocumentation, htraits, hresources]

end ApiManual.Html
