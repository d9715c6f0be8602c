import ApiManual.Proofs.Html.Refinement
import ApiManual.Proofs.Html.Shape
import ApiManual.Render

/-!
What a rendered page owes to the texts of its view. They reach it as contents and never as marks, so
views of one shape give pages with the same tags.
-/
namespace ApiManual.Html

open Shape

def documentPieces (view : ApiView) : List Piece := .mark doctype :: piecesAll (page view)

theorem pageHtml_eq_pieces (view : ApiView) :
    pageHtml view = String.ofList (Piece.printAll escapeText (documentPieces view)) := by
  rw [pageHtml_eq_documentText, documentPieces, Piece.printAll_cons, printAll_piecesAll]
  rfl

/-- A mark is made of names of the vocabulary, and a content holds no delimiter when it is written.
-/
def Piece.Inert : Piece → Prop
  | mark written => FixedMark written
  | content source => Undelimited (escapeText source)

theorem inert_of_mem_documentPieces {view : ApiView} {piece : Piece}
    (h : piece ∈ documentPieces view) : piece.Inert := by
  cases piece with
  | content source => exact safe_escapeText source
  | mark written =>
    rcases List.mem_cons.mp h with heq | hmem
    · cases heq
      exact .doctype
    · exact fixedMark_of_mem_marks (page view) (wellFormedAll_page view) (mem_marks.mpr hmem)

def documentMarks (view : ApiView) : List String := (documentPieces view).filterMap Piece.mark?

theorem documentMarks_eq_of_shape_eq {view view' : ApiView}
    (h : view.shape Security.shapeWithScopes = view'.shape Security.shapeWithScopes) :
    documentMarks view = documentMarks view' :=
  congrArg (doctype :: ·) (marks_page_eq h)

/-- The tags are found whatever is written for the contents. -/
theorem tagsFrom_documentPieces {write : String → List Char} (hwrite : Safe write)
    (view : ApiView) :
    tagsFrom .outside (Piece.printAll write (documentPieces view)) =
      "!DOCTYPE html".toList :: tagsAll (page view) := by
  have hprinted : Piece.printAll write (documentPieces view) =
      '<' :: ("!DOCTYPE html".toList ++
        '>' :: (Piece.printAll write (piecesAll (page view)) ++ [])) := by
    rw [List.append_nil]
    rfl
  rw [hprinted, tagsFrom, if_pos rfl, tagsFrom_inside _ (by decide), tagsFrom, if_pos rfl,
    tagsFrom_piecesAll hwrite (page view) (wellFormedAll_page view), tagsFrom, List.append_nil,
    List.nil_append]

theorem tagsOf_pageHtml (view : ApiView) :
    tagsOf (pageHtml view) = "!DOCTYPE html".toList :: tagsAll (page view) := by
  rw [pageHtml_eq_pieces, tagsOf, String.toList_ofList, tagsFrom_documentPieces safe_escapeText]

theorem tagsOf_pageHtml_eq_of_marks (view : ApiView) :
    tagsOf (pageHtml view) = tagsFrom .outside ((documentMarks view).flatMap String.toList) := by
  rw [tagsOf_pageHtml, documentMarks, ← Piece.printAll_nil_eq, tagsFrom_documentPieces safe_nil]

theorem nestedFrom_doctype (opened rest : List (List Char)) :
    nestedFrom opened ("!DOCTYPE html".toList :: rest) = nestedFrom opened rest := by
  rw [nestedFrom, if_neg (by decide), if_pos (by decide)]

theorem nested_tagsOf_pageHtml (view : ApiView) : nested (tagsOf (pageHtml view)) = true := by
  have htags := nestedFrom_tagsAll (page view) (wellFormedAll_page view) [] []
  rw [List.append_nil] at htags
  rw [tagsOf_pageHtml, nested, nestedFrom_doctype, htags]
  rfl

/-- What is rendered is the page as a tree, so it consists of fixed marks and of contents without
delimiters. Its tags are nested, and views of one shape, with scopes asked for alike where the
scheme is empty, give pages with the same marks and the same tags. -/
theorem html_page_inert (view : ApiView) :
    Renderer.html.render view = .ok (pageHtml view) ∧
    pageHtml view = documentText (page view) ∧
    pageHtml view = String.ofList (Piece.printAll escapeText (documentPieces view)) ∧
    (∀ piece ∈ documentPieces view, piece.Inert) ∧
    nested (tagsOf (pageHtml view)) = true ∧
    ∀ other : ApiView,
      other.shape Security.shapeWithScopes = view.shape Security.shapeWithScopes →
        documentMarks other = documentMarks view ∧
        tagsOf (pageHtml other) = tagsOf (pageHtml view) := by
  refine ⟨rfl, pageHtml_eq_documentText view, pageHtml_eq_pieces view,
    fun _ => inert_of_mem_documentPieces, nested_tagsOf_pageHtml view, fun other h => ?_⟩
  have hmarks := documentMarks_eq_of_shape_eq h
  refine ⟨hmarks, ?_⟩
  rw [tagsOf_pageHtml_eq_of_marks, tagsOf_pageHtml_eq_of_marks, hmarks]

/-- A view with one method, whose security requirement has no scheme and one list of values. -/
def stall (title listName : String) : ApiView where
  id := some title
  title := title
  version := none
  basePath := none
  documentation := []
  resources := [{
    path := "/stamps"
    relativePath := "/stamps"
    uriParameters := []
    methods := [{
      endpoint := {
        method := .get
        paths := ["/stamps"]
        security := some { scheme := "", parameters := [(listName, ["read"])] } }
      traits := []
      origin := "kiosk" }]
    children := [] }]
  traits := []
  securitySchemes := []
  origins := ["kiosk"]

theorem html_page_inert_stall :
    (stall "<b title=\"\">" "scopes").shape Security.shapeWithScopes =
        (stall "stamps" "scopes").shape Security.shapeWithScopes ∧
      tagsOf (pageHtml (stall "<b title=\"\">" "scopes")) =
        tagsOf (pageHtml (stall "stamps" "scopes")) := by
  have htitle : "<b title=\"\">".isEmpty = "stamps".isEmpty := by decide
  have hshape : (stall "<b title=\"\">" "scopes").shape Security.shapeWithScopes =
      (stall "stamps" "scopes").shape Security.shapeWithScopes := by
    simp [stall, ApiView.shape, htitle]
  exact ⟨hshape, ((html_page_inert (stall "stamps" "scopes")).2.2.2.2.2 _ hshape).2⟩

/-- The names of lists of values are texts, so the shape does not tell which list holds the scopes.
-/
theorem shape_stall_eq :
    (stall "stamps" "scopes").shape Security.shape =
      (stall "stamps" "realms").shape Security.shape := by
  have hname : "scopes".isEmpty = "realms".isEmpty := by decide
  simp [stall, ApiView.shape, Resource.shapes, Resource.shape, ResourceMethod.shape,
    Endpoint.shape, Security.shape, hname]

theorem not_tagsOf_eq_of_shape_eq :
    ¬ ∀ view other : ApiView, view.shape Security.shape = other.shape Security.shape →
      tagsOf (pageHtml view) = tagsOf (pageHtml other) := by
  intro h
  have htags := h _ _ shape_stall_eq
  rw [tagsOf_pageHtml, tagsOf_pageHtml] at htags
  exact absurd htags (by decide +kernel)

end ApiManual.Html
