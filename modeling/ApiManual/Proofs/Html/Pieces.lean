import ApiManual.Proofs.Html.Tree
import Mathlib.Data.List.Basic

/-!
Printed markup as marks and contents. A mark is written as it is, while a content, which is a text
or the value of an attribute, is escaped. Where all names come from a fixed vocabulary, so do all
marks.
-/
namespace ApiManual.Html

/-- The characters that open and close tags and the values of attributes. -/
def IsDelimiter (c : Char) : Prop := c = '<' ∨ c = '>' ∨ c = '"'

instance : DecidablePred IsDelimiter := fun c =>
  inferInstanceAs (Decidable (c = '<' ∨ c = '>' ∨ c = '"'))

def Undelimited (text : List Char) : Prop := ∀ c ∈ text, ¬ IsDelimiter c

-- the members of the list are tried, not all characters
instance (text : List Char) : Decidable (Undelimited text) := List.decidableBAll _ text

theorem undelimited_cons {c : Char} {text : List Char} :
    Undelimited (c :: text) ↔ ¬ IsDelimiter c ∧ Undelimited text :=
  List.forall_mem_cons

theorem undelimited_append {left right : List Char} :
    Undelimited (left ++ right) ↔ Undelimited left ∧ Undelimited right :=
  List.forall_mem_append

/-- A way to write contents that leaves no delimiter in them. -/
def Safe (write : String → List Char) : Prop := ∀ content, Undelimited (write content)

theorem undelimited_escape (c : Char) : Undelimited (escape c) := by
  unfold escape
  split_ifs with hamp hlt hgt hquote hapostrophe
  · decide
  · decide
  · decide
  · decide
  · decide
  · exact undelimited_cons.mpr ⟨fun hc => hc.elim hlt (·.elim hgt hquote), nofun⟩

theorem safe_escapeText : Safe escapeText := by
  intro content d hd
  obtain ⟨c, -, hd⟩ := List.mem_flatMap.mp hd
  exact undelimited_escape c d hd

theorem safe_nil : Safe fun _ => [] := nofun

inductive Piece where
  | mark (written : String)
  | content (source : String)
  deriving DecidableEq, Repr

namespace Piece

def print (write : String → List Char) : Piece → List Char
  | mark written => written.toList
  | content source => write source

def printAll (write : String → List Char) (pieces : List Piece) : List Char :=
  pieces.flatMap (print write)

def mark? : Piece → Option String
  | mark written => some written
  | content _ => none

@[simp] theorem printAll_cons (write : String → List Char) (piece : Piece) (rest : List Piece) :
    printAll write (piece :: rest) = piece.print write ++ printAll write rest := rfl

@[simp] theorem printAll_append (write : String → List Char) (left right : List Piece) :
    printAll write (left ++ right) = printAll write left ++ printAll write right :=
  List.flatMap_append

@[simp] theorem printAll_nil (write : String → List Char) : printAll write [] = [] := rfl

/-- Without their contents, pieces print as their marks. -/
theorem printAll_nil_eq (pieces : List Piece) :
    printAll (fun _ => []) pieces = (pieces.filterMap mark?).flatMap String.toList := by
  induction pieces with
  | nil => rfl
  | cons piece rest ih =>
    rw [printAll_cons, ih]
    cases piece <;> rfl

end Piece

def attributePieces (entry : String × String) : List Piece :=
  [.mark (" " ++ entry.1 ++ "=\""), .content entry.2, .mark "\""]

def openPieces (tag : String) (attributes : List (String × String)) : List Piece :=
  .mark ("<" ++ tag) :: attributes.flatMap attributePieces ++ [.mark ">"]

def closePiece (tag : String) : Piece := .mark ("</" ++ tag ++ ">")

mutual

def pieces : Html → List Piece
  | element tag attributes children =>
    openPieces tag attributes ++ (piecesAll children ++ [closePiece tag])
  | void tag attributes => openPieces tag attributes
  | text content => [.content content]
  | entity name => [.mark ("&" ++ name ++ ";")]

def piecesAll : List Html → List Piece
  | [] => []
  | node :: rest => node.pieces ++ piecesAll rest

end

theorem printAll_openPieces (tag : String) (attributes : List (String × String)) :
    Piece.printAll escapeText (openPieces tag attributes) = openTag tag attributes := by
  have hentry : ∀ entry : String × String,
      (attributePieces entry).flatMap (Piece.print escapeText) =
        ' ' :: entry.1.toList ++ '=' :: '"' :: escapeText entry.2 ++ ['"'] := by
    intro entry
    simp [attributePieces, Piece.print]
  simp only [Piece.printAll, openPieces, openTag, List.flatMap_cons, List.flatMap_append,
    List.flatMap_assoc, hentry]
  simp [Piece.print]

mutual

theorem printAll_pieces (node : Html) : Piece.printAll escapeText node.pieces = node.print := by
  match node with
  | element tag attributes children =>
    simp [pieces, print, printAll_openPieces, printAll_piecesAll children, closePiece, closeTag,
      Piece.print]
  | void tag attributes => rw [pieces, print, printAll_openPieces]
  | text content => simp [pieces, print, Piece.print]
  | entity name => simp [pieces, print, Piece.print]

theorem printAll_piecesAll (nodes : List Html) :
    Piece.printAll escapeText (piecesAll nodes) = printAll nodes := by
  match nodes with
  | [] => rfl
  | node :: rest =>
    rw [piecesAll, printAll, Piece.printAll_append, printAll_pieces node, printAll_piecesAll rest]

end

theorem piecesAll_eq_flatMap (nodes : List Html) : piecesAll nodes = nodes.flatMap pieces := by
  induction nodes with
  | nil => rfl
  | cons node rest ih => rw [piecesAll, ih, List.flatMap_cons]

/-- What a list of nodes is printed as besides its contents. -/
def marks (nodes : List Html) : List String := (piecesAll nodes).filterMap Piece.mark?

section Marks

variable {tag content : String} {attributes : List (String × String)}
  {children left right : List Html}

theorem mem_marks {nodes : List Html} {mark : String} :
    mark ∈ marks nodes ↔ Piece.mark mark ∈ piecesAll nodes := by
  rw [marks, List.mem_filterMap]
  constructor
  · rintro ⟨piece, hmem, hmark⟩
    cases piece with
    | mark written => exact Option.some.inj hmark ▸ hmem
    | content source => cases hmark
  · exact fun hmem => ⟨_, hmem, rfl⟩

@[simp] theorem marks_nil : marks [] = [] := rfl

@[simp] theorem marks_append : marks (left ++ right) = marks left ++ marks right := by
  simp [marks, piecesAll_eq_flatMap]

@[simp] theorem marks_cons_text : marks (text content :: right) = marks right := rfl

theorem filterMap_openPieces :
    (openPieces tag attributes).filterMap Piece.mark? =
      ("<" ++ tag) :: (attributes.map (·.1)).flatMap (fun name => [" " ++ name ++ "=\"", "\""]) ++
        [">"] := by
  have hentry : ∀ entry : String × String, (attributePieces entry).filterMap Piece.mark? =
      [" " ++ entry.1 ++ "=\"", "\""] := fun _ => rfl
  simp [openPieces, List.filterMap_flatMap, List.flatMap_map, hentry, Piece.mark?]

@[simp] theorem marks_cons_void :
    marks (void tag attributes :: right) =
      ("<" ++ tag) :: (attributes.map (·.1)).flatMap (fun name => [" " ++ name ++ "=\"", "\""]) ++
        [">"] ++ marks right := by
  simp [marks, piecesAll, pieces, filterMap_openPieces]

@[simp] theorem marks_cons_element :
    marks (element tag attributes children :: right) =
      ("<" ++ tag) :: (attributes.map (·.1)).flatMap (fun name => [" " ++ name ++ "=\"", "\""]) ++
        [">"] ++ marks children ++ ["</" ++ tag ++ ">"] ++ marks right := by
  simp [marks, piecesAll, pieces, filterMap_openPieces, closePiece, Piece.mark?]

theorem marks_flatMap {α : Type} (items : List α) (f : α → List Html) :
    marks (items.flatMap f) = items.flatMap fun item => marks (f item) := by
  induction items with
  | nil => rfl
  | cons item rest ih => rw [List.flatMap_cons, marks_append, ih, List.flatMap_cons]

end Marks

def elementNames : List String :=
  ["html", "head", "title", "style", "body", "h1", "h2", "h3", "h4", "p", "code", "section", "div",
    "dl", "dt", "dd", "nav", "ul", "li", "a", "span", "em", "table", "tr", "th", "td"]

def voidNames : List String := ["meta"]

def attributeNames : List String := ["lang", "charset", "class", "href", "id", "title"]

def entityNames : List String := ["#x21ba"]

def doctype : String := "<!DOCTYPE html>"

/-- A mark that is made of names of the vocabulary. -/
inductive FixedMark : String → Prop
  | doctype : FixedMark doctype
  | openElement {name : String} (h : name ∈ elementNames) : FixedMark ("<" ++ name)
  | closeElement {name : String} (h : name ∈ elementNames) : FixedMark ("</" ++ name ++ ">")
  | openVoid {name : String} (h : name ∈ voidNames) : FixedMark ("<" ++ name)
  | openValue {name : String} (h : name ∈ attributeNames) : FixedMark (" " ++ name ++ "=\"")
  | closeValue : FixedMark "\""
  | endTag : FixedMark ">"
  | entity {name : String} (h : name ∈ entityNames) : FixedMark ("&" ++ name ++ ";")

mutual

def wellFormed : Html → Bool
  | element tag attributes children =>
    elementNames.contains tag && attributes.all (attributeNames.contains ·.1) &&
      wellFormedAll children
  | void tag attributes =>
    voidNames.contains tag && attributes.all (attributeNames.contains ·.1)
  | text _ => true
  | entity name => entityNames.contains name

def wellFormedAll : List Html → Bool
  | [] => true
  | node :: rest => node.wellFormed && wellFormedAll rest

end

theorem wellFormed_element {tag : String} {attributes : List (String × String)}
    {children : List Html} :
    (element tag attributes children).wellFormed = true ↔
      tag ∈ elementNames ∧ (∀ name ∈ attributes.map (·.1), name ∈ attributeNames) ∧
        wellFormedAll children = true := by
  simp [wellFormed, and_assoc]

theorem wellFormed_void {tag : String} {attributes : List (String × String)} :
    (void tag attributes).wellFormed = true ↔
      tag ∈ voidNames ∧ ∀ name ∈ attributes.map (·.1), name ∈ attributeNames := by
  simp [wellFormed]

@[simp] theorem wellFormedAll_append {left right : List Html} :
    wellFormedAll (left ++ right) = (wellFormedAll left && wellFormedAll right) := by
  induction left with
  | nil => rfl
  | cons node rest ih => simp only [List.cons_append, wellFormedAll, ih, Bool.and_assoc]

@[simp] theorem wellFormedAll_flatMap {α : Type} {items : List α} {f : α → List Html} :
    wellFormedAll (items.flatMap f) = true ↔ ∀ item ∈ items, wellFormedAll (f item) = true := by
  induction items with
  | nil => simp [wellFormedAll]
  | cons item rest ih => simp [ih]

@[simp] theorem wellFormedAll_map {α : Type} {items : List α} {f : α → Html} :
    wellFormedAll (items.map f) = true ↔ ∀ item ∈ items, (f item).wellFormed = true := by
  induction items with
  | nil => simp [wellFormedAll]
  | cons item rest ih => simp [wellFormedAll, ih]

theorem fixedMark_of_mem_openPieces {tag mark : String} {attributes : List (String × String)}
    (htag : FixedMark ("<" ++ tag)) (hnames : ∀ name ∈ attributes.map (·.1), name ∈ attributeNames)
    (h : mark ∈ (openPieces tag attributes).filterMap Piece.mark?) : FixedMark mark := by
  rw [filterMap_openPieces, List.mem_append, List.mem_cons, List.mem_flatMap] at h
  rcases h with (rfl | ⟨name, hname, h⟩) | h
  · exact htag
  · rcases List.mem_cons.mp h with rfl | h
    · exact .openValue (hnames name hname)
    · rw [List.mem_singleton.mp h]
      exact .closeValue
  · rw [List.mem_singleton.mp h]
    exact .endTag

mutual

theorem fixedMark_of_mem_pieces (node : Html) (hnode : node.wellFormed = true) {mark : String}
    (h : mark ∈ node.pieces.filterMap Piece.mark?) : FixedMark mark := by
  match node with
  | element tag attributes children =>
    obtain ⟨htag, hnames, hchildren⟩ := wellFormed_element.mp hnode
    rw [pieces, List.filterMap_append, List.filterMap_append, List.mem_append, List.mem_append] at h
    rcases h with h | h | h
    · exact fixedMark_of_mem_openPieces (.openElement htag) hnames h
    · exact fixedMark_of_mem_marks children hchildren h
    · rw [List.mem_singleton.mp h]
      exact .closeElement htag
  | void tag attributes =>
    obtain ⟨htag, hnames⟩ := wellFormed_void.mp hnode
    exact fixedMark_of_mem_openPieces (.openVoid htag) hnames h
  | text content => exact absurd h List.not_mem_nil
  | entity name =>
    rw [List.mem_singleton.mp h]
    exact .entity (List.contains_iff_mem.mp hnode)

theorem fixedMark_of_mem_marks (nodes : List Html) (hnodes : wellFormedAll nodes = true)
    {mark : String} (h : mark ∈ marks nodes) : FixedMark mark := by
  match nodes with
  | [] => exact absurd h List.not_mem_nil
  | node :: rest =>
    obtain ⟨hnode, hrest⟩ := (Bool.and_eq_true _ _).to_iff.mp hnodes
    rw [marks, piecesAll, List.filterMap_append, List.mem_append] at h
    exact h.elim (fixedMark_of_mem_pieces node hnode) (fixedMark_of_mem_marks rest hrest)

end

end ApiManual.Html
