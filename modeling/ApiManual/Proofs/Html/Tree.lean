import ApiManual.Html.Escape

/-!
Markup as a tree. Text and the values of attributes are escaped when the tree is written, so no text
can open or close a tag.
-/
namespace ApiManual

inductive Html where
  | element (tag : String) (attributes : List (String × String)) (children : List Html)
  /-- A tag that is never closed. -/
  | void (tag : String) (attributes : List (String × String))
  | text (content : String)
  /-- A character that is written by its name. -/
  | entity (name : String)
  deriving Inhabited

namespace Html

def openTag (tag : String) (attributes : List (String × String)) : List Char :=
  '<' :: tag.toList ++
    attributes.flatMap (fun (name, value) =>
      ' ' :: name.toList ++ '=' :: '"' :: escapeText value ++ ['"']) ++ ['>']

def closeTag (tag : String) : List Char := '<' :: '/' :: tag.toList ++ ['>']

mutual

def print : Html → List Char
  | element tag attributes children =>
    openTag tag attributes ++ (printAll children ++ closeTag tag)
  | void tag attributes => openTag tag attributes
  | text content => escapeText content
  | entity name => '&' :: name.toList ++ [';']

def printAll : List Html → List Char
  | [] => []
  | node :: rest => node.print ++ printAll rest

end

def documentText (nodes : List Html) : String :=
  String.ofList ("<!DOCTYPE html>".toList ++ printAll nodes)

def classed (tag className : String) (children : List Html) : Html :=
  element tag [("class", className)] children

section

variable {tag className content name : String} {attributes : List (String × String)}
  {children : List Html}

@[simp] theorem print_element :
    (element tag attributes children).print =
      openTag tag attributes ++ (printAll children ++ closeTag tag) := by
  rw [print]

@[simp] theorem print_classed :
    (classed tag className children).print =
      openTag tag [("class", className)] ++ (printAll children ++ closeTag tag) := by
  rw [classed, print]

@[simp] theorem print_void : (void tag attributes).print = openTag tag attributes := by
  rw [print]

@[simp] theorem print_text : (text content).print = escapeText content := by
  rw [print]

@[simp] theorem print_entity : (entity name).print = '&' :: name.toList ++ [';'] := by
  rw [print]

@[simp] theorem printAll_nil : printAll [] = [] := by
  rw [printAll]

@[simp] theorem printAll_cons (node : Html) (rest : List Html) :
    printAll (node :: rest) = node.print ++ printAll rest := by
  rw [printAll]

@[simp] theorem printAll_append (left right : List Html) :
    printAll (left ++ right) = printAll left ++ printAll right := by
  induction left with
  | nil => rw [List.nil_append, printAll, List.nil_append]
  | cons node rest ih => rw [List.cons_append, printAll, printAll, ih, List.append_assoc]

@[simp] theorem printAll_flatMap {α : Type} (items : List α) (make : α → List Html) :
    printAll (items.flatMap make) = items.flatMap fun item => printAll (make item) := by
  induction items with
  | nil => rw [List.flatMap_nil, printAll, List.flatMap_nil]
  | cons item rest ih => rw [List.flatMap_cons, printAll_append, ih, List.flatMap_cons]

end

end Html

end ApiManual
