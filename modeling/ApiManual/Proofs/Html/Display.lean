import ApiManual.Proofs.Html.Escape
import ApiManual.Proofs.Html.Pieces
import ApiManual.Proofs.TypeNode.Position

/-!
What is shown of written markup: its text without the tags, and a character wherever the name of one
is written. A type is shown in words, around which the markup does not matter.
-/
namespace ApiManual

namespace TypeNode

mutual

def inWords : TypeNode → String
  | primitive name => name
  | object name fields => name ++ " \x7b" ++ fieldsInWords fields ++ "\x7d"
  | container kind element => kind.phrase ++ " " ++ element.inWords
  | enumeration _ literals => " | ".intercalate literals
  | reference target _ => "↺ " ++ target

def fieldsInWords : List (String × TypeNode) → String
  | [] => ""
  | (name, type) :: rest => name ++ ": " ++ type.inWords ++ fieldsInWords rest

end

end TypeNode

namespace Html

/-- A text without its tags. A reader who is inside one passes over what is left of it. -/
def untagged (inside : Bool) : List Char → List Char
  | [] => []
  | c :: rest =>
    if inside then untagged (c ≠ '>') rest
    else if c = '<' then untagged true rest
    else c :: untagged false rest

def shown (written : List Char) : List Char := unescape (untagged false written)

/-- What is shown behind the tag that a reader is in. -/
def shownBehind (written : List Char) : List Char := unescape (untagged true written)

def displayed (written : String) : String := String.ofList (shown written.toList)

section

variable (rest : List Char)

theorem shown_nil : shown [] = [] := by rw [shown, untagged, unescape]

theorem shown_open : shown ('<' :: rest) = shownBehind rest := rfl

theorem shownBehind_close : shownBehind ('>' :: rest) = shown rest := rfl

theorem shown_loop :
    shown ('&' :: '#' :: 'x' :: '2' :: '1' :: 'b' :: 'a' :: ';' :: rest) = '↺' :: shown rest := rfl

theorem shown_cons {c : Char} (hc : ¬ IsDelimiter c) (hamp : c ≠ '&') :
    shown (c :: rest) = c :: shown rest := by
  rw [shown, untagged, if_neg Bool.false_ne_true, if_neg (hc <| .inl ·),
    unescape_cons_of_ne hamp, shown]

theorem shownBehind_cons {c : Char} (hc : c ≠ '>') :
    shownBehind (c :: rest) = shownBehind rest := by
  rw [shownBehind, untagged, if_pos rfl, decide_eq_true hc, shownBehind]

theorem untagged_append {text : List Char} (h : Undelimited text) :
    untagged false (text ++ rest) = text ++ untagged false rest := by
  induction text with
  | nil => rfl
  | cons c text ih =>
    obtain ⟨hc, htext⟩ := undelimited_cons.mp h
    rw [List.cons_append, untagged, if_neg Bool.false_ne_true, if_neg (hc <| .inl ·), ih htext,
      List.cons_append]

theorem shown_escapeText_append (text : String) :
    shown (escapeText text ++ rest) = text.toList ++ shown rest := by
  rw [shown, untagged_append rest (safe_escapeText text), unescape_escapeText_append, shown]

theorem shownBehind_append {text : List Char} (h : Undelimited text) :
    shownBehind (text ++ rest) = shownBehind rest := by
  induction text with
  | nil => rfl
  | cons c text ih =>
    obtain ⟨hc, htext⟩ := undelimited_cons.mp h
    rw [List.cons_append, shownBehind_cons _ (hc <| .inr <| .inl ·), ih htext]

end

/-- A piece of markup is shown as a text, whatever follows it. -/
def ShownAs (markup text : String) : Prop :=
  ∀ rest, shown (markup.toList ++ rest) = text.toList ++ shown rest

theorem ShownAs.displayed_eq {markup text : String} (h : ShownAs markup text) :
    displayed markup = text := by
  have hshown := h []
  rw [shown_nil, List.append_nil, List.append_nil] at hshown
  rw [displayed, hshown, String.ofList_toList]

theorem shownAs_escapeHtml (text : String) : ShownAs (escapeHtml text) text := by
  intro rest
  rw [toList_escapeHtml, shown_escapeText_append]

theorem shownAs_primitiveHtml (name : String) : ShownAs (primitiveHtml name) name := by
  intro rest
  unfold primitiveHtml
  simp (disch := decide) [shown_open, shownBehind_cons, shownBehind_close, shown_escapeText_append]

theorem shownAs_fieldsHtml {fields : List (String × TypeNode)}
    (h : ∀ field ∈ fields, ShownAs (typeHtml field.2) field.2.inWords) :
    ShownAs (fieldsHtml fields) (TypeNode.fieldsInWords fields) := by
  intro rest
  induction fields with
  | nil => rfl
  | cons field fields ih =>
    rw [List.forall_mem_cons] at h
    unfold fieldsHtml TypeNode.fieldsInWords
    simp (disch := decide) [shown_open, shownBehind_cons, shownBehind_close,
      shown_escapeText_append, shown_cons, h.1 _, ih h.2]

theorem shown_phrase_append (kind : ContainerKind) (rest : List Char) :
    shown (kind.phrase.toList ++ rest) = kind.phrase.toList ++ shown rest := by
  rw [← escapeText_phrase, shown_escapeText_append, escapeText_phrase]

theorem shownAs_typeHtml (type : TypeNode) : ShownAs (typeHtml type) type.inWords := by
  induction type using TypeNode.tree_induction with
  | primitive name =>
    unfold typeHtml
    exact shownAs_primitiveHtml name
  | object name fields ih =>
    intro rest
    unfold typeHtml TypeNode.inWords
    simp (disch := decide) [shown_open, shownBehind_cons, shownBehind_close,
      shown_escapeText_append, shown_cons, shownAs_fieldsHtml ih _]
  | container kind element ih =>
    intro rest
    unfold typeHtml TypeNode.inWords
    simp (disch := decide) [shown_open, shownBehind_cons, shownBehind_close, shown_cons,
      shown_phrase_append, ih _]
  | enumeration name literals =>
    intro rest
    unfold typeHtml TypeNode.inWords
    simp (disch := decide) [shown_open, shownBehind_cons, shownBehind_close,
      shownBehind_append _ (safe_escapeText name), shown_escapeText_append]
  | reference target path =>
    intro rest
    unfold typeHtml TypeNode.inWords
    simp (disch := decide) [shown_open, shownBehind_cons, shownBehind_close,
      shown_escapeText_append, shown_loop, shown_cons]

theorem shownAs_typeHtmlOr (type : Option TypeNode) :
    ShownAs (typeHtmlOr type) ((type.map TypeNode.inWords).getD "string") := by
  cases type with
  | none => exact shownAs_primitiveHtml "string"
  | some type => exact shownAs_typeHtml type

end Html

end ApiManual
