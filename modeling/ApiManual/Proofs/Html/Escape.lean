import ApiManual.Html.TypeMarkup
import Mathlib.Data.List.Basic

/-! What escaping does to a text. It can be read back, so no two texts are escaped alike. -/
namespace ApiManual.Html

theorem escape_ne_nil (c : Char) : escape c ≠ [] := by
  unfold escape
  split_ifs <;> simp

@[simp] theorem escapeText_append (left right : String) :
    escapeText (left ++ right) = escapeText left ++ escapeText right := by
  simp [escapeText]

theorem escapeText_eq_nil {text : String} : escapeText text = [] ↔ text = "" := by
  rw [escapeText, List.flatMap_eq_nil_iff, ← String.toList_eq_nil_iff]
  constructor
  · exact fun h => List.eq_nil_iff_forall_not_mem.mpr fun c hc => escape_ne_nil c (h c hc)
  · rintro h c hc
    rw [h] at hc
    exact absurd hc List.not_mem_nil

/-- The condition is a test, so that it is decided by a run over the text. -/
theorem escapeText_eq_self {text : String} (h : text.toList.all fun c => escape c = [c]) :
    escapeText text = text.toList := by
  have hsame : text.toList.flatMap escape = text.toList.flatMap fun c => [c] :=
    List.flatMap_congr fun c hc => of_decide_eq_true (List.all_eq_true.mp h c hc)
  rw [escapeText, hsame, List.flatMap_singleton']

/-- The characters of a long literal are found by unification, which is faster than to compute them.
-/
theorem escapeText_ofList_eq {text : String} {chars : List Char}
    (htext : text = String.ofList chars) (h : chars.all fun c => escape c = [c]) :
    escapeText text = text.toList := by
  apply escapeText_eq_self
  rwa [htext, String.toList_ofList]

theorem escapeText_phrase (kind : ContainerKind) : escapeText kind.phrase = kind.phrase.toList := by
  cases kind <;> decide

@[simp] theorem toList_escapeHtml (text : String) : (escapeHtml text).toList = escapeText text :=
  String.toList_ofList

theorem escapeHtml_eq_empty {text : String} : escapeHtml text = "" ↔ text = "" := by
  rw [← String.toList_eq_nil_iff, toList_escapeHtml, escapeText_eq_nil]

theorem isEmpty_escapeHtml (text : String) : (escapeHtml text).isEmpty = text.isEmpty := by
  rw [Bool.eq_iff_iff, String.isEmpty_iff, String.isEmpty_iff, escapeHtml_eq_empty]

/-- The characters that are shown where their names are written. -/
def unescape : List Char → List Char
  | '&' :: 'a' :: 'm' :: 'p' :: ';' :: rest => '&' :: unescape rest
  | '&' :: 'l' :: 't' :: ';' :: rest => '<' :: unescape rest
  | '&' :: 'g' :: 't' :: ';' :: rest => '>' :: unescape rest
  | '&' :: 'q' :: 'u' :: 'o' :: 't' :: ';' :: rest => '"' :: unescape rest
  | '&' :: '#' :: 'x' :: '2' :: '7' :: ';' :: rest => '\'' :: unescape rest
  | '&' :: '#' :: 'x' :: '2' :: '1' :: 'b' :: 'a' :: ';' :: rest => '↺' :: unescape rest
  | c :: rest => c :: unescape rest
  | [] => []

theorem unescape_cons_of_ne {c : Char} (h : c ≠ '&') (rest : List Char) :
    unescape (c :: rest) = c :: unescape rest := by
  rw [unescape] <;> exact fun _ hc => absurd hc h

theorem unescape_escape_append (c : Char) (rest : List Char) :
    unescape (escape c ++ rest) = c :: unescape rest := by
  unfold escape
  split_ifs with hamp hlt hgt hquote hapostrophe
  · subst hamp; simp [unescape]
  · subst hlt; simp [unescape]
  · subst hgt; simp [unescape]
  · subst hquote; simp [unescape]
  · subst hapostrophe; simp [unescape]
  · exact unescape_cons_of_ne hamp rest

theorem unescape_escapeText_append (text : String) (rest : List Char) :
    unescape (escapeText text ++ rest) = text.toList ++ unescape rest := by
  rw [escapeText]
  induction text.toList with
  | nil => rfl
  | cons c text ih =>
    rw [List.flatMap_cons, List.append_assoc, unescape_escape_append, ih, List.cons_append]

theorem unescape_escapeText (text : String) : unescape (escapeText text) = text.toList := by
  have htext := unescape_escapeText_append text []
  rwa [unescape, List.append_nil, List.append_nil] at htext

theorem escapeText_injective : Function.Injective escapeText := by
  intro first second h
  have hshown := congrArg unescape h
  rw [unescape_escapeText, unescape_escapeText] at hshown
  exact String.toList_inj.mp hshown

end ApiManual.Html
