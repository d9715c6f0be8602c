import ApiManual.Proofs.UriPath.NormalForm
import Mathlib.Data.List.Chain
import Mathlib.Data.List.Infix
import Mathlib.Data.List.TakeWhile

/-!
URI templates as they are written: literals and tokens, constraints whose braces balance, and any
number of slashes between two segments. The normal form keeps exactly the literals and the names,
and the names are found in it where they are written.
-/
namespace ApiManual

namespace UriPath

/-- The text closes all braces that it opens and, besides them, this many that are open before
it. -/
structure Balanced (depth : Nat) (text : List Char) : Prop where
  nested : ∀ before ∈ text.inits, before.count '}' ≤ before.count '{' + depth
  closed : text.count '}' = text.count '{' + depth

end UriPath

namespace UriTemplate

structure Literal where
  text : List Char
  ne_nil : text ≠ []
  plain : ∀ c ∈ text, c ∉ ['/', '{', '}']

structure Name where
  text : List Char
  filled : ∃ c ∈ text, Text.isBlank c = false
  plain : ∀ c ∈ text, c ∉ ['{', '}', ':', '/']

/-- What the values of a token have to match. -/
structure Constraint where
  text : List Char
  balanced : UriPath.Balanced 0 text

inductive Piece where
  | literal (written : Literal)
  | token (name : Name) (constraint : Option Constraint)

/-- A segment and the number of slashes behind it. -/
structure Segment where
  pieces : List Piece
  ne_nil : pieces ≠ []
  slashes : Nat

end UriTemplate

/-- A template: the number of slashes in front, and segments, each one but the last with a slash
behind it. -/
structure UriTemplate where
  slashes : Nat
  segments : List UriTemplate.Segment
  separated : segments.IsChain fun segment _ => 0 < segment.slashes

namespace UriTemplate

def Piece.text : Piece → List Char
  | literal written => written.text
  | token name none => '{' :: (name.text ++ ['}'])
  | token name (some constraint) => '{' :: (name.text ++ ':' :: (constraint.text ++ ['}']))

def Piece.plainText : Piece → List Char
  | literal written => written.text
  | token name _ => '{' :: (name.text ++ ['}'])

def Piece.name? : Piece → Option Name
  | literal _ => none
  | token name _ => some name

def Name.trimmed (name : Name) : String := String.ofList (Text.trim name.text)

namespace Segment

def text (segment : Segment) : List Char := segment.pieces.flatMap Piece.text

def plainText (segment : Segment) : List Char := segment.pieces.flatMap Piece.plainText

def names (segment : Segment) : List Name := segment.pieces.filterMap Piece.name?

end Segment

def text (template : UriTemplate) : String :=
  String.ofList (List.replicate template.slashes '/' ++
    template.segments.flatMap fun segment => segment.text ++ List.replicate segment.slashes '/')

/-- The segments without constraints, with a slash in front of each one. -/
def path (template : UriTemplate) : String :=
  "/" ++ "/".intercalate (template.segments.map fun segment => String.ofList segment.plainText)

/-- The names, trimmed, each with the index of its segment. -/
def tokens (template : UriTemplate) : List UriPath.Token :=
  template.segments.zipIdx.flatMap fun (segment, index) =>
    segment.names.map fun name => ⟨name.trimmed, index⟩

end UriTemplate

theorem Text.trim_ne_nil {text : List Char} (h : ∃ c ∈ text, isBlank c = false) :
    trim text ≠ [] := by
  obtain ⟨c, hc, hfilled⟩ := h
  have hleft : text.dropWhile isBlank ≠ [] := by
    rw [ne_eq, List.dropWhile_eq_nil_iff]
    exact fun hall => Bool.false_ne_true (hfilled.symm.trans (hall c hc))
  have hhead := List.head_dropWhile_not isBlank hleft
  unfold trim
  rw [ne_eq, List.reverse_eq_nil_iff, List.dropWhile_eq_nil_iff]
  intro hall
  have hblank := hall _ (List.mem_reverse.mpr (List.head_mem hleft))
  rw [hblank] at hhead
  cases hhead

namespace UriPath

theorem Balanced.next {depth : Nat} {c : Char} {text : List Char} (h : Balanced depth (c :: text)) :
    (c = '}' → depth ≠ 0) ∧ Balanced (braceStep depth c) text := by
  have hbelow : ∀ before ∈ text.inits,
      (c :: before).count '}' ≤ (c :: before).count '{' + depth := fun before hbefore =>
    h.nested (c :: before) (by simpa using hbefore)
  have hfirst : c = '}' → depth ≠ 0 := by
    rintro rfl
    have hbrace := hbelow [] (by simp)
    simp at hbrace
    omega
  refine ⟨hfirst, fun before hbefore => ?_, ?_⟩
  · have := hbelow before hbefore
    grind [braceStep]
  · have := h.closed
    grind [braceStep]

/-- A scan that stands in a constraint leaves it out up to the brace that closes the token. -/
theorem withoutConstraints_balanced {depth : Nat} {text : List Char} (h : Balanced depth text)
    (rest : List Char) :
    withoutConstraints (.token depth true) (text ++ rest) =
      withoutConstraints (.token 0 true) rest := by
  induction text generalizing depth with
  | nil =>
    have hdepth : depth = 0 := by simpa using h.closed.symm
    rw [hdepth, List.nil_append]
  | cons c text ih =>
    obtain ⟨hfirst, hnext⟩ := h.next
    have hkeeps : (Scan.token depth true).keeps c = false := by
      cases depth <;> grind [Scan.keeps]
    have hscan : (Scan.token depth true).next c = .token (braceStep depth c) true := by
      cases depth <;> grind [Scan.next, braceStep]
    rw [List.cons_append, withoutConstraints_cons, hkeeps, hscan, ih hnext]
    rfl

theorem withoutConstraints_name {text : List Char} (h : ∀ c ∈ text, c ∉ ['{', '}', ':', '/'])
    (rest : List Char) :
    withoutConstraints (.token 0 false) (text ++ rest) =
      text ++ withoutConstraints (.token 0 false) rest := by
  induction text with
  | nil => rfl
  | cons c text ih =>
    obtain ⟨hc, htext⟩ := List.forall_mem_cons.mp h
    simp only [List.mem_cons, List.not_mem_nil, or_false, not_or] at hc
    obtain ⟨hopen, hclose, hcolon, -⟩ := hc
    simp [withoutConstraints, hopen, hclose, hcolon, ih htext]

/-- What is left of a text outside of tokens, whatever comes behind it. -/
def LeftAs (text plain : List Char) : Prop :=
  ∀ rest, withoutConstraints .literal (text ++ rest) = plain ++ withoutConstraints .literal rest

theorem LeftAs.append {left right left' right' : List Char} (hleft : LeftAs left left')
    (hright : LeftAs right right') : LeftAs (left ++ right) (left' ++ right') := fun rest => by
  rw [List.append_assoc, hleft, hright, List.append_assoc]

theorem LeftAs.flatMap {α : Type} {items : List α} {text plain : α → List Char}
    (h : ∀ item ∈ items, LeftAs (text item) (plain item)) :
    LeftAs (items.flatMap text) (items.flatMap plain) := by
  induction items with
  | nil => exact fun rest => rfl
  | cons item items ih =>
    obtain ⟨hitem, hitems⟩ := List.forall_mem_cons.mp h
    exact hitem.append (ih hitems)

theorem leftAs_self {text : List Char} (h : '{' ∉ text) : LeftAs text text := by
  intro rest
  induction text with
  | nil => rfl
  | cons c text ih =>
    rw [List.mem_cons, not_or] at h
    rw [List.cons_append, withoutConstraints, if_neg (Ne.symm h.1), ih h.2, List.cons_append]

theorem tokenNames_of_not_mem {text : List Char} (h : '{' ∉ text) (rest : List Char) :
    tokenNames none (text ++ rest) = tokenNames none rest := by
  induction text with
  | nil => rfl
  | cons c text ih =>
    rw [List.mem_cons, not_or] at h
    rw [List.cons_append, tokenNames, if_neg (Ne.symm h.1), ih h.2]

theorem tokenNames_pending {text : List Char} (h : '}' ∉ text) (pending rest : List Char) :
    tokenNames (some pending) (text ++ rest) =
      tokenNames (some (text.reverse ++ pending)) rest := by
  induction text generalizing pending with
  | nil => rfl
  | cons c text ih =>
    rw [List.mem_cons, not_or] at h
    rw [List.cons_append, tokenNames, if_neg (Ne.symm h.1), ih h.2, List.reverse_cons,
      List.append_assoc, List.singleton_append]

theorem segments_slashes (count : Nat) (text : List Char) :
    segments (List.replicate count '/' ++ text) = segments text := by
  induction count with
  | zero => rfl
  | succ count ih => rw [List.replicate_succ, List.cons_append, segments_slash_cons, ih]

theorem ofList_ofSegments (parts : List (List Char)) :
    String.ofList (ofSegments parts) = "/" ++ "/".intercalate (parts.map String.ofList) := by
  rw [← String.toList_inj, String.toList_ofList, String.toList_append, String.toList_intercalate,
    List.map_map, ofSegments]
  simp [Function.comp_def]

end UriPath

namespace UriTemplate

open UriPath (LeftAs leftAs_self withoutConstraints)

theorem Literal.not_mem (written : Literal) {c : Char} (hc : c ∈ ['/', '{', '}']) :
    c ∉ written.text := fun hmem => written.plain c hmem hc

theorem Name.not_mem (name : Name) {c : Char} (hc : c ∈ ['{', '}', ':', '/']) : c ∉ name.text :=
  fun hmem => name.plain c hmem hc

theorem Piece.leftAs (piece : Piece) : LeftAs piece.text piece.plainText := by
  cases piece with
  | literal written => exact leftAs_self (written.not_mem (by simp))
  | token name constraint =>
    intro rest
    have hopen : ∀ text, withoutConstraints .literal ('{' :: text) =
        '{' :: withoutConstraints (.token 0 false) text := fun _ => rfl
    have hcolon : ∀ text, withoutConstraints (.token 0 false) (':' :: text) =
        withoutConstraints (.token 0 true) text := fun _ => rfl
    have hclose : ∀ constrained, withoutConstraints (.token 0 constrained) ('}' :: rest) =
        '}' :: withoutConstraints .literal rest := fun _ => rfl
    have hname := UriPath.withoutConstraints_name name.plain
    cases constraint with
    | none => simp [text, plainText, hopen, hclose, hname]
    | some constraint =>
      have hconstraint := UriPath.withoutConstraints_balanced constraint.balanced
      simp [text, plainText, hopen, hcolon, hclose, hname, hconstraint]

def plainText (template : UriTemplate) : List Char :=
  List.replicate template.slashes '/' ++ template.segments.flatMap fun segment =>
    segment.plainText ++ List.replicate segment.slashes '/'

theorem withoutConstraints_text (template : UriTemplate) :
    withoutConstraints .literal template.text.toList = template.plainText := by
  have hslashes : ∀ count, LeftAs (List.replicate count '/') (List.replicate count '/') :=
    fun count => leftAs_self (by simp)
  have hsegment : ∀ segment ∈ template.segments,
      LeftAs (segment.text ++ List.replicate segment.slashes '/')
        (segment.plainText ++ List.replicate segment.slashes '/') := fun segment _ =>
    (LeftAs.flatMap fun piece _ => piece.leftAs).append (hslashes segment.slashes)
  have hleft := (hslashes template.slashes).append (LeftAs.flatMap hsegment) []
  rw [List.append_nil, withoutConstraints, List.append_nil] at hleft
  rw [text, String.toList_ofList, hleft, plainText]

theorem Piece.plainText_clean (piece : Piece) : piece.plainText ≠ [] ∧ '/' ∉ piece.plainText := by
  cases piece with
  | literal written => exact ⟨written.ne_nil, written.not_mem (by simp)⟩
  | token name constraint =>
    have hname : '/' ∉ name.text := name.not_mem (by simp)
    simp [plainText, hname]

theorem Segment.plainText_clean (segment : Segment) :
    segment.plainText ≠ [] ∧ '/' ∉ segment.plainText := by
  unfold plainText
  constructor
  · obtain ⟨piece, hpiece⟩ := List.exists_mem_of_ne_nil _ segment.ne_nil
    rw [ne_eq, List.flatMap_eq_nil_iff]
    exact fun h => piece.plainText_clean.1 (h piece hpiece)
  · rw [List.mem_flatMap]
    rintro ⟨piece, -, hmem⟩
    exact piece.plainText_clean.2 hmem

theorem segments_flatMap {written : List Segment}
    (separated : written.IsChain fun segment _ => 0 < segment.slashes) :
    UriPath.segments (written.flatMap fun segment =>
        segment.plainText ++ List.replicate segment.slashes '/') =
      written.map Segment.plainText := by
  induction written with
  | nil => rfl
  | cons segment rest ih =>
    obtain ⟨hne, hslash⟩ := segment.plainText_clean
    have hown := UriPath.segments_of_not_mem hne hslash
    rw [List.flatMap_cons, List.map_cons]
    cases hslashes : segment.slashes with
    | zero =>
      -- only the last segment may have no slash behind it
      cases rest with
      | nil => simpa using hown
      | cons next others =>
        have hpositive := (List.isChain_cons_cons.mp separated).1
        omega
    | succ count =>
      rw [List.append_assoc, List.replicate_succ, List.cons_append, UriPath.segments_append_slash,
        UriPath.segments_slashes, hown, ih separated.tail, List.singleton_append]

theorem segments_plainText (template : UriTemplate) :
    UriPath.segments template.plainText = template.segments.map Segment.plainText := by
  rw [plainText, UriPath.segments_slashes, segments_flatMap template.separated]

theorem tokenNames_piece (piece : Piece) (rest : List Char) :
    UriPath.tokenNames none (piece.plainText ++ rest) =
      (piece.name?.map fun name => Text.trim name.text).toList ++ UriPath.tokenNames none rest := by
  cases piece with
  | literal written =>
    exact UriPath.tokenNames_of_not_mem (written.not_mem (by simp)) rest
  | token name constraint =>
    have hclose : '}' ∉ name.text := name.not_mem (by simp)
    have hfilled := Text.trim_ne_nil name.filled
    simp [Piece.plainText, Piece.name?, UriPath.tokenNames, UriPath.tokenNames_pending hclose,
      hfilled]

theorem tokenNames_plainText (segment : Segment) :
    UriPath.tokenNames none segment.plainText =
      segment.names.map fun name => Text.trim name.text := by
  unfold Segment.plainText Segment.names
  induction segment.pieces with
  | nil => rfl
  | cons piece pieces ih =>
    rw [List.flatMap_cons, tokenNames_piece, ih, List.filterMap_cons]
    cases piece.name? <;> rfl

theorem tokensFrom_plainText (first : Nat) (written : List Segment) :
    (UriPath.tokensFrom first (written.map Segment.plainText)).map
        (fun (name, position) => (⟨String.ofList name, position⟩ : UriPath.Token)) =
      (written.zipIdx first).flatMap fun (segment, index) =>
        segment.names.map fun name => ⟨name.trimmed, index⟩ := by
  induction written generalizing first with
  | nil => rfl
  | cons segment rest ih =>
    rw [List.map_cons, UriPath.tokensFrom, List.map_append, ih, List.zipIdx_cons,
      List.flatMap_cons, tokenNames_plainText, List.map_map, List.map_map]
    rfl

theorem normalize_text (template : UriTemplate) :
    UriPath.normalize template.text =
      String.ofList (UriPath.ofSegments (template.segments.map Segment.plainText)) := by
  rw [UriPath.normalize, UriPath.normalForm, withoutConstraints_text, segments_plainText]

theorem parts_normalize_text (template : UriTemplate) :
    UriPath.parts (UriPath.normalize template.text) = template.segments.map Segment.plainText := by
  rw [normalize_text]
  apply UriPath.parts_ofList_ofSegments
  rintro _ hpart
  obtain ⟨segment, -, rfl⟩ := List.mem_map.mp hpart
  exact segment.plainText_clean

theorem parameters_normalize_text (template : UriTemplate) :
    UriPath.parameters (UriPath.normalize template.text) = template.tokens := by
  have hparts := parts_normalize_text template
  rw [UriPath.parts] at hparts
  rw [UriPath.parameters, hparts, tokensFrom_plainText]
  rfl

/-- The normal form of a template has its segments, with the literals as they are and the tokens
without constraints, and its parameters are the names of the template, each one in its segment. -/
theorem normalize_template (template : UriTemplate) :
    UriPath.normalize template.text = template.path ∧
      UriPath.parameters (UriPath.normalize template.text) = template.tokens := by
  refine ⟨?_, parameters_normalize_text template⟩
  rw [normalize_text, UriPath.ofList_ofSegments, List.map_map]
  rfl

end UriTemplate

end ApiManual
