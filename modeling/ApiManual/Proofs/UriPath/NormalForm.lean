import ApiManual.Proofs.UriPath.Segments

/-!
Paths in normal form. A path is left as it is exactly if its slashes are single, with one in front
and none behind, and if none of its tokens has a constraint; and every path is brought into such a
form at once.
-/
namespace ApiManual

namespace Text

variable {separator : Char}

theorem tail_fields_cons_of_ne {c : Char} (h : c ≠ separator) (rest : List Char) :
    (fields separator (c :: rest)).tail = (fields separator rest).tail := by
  rw [fields, if_neg h]
  cases fields separator rest with
  | nil => rfl
  | cons piece pieces => rfl

theorem head?_fields_eq_nil_iff {text : List Char} :
    (fields separator text).head? = some [] ↔ (text ++ [separator]).head? = some separator := by
  cases text with
  | nil => simp [fields]
  | cons c rest =>
    by_cases hc : c = separator
    · simp [hc]
    · rw [fields, if_neg hc]
      cases fields separator rest with
      | nil => simp [hc]
      | cons piece pieces => simp [hc]

/-- A piece behind a separator is empty if another separator, or the end, follows at once. -/
theorem nil_mem_tail_fields_iff {text : List Char} :
    [] ∈ (fields separator text).tail ↔ [separator, separator] <:+: text ++ [separator] := by
  induction text with
  | nil => simp [fields, List.infix_cons_iff]
  | cons c rest ih =>
    rw [List.cons_append, List.infix_cons_iff, ← ih]
    by_cases hc : c = separator
    · subst hc
      have hhead : [c, c] <+: c :: (rest ++ [c]) ↔ (fields c rest).head? = some [] := by
        rw [head?_fields_eq_nil_iff, List.cons_prefix_cons, List.head?_eq_some_iff]
        simp [List.cons_prefix_iff]
      rw [fields_separator_cons, List.tail_cons, hhead]
      cases fields c rest with
      | nil => simp
      | cons piece pieces => simp [eq_comm]
    · have hnot : ¬ [separator, separator] <+: c :: (rest ++ [separator]) := by
        simp [Ne.symm hc]
      rw [tail_fields_cons_of_ne hc, or_iff_right hnot]

theorem pair_infix_append_singleton_iff {text : List Char} :
    [separator, separator] <:+: text ++ [separator] ↔
      [separator, separator] <:+: text ∨ text.getLast? = some separator := by
  have hlast : [separator] ++ [separator] <:+ text ++ [separator] ↔
      text.getLast? = some separator := by
    rw [List.suffix_append_inj_of_length_eq rfl, List.getLast?_eq_some_iff]
    simp [List.IsSuffix, eq_comm]
  rw [List.infix_concat_iff, or_comm]
  exact or_congr_right hlast

end Text

namespace UriPath

theorem fields_ofSegments {parts : List (List Char)} (hne : parts ≠ [])
    (clean : ∀ part ∈ parts, '/' ∉ part) : Text.fields '/' (ofSegments parts) = [] :: parts := by
  induction parts with
  | nil => exact absurd rfl hne
  | cons first rest ih =>
    obtain ⟨hfirst, hrest⟩ := List.forall_mem_cons.mp clean
    cases rest with
    | nil =>
      rw [ofSegments, List.intercalate_singleton, Text.fields_separator_cons,
        Text.fields_of_not_mem hfirst]
    | cons second others =>
      have hlater := ih (List.cons_ne_nil _ _) hrest
      rw [ofSegments, Text.fields_separator_cons, List.cons.injEq] at hlater
      rw [ofSegments_cons_cons, List.cons_append, Text.fields_separator_cons, ofSegments,
        Text.fields_append_cons, Text.fields_of_not_mem hfirst, hlater.2]
      rfl

/-- A text is written as its segments are if its slashes are single, one stands in front, and none
behind unless it is the root. -/
theorem ofSegments_segments_iff {text : List Char} :
    ofSegments (segments text) = text ↔ text.head? = some '/' ∧ ¬ ['/', '/'] <:+: text ∧
      (text.getLast? = some '/' → text = ['/']) := by
  constructor
  · intro h
    have hclean : ∀ part ∈ segments text, '/' ∉ part :=
      fun _ hpart => slash_not_mem_of_mem_segments hpart
    by_cases hnil : segments text = []
    · rw [hnil] at h
      rw [← h]
      decide
    · have hfields := fields_ofSegments hnil hclean
      rw [h] at hfields
      have hfull : ¬ ['/', '/'] <:+: text ++ ['/'] := by
        rw [← Text.nil_mem_tail_fields_iff, hfields, List.tail_cons]
        exact fun hmem => ne_nil_of_mem_segments hmem rfl
      rw [Text.pair_infix_append_singleton_iff, not_or] at hfull
      refine ⟨?_, hfull.1, fun hlast => absurd hlast hfull.2⟩
      rw [← h]
      rfl
  · rintro ⟨hhead, hsingle, hlast⟩
    obtain ⟨rest, rfl⟩ := List.head?_eq_some_iff.mp hhead
    by_cases hnil : rest = []
    · rw [hnil]
      rfl
    · -- no piece behind the first slash is empty, so that all of them are segments
      have hfull : [] ∉ Text.fields '/' rest := by
        have htail : Text.fields '/' rest = (Text.fields '/' ('/' :: rest)).tail := by
          rw [Text.fields_separator_cons, List.tail_cons]
        rw [htail, Text.nil_mem_tail_fields_iff, Text.pair_infix_append_singleton_iff, not_or]
        exact ⟨hsingle, fun h => hnil (List.cons.inj (hlast h)).2⟩
      have hall : segments rest = Text.fields '/' rest := by
        refine List.filter_eq_self.mpr fun piece hpiece => ?_
        simp only [Bool.not_eq_true', List.isEmpty_eq_false_iff]
        exact fun hempty => hfull (hempty ▸ hpiece)
      rw [segments_slash_cons, hall, ofSegments, Text.intercalate_fields]

/-- The number of braces that are open behind a character. Outside of tokens a closing brace closes
none. -/
def braceStep (depth : Nat) (c : Char) : Nat :=
  if c = '{' then depth + 1 else if c = '}' then depth - 1 else depth

/-- The number of braces that are open at the end of a text. -/
def braceDepth (depth : Nat) (text : List Char) : Nat := text.foldl braceStep depth

/-- No colon of the text stands right inside a token, where so many braces are open before. -/
def Unconstrained (depth : Nat) (text : List Char) : Prop :=
  ∀ before after, text = before ++ ':' :: after → braceDepth depth before ≠ 1

theorem unconstrained_nil (depth : Nat) : Unconstrained depth [] := by
  intro before after h
  cases before <;> cases h

theorem unconstrained_cons_iff {depth : Nat} {c : Char} {rest : List Char} :
    Unconstrained depth (c :: rest) ↔
      (c = ':' → depth ≠ 1) ∧ Unconstrained (braceStep depth c) rest := by
  constructor
  · intro h
    constructor
    · rintro rfl
      exact h [] rest rfl
    · rintro before after rfl
      exact h (c :: before) after rfl
  · rintro ⟨hfirst, hrest⟩ before after h
    cases before with
    | nil => exact hfirst (List.cons.inj h).1
    | cons d before =>
      obtain ⟨rfl, rfl⟩ := List.cons.inj h
      exact hrest before after rfl

theorem unconstrained_filter_iff {depth : Nat} {text : List Char} :
    Unconstrained depth (text.filter (· ≠ '/')) ↔ Unconstrained depth text := by
  induction text generalizing depth with
  | nil => rfl
  | cons c rest ih =>
    by_cases hc : c = '/'
    · subst hc
      rw [List.filter_cons_of_neg (by simp), ih, unconstrained_cons_iff]
      simp [braceStep]
    · rw [List.filter_cons_of_pos (by simpa using hc), unconstrained_cons_iff,
        unconstrained_cons_iff, ih]

theorem filter_ofSegments (parts : List (List Char)) :
    (ofSegments parts).filter (· ≠ '/') = parts.flatten.filter (· ≠ '/') := by
  induction parts with
  | nil => rfl
  | cons first rest ih =>
    cases rest with
    | nil => simp [ofSegments, List.intercalate]
    | cons second others =>
      rw [ofSegments_cons_cons, List.filter_append, ih, List.filter_cons_of_neg (by simp),
        ← List.filter_append, ← List.flatten_cons]

theorem flatten_fields (separator : Char) (text : List Char) :
    (Text.fields separator text).flatten = text.filter (· ≠ separator) := by
  induction text with
  | nil => rfl
  | cons c rest ih =>
    by_cases hc : c = separator
    · subst hc
      rw [Text.fields_separator_cons, List.flatten_cons, ih, List.filter_cons_of_neg (by simp),
        List.nil_append]
    · rw [List.filter_cons_of_pos (by simpa using hc), ← ih, Text.fields, if_neg hc]
      cases Text.fields separator rest with
      | nil => rfl
      | cons piece pieces => rfl

theorem filter_ofSegments_segments (text : List Char) :
    (ofSegments (segments text)).filter (· ≠ '/') = text.filter (· ≠ '/') := by
  rw [filter_ofSegments, segments, List.flatten_filter_not_isEmpty, flatten_fields,
    List.filter_filter]
  simp only [Bool.and_self]

namespace Scan

/-- Where the scan stands behind a character. -/
def next : Scan → Char → Scan
  | literal, c => if c = '{' then token 0 false else literal
  | token 0 constrained, c =>
    if c = '}' then literal
    else if c = ':' then token 0 true
    else token (if c = '{' then 1 else 0) constrained
  | token (inner + 1) constrained, c =>
    token (if c = '{' then inner + 2 else if c = '}' then inner else inner + 1) constrained

def keeps : Scan → Char → Bool
  | literal, _ => true
  | token 0 constrained, c => c = '}' || c ≠ ':' && !constrained
  | token (_ + 1) constrained, _ => !constrained

/-- Whether the scan stands in a constraint. -/
def isConstrained : Scan → Bool
  | literal => false
  | token _ constrained => constrained

/-- The number of braces that are open in the text that is scanned. -/
def depth : Scan → Nat
  | literal => 0
  | token inner _ => inner + 1

def keptDepth : Scan → Nat
  | literal => 0
  | token inner constrained => if constrained then 1 else inner + 1

variable {scan : Scan} {c : Char}

theorem depth_next (scan : Scan) (c : Char) :
    (scan.next c).depth = braceStep scan.depth c := by
  match scan with
  | literal => grind [next, depth, braceStep]
  | token 0 _ => grind [next, depth, braceStep]
  | token (_ + 1) _ => grind [next, depth, braceStep]

theorem keptDepth_next (scan : Scan) (c : Char) : (scan.next c).keptDepth =
    if scan.keeps c then braceStep scan.keptDepth c else scan.keptDepth := by
  match scan with
  | literal => grind [next, keeps, keptDepth, braceStep]
  | token 0 _ => grind [next, keeps, keptDepth, braceStep]
  | token (_ + 1) _ => grind [next, keeps, keptDepth, braceStep]

theorem keptDepth_ne_one (h : scan.keeps ':' = true) : scan.keptDepth ≠ 1 := by
  match scan with
  | literal => decide
  | token 0 _ => simp [keeps] at h
  | token (_ + 1) _ => simp_all [keeps, keptDepth]

/-- Outside of constraints nothing but that colon is left out, and nothing else begins one. -/
theorem keeps_of_not_isConstrained (hscan : scan.isConstrained = false)
    (hc : c = ':' → scan.depth ≠ 1) :
    scan.keeps c = true ∧ (scan.next c).isConstrained = false := by
  match scan with
  | literal => grind [next, keeps, isConstrained]
  | token 0 _ => grind [next, keeps, isConstrained, depth]
  | token (_ + 1) _ => grind [next, keeps, isConstrained]

end Scan

theorem withoutConstraints_cons (scan : Scan) (c : Char) (rest : List Char) :
    withoutConstraints scan (c :: rest) =
      (if scan.keeps c then [c] else []) ++ withoutConstraints (scan.next c) rest := by
  match scan with
  | .literal => rfl
  | .token 0 constrained => grind [withoutConstraints, Scan.next, Scan.keeps]
  | .token (_ + 1) constrained => grind [withoutConstraints, Scan.next, Scan.keeps]

theorem withoutConstraints_eq_self {scan : Scan} {text : List Char}
    (hscan : scan.isConstrained = false) (h : Unconstrained scan.depth text) :
    withoutConstraints scan text = text := by
  induction text generalizing scan with
  | nil => exact withoutConstraints.eq_1 scan
  | cons c rest ih =>
    obtain ⟨hfirst, hrest⟩ := unconstrained_cons_iff.mp h
    obtain ⟨hkept, hnext⟩ := Scan.keeps_of_not_isConstrained hscan hfirst
    rw [← Scan.depth_next] at hrest
    rw [withoutConstraints_cons, if_pos hkept, ih hnext hrest, List.singleton_append]

theorem unconstrained_withoutConstraints (scan : Scan) (text : List Char) :
    Unconstrained scan.keptDepth (withoutConstraints scan text) := by
  induction text generalizing scan with
  | nil =>
    rw [withoutConstraints]
    exact unconstrained_nil _
  | cons c rest ih =>
    have hrest := ih (scan.next c)
    rw [Scan.keptDepth_next] at hrest
    rw [withoutConstraints_cons]
    split at hrest
    · rename_i hkept
      rw [if_pos hkept, List.singleton_append, unconstrained_cons_iff]
      refine ⟨?_, hrest⟩
      rintro rfl
      exact Scan.keptDepth_ne_one hkept
    · rename_i hleft
      rwa [if_neg hleft, List.nil_append]

theorem unconstrained_normalize (path : String) : Unconstrained 0 (normalize path).toList := by
  rw [normalize, String.toList_ofList, ← unconstrained_filter_iff, normalForm,
    filter_ofSegments_segments, unconstrained_filter_iff]
  exact unconstrained_withoutConstraints .literal path.toList

theorem normalize_eq_self {path : String} (slashed : WellSlashed path)
    (unconstrained : Unconstrained 0 path.toList) : normalize path = path := by
  have hleft : withoutConstraints .literal path.toList = path.toList :=
    withoutConstraints_eq_self rfl unconstrained
  rw [normalize, normalForm, hleft]
  exact slashed.ofList_eq

structure InNormalForm (path : String) : Prop where
  rooted : path.toList.head? = some '/'
  single : ¬ ['/', '/'] <:+: path.toList
  unended : path.toList.getLast? = some '/' → path = "/"
  unconstrained : ∀ before after, path.toList = before ++ ':' :: after → braceDepth 0 before ≠ 1

/-- Paths are brought into normal form at once, and only those in normal form are left as they
are. -/
theorem normalize_retracts :
    (∀ path, normalize (normalize path) = normalize path) ∧
      ∀ path, normalize path = path ↔ InNormalForm path := by
  refine ⟨fun path => normalize_eq_self (wellSlashed_normalize path) (unconstrained_normalize path),
    fun path => ?_⟩
  have hroot : path.toList = ['/'] ↔ path = "/" := by
    rw [← String.toList_inj]
    rfl
  constructor
  · intro h
    have hslashed : WellSlashed path := h ▸ wellSlashed_normalize path
    obtain ⟨rooted, single, unended⟩ := ofSegments_segments_iff.mp hslashed
    exact ⟨rooted, single, fun hlast => hroot.mp (unended hlast), h ▸ unconstrained_normalize path⟩
  · rintro ⟨rooted, single, unended, unconstrained⟩
    have hslashed : WellSlashed path :=
      ofSegments_segments_iff.mpr ⟨rooted, single, fun hlast => hroot.mpr (unended hlast)⟩
    exact normalize_eq_self hslashed unconstrained

example : normalize "shops//{id:[0-9]{3}}/{lane{n:m}:x}/" = "/shops/{id}/{lane{n:m}}" := by
  decide +kernel

end UriPath

end ApiManual
