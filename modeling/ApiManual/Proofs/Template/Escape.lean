import ApiManual.Proofs.Template.Reading
import Mathlib.Data.List.Infix

/-!
How far an escape reaches. A scan for which an escape is `$${` alone goes on right after it, and so
replaces what the reading of a text leaves alone up to the closing brace. The two agree on every
text in which nothing opens within an escape, and as a rule on no other.
-/
namespace ApiManual

namespace Template

/-- The text with its placeholders replaced where an escape ends with its opening brace; or the
first name that has no value or no closing brace. -/
def scan (values : TemplateValues) : List Char → Except String (List Char)
  | [] => .ok []
  | '$' :: '$' :: '{' :: rest => (['$', '{'] ++ ·) <$> scan values rest
  | '$' :: '{' :: rest =>
    let name := String.ofList (rest.takeWhile (· ≠ '}'))
    match _hclosing : rest.dropWhile (· ≠ '}') with
    | [] => .error name
    | _ :: later =>
      match values.get? name with
      | none => .error name
      | some value => (value.toList ++ ·) <$> scan values later
  | c :: rest => (c :: ·) <$> scan values rest
  termination_by text => text.length
  decreasing_by
    all_goals simp only [List.length_cons]
    · omega
    · have hle := (List.dropWhile_suffix (l := rest) (· ≠ '}')).length_le
      rw [_hclosing, List.length_cons] at hle
      omega
    · omega

variable (values : TemplateValues)

theorem scan_char {c : Char} {rest : List Char} (h : ¬ Opens (c :: rest)) :
    scan values (c :: rest) = (c :: ·) <$> scan values rest := by
  rw [scan]
  · rintro rest rfl rfl
    exact h (Or.inr ⟨rest, rfl⟩)
  · rintro rest rfl rfl
    exact h (Or.inl ⟨rest, rfl⟩)

theorem EndsIn.dropWhile_eq {name rest : List Char} {closed : Bool}
    (ends : EndsIn name closed rest) :
    (name ++ ((if closed then ['}'] else []) ++ rest)).dropWhile (· ≠ '}') =
      (if closed then ['}'] else []) ++ rest := by
  obtain ⟨hname, hrest⟩ := ends
  have hall : ∀ c ∈ name, decide (c ≠ '}') = true := fun c hc =>
    decide_eq_true fun h => hname (h ▸ hc)
  rw [List.dropWhile_append_of_pos hall]
  cases closed with
  | true => simp
  | false => simp [hrest rfl]

theorem scan_placeholder {name rest : List Char} {closed : Bool}
    (ends : EndsIn name closed rest) :
    scan values ('$' :: (Part.braced name closed ++ rest)) = (do
      let value ← Part.fill values (.placeholder name closed)
      (value ++ ·) <$> scan values rest) := by
  rw [Part.braced, List.cons_append, List.append_assoc, scan, Part.fill, ends.takeWhile_eq]
  split
  · rename_i hclosing
    rw [ends.dropWhile_eq] at hclosing
    cases closed with
    | true => cases hclosing
    | false => cases values.get? (String.ofList name) <;> rfl
  · rename_i c later hclosing
    rw [ends.dropWhile_eq] at hclosing
    cases closed with
    | true =>
      obtain ⟨rfl, rfl⟩ := List.cons.inj hclosing
      cases values.get? (String.ofList name) <;> rfl
    | false =>
      rw [ends.2 rfl] at hclosing
      cases hclosing

theorem scan_escape (rest : List Char) :
    scan values ('$' :: '$' :: '{' :: rest) = (['$', '{'] ++ ·) <$> scan values rest := by
  rw [scan]

theorem EndsIn.opens_iff {name rest : List Char} {closed : Bool} (ends : EndsIn name closed rest) :
    Opens (name ++ (if closed then ['}'] else []) ++ rest) ↔ Opens name := by
  have hbegins : ∀ opening : List Char, (∀ c ∈ opening, decide (c ≠ '}') = true) →
      (opening <+: name ++ (if closed then ['}'] else []) ++ rest ↔ opening <+: name) := by
    intro opening hopening
    rw [List.append_assoc]
    refine ⟨?_, fun h => h.trans (List.prefix_append _ _)⟩
    rintro ⟨later, hlater⟩
    have hname := ends.takeWhile_eq
    rw [← hlater, List.takeWhile_append_of_pos hopening] at hname
    exact ⟨_, hname⟩
  unfold Opens
  rw [hbegins ['$', '$', '{'] (by simp), hbegins ['$', '{'] (by simp)]

theorem EndsIn.without_rest {name rest : List Char} {closed : Bool}
    (ends : EndsIn name closed rest) : EndsIn name closed [] := ⟨ends.1, fun _ => rfl⟩

theorem scan_closing {rest : List Char} {closed : Bool} (hrest : closed = false → rest = []) :
    scan values ((if closed then ['}'] else []) ++ rest) =
      ((if closed then ['}'] else []) ++ ·) <$> scan values rest := by
  cases closed with
  | true => exact scan_char values (by simp [Opens])
  | false =>
    rw [hrest rfl]
    change scan values [] = ([] ++ ·) <$> scan values []
    rw [scan]
    rfl

/-- What follows a closing brace is scanned on its own. -/
theorem scan_append {name rest : List Char} {closed : Bool} (ends : EndsIn name closed rest) :
    scan values (name ++ (if closed then ['}'] else []) ++ rest) = (do
      let filled ← scan values (name ++ if closed then ['}'] else [])
      (filled ++ ·) <$> scan values rest) := by
  induction hlength : name.length using Nat.strongRecOn generalizing name with
  | ind length ih =>
    subst hlength
    by_cases hopens : Opens name
    · rcases hopens with ⟨inner, rfl⟩ | ⟨inner, rfl⟩
      · -- a placeholder that opens within the name ends at the same brace
        have hinner : EndsIn inner closed rest := ⟨fun h => ends.1 (by simp [h]), ends.2⟩
        have hown := scan_placeholder values hinner.without_rest
        rw [List.append_nil, Part.braced, scan] at hown
        simp only [List.cons_append, List.nil_append]
        rw [hown]
        refine (scan_placeholder values hinner).trans ?_
        cases Part.fill values (.placeholder inner closed) with
        | error name => rfl
        | ok value =>
          change (value ++ ·) <$> scan values rest = (value ++ [] ++ ·) <$> scan values rest
          rw [List.append_nil]
      · have hinner : EndsIn inner closed rest := ⟨fun h => ends.1 (by simp [h]), ends.2⟩
        have hrest := ih inner.length (by simp; omega) hinner rfl
        simp only [List.cons_append, List.nil_append, scan_escape] at hrest ⊢
        rw [hrest]
        cases scan values (inner ++ if closed then ['}'] else []) with
        | error name => rfl
        | ok filled => cases scan values rest <;> rfl
    · cases name with
      | nil =>
        have hown : scan values ((if closed then ['}'] else []) ++ []) = _ :=
          scan_closing values fun _ => rfl
        rw [List.append_nil, scan] at hown
        rw [List.nil_append, scan_closing values ends.2, hown]
        change _ = ((if closed then ['}'] else []) ++ [] ++ ·) <$> scan values rest
        rw [List.append_nil]
      | cons c name =>
        have hall := ends.opens_iff.not.mpr hopens
        have hown := ends.without_rest.opens_iff.not.mpr hopens
        have hrest := ih name.length (by simp) ⟨List.not_mem_of_not_mem_cons ends.1, ends.2⟩ rfl
        rw [List.append_nil] at hown
        simp only [List.cons_append] at hall hown hrest ⊢
        rw [scan_char values hall, scan_char values hown, hrest]
        cases scan values (name ++ if closed then ['}'] else []) with
        | error name => rfl
        | ok filled => cases scan values rest <;> rfl

/-- What the scan puts in place of a part: the name of an escape is scanned like any text. -/
def Part.scanned : Part → Except String (List Char)
  | char c => .ok [c]
  | escape name closed => (['$', '{'] ++ ·) <$> scan values (name ++ if closed then ['}'] else [])
  | placeholder name closed => Part.fill values (.placeholder name closed)

theorem Reads.scan_eq {text : List Char} {parts : List Part} (reads : Reads text parts) :
    scan values text = List.flatten <$> parts.mapM (Part.scanned values) := by
  induction reads with
  | nil =>
    rw [scan]
    rfl
  | @char c rest parts hopens _ ih =>
    rw [scan_char values hopens, ih, List.mapM_cons]
    cases parts.mapM (Part.scanned values) <;> rfl
  | @escape name closed rest parts ends _ ih =>
    rw [Part.braced, List.cons_append, scan_escape, scan_append values ends, ih, List.mapM_cons,
      Part.scanned]
    cases scan values (name ++ if closed then ['}'] else []) with
    | error name => rfl
    | ok filled => cases parts.mapM (Part.scanned values) <;> rfl
  | @placeholder name closed rest parts ends _ ih =>
    rw [scan_placeholder values ends, ih, List.mapM_cons, Part.scanned]
    cases Part.fill values (.placeholder name closed) with
    | error name => rfl
    | ok value => cases parts.mapM (Part.scanned values) <;> rfl

/-- Another placeholder, or the escape of one, opens within an escape. -/
def Encloses (parts : List Part) : Prop :=
  ∃ name closed, Part.escape name closed ∈ parts ∧ ['$', '{'] <:+: name

theorem scan_of_not_infix {text : List Char} (h : ¬ ['$', '{'] <:+: text) :
    scan values text = .ok text := by
  induction text with
  | nil => rw [scan]
  | cons c rest ih =>
    have hopens : ¬ Opens (c :: rest) := by
      rintro (hfirst | ⟨later, hlater⟩)
      · exact h hfirst.isInfix
      · exact h ⟨['$'], later, hlater⟩
    rw [scan_char values hopens, ih fun hrest => h (List.infix_cons hrest)]
    rfl

theorem infix_closing_iff {name : List Char} {closed : Bool} :
    ['$', '{'] <:+: name ++ (if closed then ['}'] else []) ↔ ['$', '{'] <:+: name := by
  cases closed with
  | true =>
    rw [if_pos rfl, List.infix_concat_iff, or_iff_right]
    rintro ⟨before, h⟩
    have hlast := congrArg List.getLast? h
    simp at hlast
  | false => rw [if_neg Bool.false_ne_true, List.append_nil]

theorem Part.scanned_eq_fill {part : Part}
    (h : ∀ name closed, part = .escape name closed → ¬ ['$', '{'] <:+: name) :
    part.scanned values = part.fill values := by
  cases part with
  | char c => rfl
  | escape name closed =>
    rw [scanned, scan_of_not_infix values (infix_closing_iff.not.mpr (h name closed rfl))]
    rfl
  | placeholder name closed => rfl

/-- Every placeholder that has a value has the empty one. -/
def IsBlank : Prop := ∀ name value, values.get? name = some value → value = ""

variable {values}

theorem IsBlank.fill_placeholder (blank : IsBlank values) {name value : List Char} {closed : Bool}
    (h : Part.fill values (.placeholder name closed) = .ok value) : value = [] := by
  rw [Part.fill] at h
  split at h
  · rename_i found hfound
    split at h
    · cases h
      rw [blank _ _ hfound]
      rfl
    · cases h
  · cases h

theorem IsBlank.length_scan (blank : IsBlank values) {text filled : List Char}
    (h : scan values text = .ok filled) : filled.length ≤ text.length ∧
      (filled.length = text.length → ¬ ['$', '{'] <:+: text) := by
  induction hlength : text.length using Nat.strongRecOn generalizing text filled with
  | ind length ih =>
    subst hlength
    by_cases hopens : Opens text
    · -- what opens is shortened, and the rest of the text does not grow
      suffices hlt : filled.length < text.length from ⟨hlt.le, fun heq => absurd heq hlt.ne⟩
      rcases hopens with ⟨text, rfl⟩ | ⟨text, rfl⟩
      · obtain ⟨name, closed, rest, hends, htext⟩ := exists_endsIn text
        have hlength := congrArg List.length htext
        simp only [Part.braced, List.length_cons, List.length_append] at hlength
        rw [List.cons_append, List.singleton_append, htext, scan_placeholder values hends,
          Except.bind_eq_ok_iff] at h
        obtain ⟨value, hvalue, h⟩ := h
        obtain ⟨later, hlater, rfl⟩ := Except.map_eq_ok_iff.mp h
        have hle := (ih rest.length (by simp; omega) hlater rfl).1
        rw [blank.fill_placeholder hvalue]
        simp only [List.cons_append, List.nil_append, List.length_cons]
        omega
      · simp only [List.cons_append, List.nil_append, scan_escape] at h
        obtain ⟨later, hlater, rfl⟩ := Except.map_eq_ok_iff.mp h
        have hle := (ih text.length (by simp; omega) hlater rfl).1
        simp only [List.cons_append, List.nil_append, List.length_cons]
        omega
    · cases text with
      | nil =>
        rw [scan] at h
        cases h
        simp
      | cons c rest =>
        rw [scan_char values hopens] at h
        obtain ⟨later, hlater, rfl⟩ := Except.map_eq_ok_iff.mp h
        obtain ⟨hle, hinfix⟩ := ih rest.length (by simp) hlater rfl
        simp only [List.length_cons, Nat.add_le_add_iff_right, Nat.add_right_cancel_iff]
        refine ⟨hle, fun heq hin => ?_⟩
        rcases List.infix_cons_iff.mp hin with hfirst | hrest
        · exact hopens (Or.inl hfirst)
        · exact hinfix heq hrest

/-- With empty values the scan of a part is shorter than its filling where something opens within
it. -/
theorem IsBlank.length_scanned (blank : IsBlank values) {part : Part} {scanned filled : List Char}
    (hscanned : part.scanned values = .ok scanned) (hfilled : part.fill values = .ok filled) :
    scanned.length ≤ filled.length ∧ (scanned.length = filled.length →
      ∀ name closed, part = .escape name closed → ¬ ['$', '{'] <:+: name) := by
  cases part with
  | char c =>
    cases hscanned
    cases hfilled
    exact ⟨le_rfl, nofun⟩
  | placeholder name closed =>
    cases hscanned.symm.trans hfilled
    exact ⟨le_rfl, nofun⟩
  | escape name closed =>
    rw [Part.scanned] at hscanned
    obtain ⟨inner, hinner, rfl⟩ := Except.map_eq_ok_iff.mp hscanned
    cases hfilled
    obtain ⟨hle, hinfix⟩ := blank.length_scan hinner
    rw [infix_closing_iff] at hinfix
    simp only [Part.braced, List.cons_append, List.nil_append, List.length_cons,
      Nat.add_le_add_iff_right, Nat.add_right_cancel_iff, Part.escape.injEq]
    refine ⟨hle, ?_⟩
    rintro heq _ _ ⟨rfl, rfl⟩
    exact hinfix heq

theorem IsBlank.length_flatten (blank : IsBlank values) {parts : List Part}
    {scanned filled : List (List Char)} (hscanned : parts.mapM (Part.scanned values) = .ok scanned)
    (hfilled : parts.mapM (Part.fill values) = .ok filled) :
    scanned.flatten.length ≤ filled.flatten.length ∧
      (scanned.flatten.length = filled.flatten.length → ¬ Encloses parts) := by
  induction parts generalizing scanned filled with
  | nil =>
    cases hscanned
    cases hfilled
    exact ⟨le_rfl, by simp [Encloses]⟩
  | cons part rest ih =>
    simp only [List.mapM_cons, Except.bind_eq_ok_iff, Except.pure_eq_ok_iff] at hscanned hfilled
    obtain ⟨first, hfirst, others, hothers, rfl⟩ := hscanned
    obtain ⟨first', hfirst', others', hothers', rfl⟩ := hfilled
    obtain ⟨hle, hpart⟩ := blank.length_scanned hfirst hfirst'
    obtain ⟨hles, hrest⟩ := ih hothers hothers'
    simp only [List.flatten_cons, List.length_append]
    refine ⟨by omega, ?_⟩
    rintro heq ⟨name, closed, hmem, hin⟩
    rcases List.mem_cons.mp hmem with rfl | hmem
    · exact hpart (by omega) name closed rfl hin
    · exact hrest (by omega) ⟨name, closed, hmem, hin⟩

def emptyValues (parts : List Part) : TemplateValues where
  entries := parts.filterMap fun
    | .placeholder name _ => some (String.ofList name, "")
    | _ => none

theorem isBlank_emptyValues (parts : List Part) : IsBlank (emptyValues parts) := by
  intro name value h
  obtain ⟨before, after, hentries, -⟩ := List.lookup_eq_some_iff.mp h
  have hmem : (name, value) ∈ (emptyValues parts).entries := by simp [hentries]
  obtain ⟨part, -, hpart⟩ := List.mem_filterMap.mp hmem
  cases part with
  | placeholder name closed => exact (Prod.mk.inj (Option.some.inj hpart)).2.symm
  | char c => cases hpart
  | escape name closed => cases hpart

theorem exists_mapM_fill_emptyValues {parts : List Part}
    (closed : ∀ name, Part.placeholder name false ∉ parts) :
    ∃ filled, parts.mapM (Part.fill (emptyValues parts)) = .ok filled := by
  have hresolved : (parts.mapM (Part.fill (emptyValues parts))).failure? = none := by
    rw [Except.failure?_mapM fun part _ => part.failure?_fill _, List.findSome?_eq_none_iff]
    intro part hpart
    cases part with
    | char c => rfl
    | escape name closed => rfl
    | placeholder name isClosed =>
      obtain rfl : isClosed = true := by
        by_contra hopen
        rw [Bool.not_eq_true] at hopen
        exact closed name (hopen ▸ hpart)
      have hentry : (String.ofList name, "") ∈ (emptyValues parts).entries :=
        List.mem_filterMap.mpr ⟨_, hpart, rfl⟩
      have hvalue : ((emptyValues parts).get? (String.ofList name)).isSome = true :=
        List.lookup_isSome_iff.mpr ⟨_, hentry, beq_self_eq_true _⟩
      rw [Part.unresolved?, hvalue]
      rfl
  cases hfilled : parts.mapM (Part.fill (emptyValues parts)) with
  | ok filled => exact ⟨filled, rfl⟩
  | error name =>
    rw [hfilled] at hresolved
    cases hresolved

end Template

open Template

/-- The text with its placeholders replaced where an escape ends with its opening brace. -/
def TemplateValues.scanned (values : TemplateValues) (text : String) : Except String String :=
  String.ofList <$> scan values text.toList

/-- A text is replaced part by part. The scan does the same but within escapes, so the two agree for
all values if nothing opens there; and if something does, then only a placeholder without an end can
keep them from differing for some values. -/
theorem TemplateValues.substitute_parts (text : String) :
    ∃ parts, (∀ parts', Reads text.toList parts' ↔ parts' = parts) ∧
      (∀ values : TemplateValues, values.substitute text =
        String.ofList <$> List.flatten <$> parts.mapM (Part.fill values)) ∧
      (∀ values : TemplateValues, values.scanned text =
        String.ofList <$> List.flatten <$> parts.mapM (Part.scanned values)) ∧
      (¬ Encloses parts →
        ∀ values : TemplateValues, values.substitute text = values.scanned text) ∧
      (Encloses parts → (∀ name, Part.placeholder name false ∉ parts) →
        ∃ values : TemplateValues, values.substitute text ≠ values.scanned text) := by
  obtain ⟨parts, reads⟩ := exists_reads text.toList
  have hsubstitute : ∀ values : TemplateValues, values.substitute text =
      String.ofList <$> List.flatten <$> parts.mapM (Part.fill values) := by
    intro values
    rw [substitute, reads.fill_eq]
  have hscanned : ∀ values : TemplateValues, values.scanned text =
      String.ofList <$> List.flatten <$> parts.mapM (Part.scanned values) := by
    intro values
    rw [scanned, reads.scan_eq]
  refine ⟨parts, fun parts' => ⟨fun reads' => reads'.unique reads, fun h => h ▸ reads⟩,
    hsubstitute, hscanned, fun hnone values => ?_, fun hencloses hclosed => ?_⟩
  · have hparts : ∀ part ∈ parts, Part.scanned values part = Part.fill values part := by
      rintro part hpart
      refine Part.scanned_eq_fill values ?_
      rintro name closed rfl hin
      exact hnone ⟨name, closed, hpart, hin⟩
    rw [hsubstitute, hscanned, Except.mapM_congr hparts]
  · obtain ⟨filled, hfilled⟩ := exists_mapM_fill_emptyValues hclosed
    refine ⟨emptyValues parts, fun hsame => ?_⟩
    rw [hsubstitute, hscanned, hfilled] at hsame
    obtain ⟨chars, hchars, heq⟩ := Except.map_eq_ok_iff.mp hsame.symm
    obtain ⟨pieces, hpieces, rfl⟩ := Except.map_eq_ok_iff.mp hchars
    have hflat := congrArg List.length (String.ofList_inj.mp heq)
    exact ((isBlank_emptyValues parts).length_flatten hpieces hfilled).2 hflat hencloses

theorem TemplateValues.substitute_ne_scanned :
    let values : TemplateValues := ⟨[("name", "shop")]⟩
    let text := "Write $$\x7b in front of a name, as in $\x7bname\x7d."
    values.substitute text = .ok "Write $\x7b in front of a name, as in $\x7bname\x7d." ∧
      values.scanned text = .ok "Write $\x7b in front of a name, as in shop." := by
  decide +kernel

end ApiManual
