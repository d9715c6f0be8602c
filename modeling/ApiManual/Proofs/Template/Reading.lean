import ApiManual.Proofs.Except
import ApiManual.Template

/-!
How a text with placeholders is read: from left to right, where a placeholder and its escape both
reach to the first closing brace. The reading does not depend on the values. Filling a text fills
its parts one by one, so the first part that cannot be filled is the one that is reported.
-/
namespace ApiManual

namespace Template

/-- A part of a text. A name that is not closed reaches to the end of the text. -/
inductive Part where
  | char (c : Char)
  | escape (name : List Char) (closed : Bool)
  | placeholder (name : List Char) (closed : Bool)

namespace Part

def braced (name : List Char) (closed : Bool) : List Char :=
  '{' :: (name ++ if closed then ['}'] else [])

def written : Part → List Char
  | char c => [c]
  | escape name closed => '$' :: '$' :: braced name closed
  | placeholder name closed => '$' :: braced name closed

/-- What is put in place of a part. An escape loses one of its dollar signs. -/
def fill (values : TemplateValues) : Part → Except String (List Char)
  | char c => .ok [c]
  | escape name closed => .ok ('$' :: braced name closed)
  | placeholder name closed =>
    match values.get? (String.ofList name) with
    | some value => if closed then .ok value.toList else .error (String.ofList name)
    | none => .error (String.ofList name)

/-- The name of a placeholder that is not closed or has no value. -/
def unresolved? (values : TemplateValues) : Part → Option String
  | placeholder name closed =>
    if closed && (values.get? (String.ofList name)).isSome then none else some (String.ofList name)
  | _ => none

theorem failure?_fill (values : TemplateValues) (part : Part) :
    (part.fill values).failure? = part.unresolved? values := by
  cases part with
  | char c => rfl
  | escape name closed => rfl
  | placeholder name closed =>
    cases closed <;> cases h : values.get? (String.ofList name) <;> simp [fill, unresolved?, h]

end Part

/-- A placeholder or the escape of one begins the text. -/
def Opens (text : List Char) : Prop := ['$', '{'] <+: text ∨ ['$', '$', '{'] <+: text

/-- A name ends at the first closing brace after it, or at the end of the text. -/
def EndsIn (name : List Char) (closed : Bool) (rest : List Char) : Prop :=
  '}' ∉ name ∧ (closed = false → rest = [])

/-- The parts of a text from left to right. -/
inductive Reads : List Char → List Part → Prop
  | nil : Reads [] []
  | char {c : Char} {rest : List Char} {parts : List Part} :
    ¬ Opens (c :: rest) → Reads rest parts → Reads (c :: rest) (.char c :: parts)
  | escape {name : List Char} {closed : Bool} {rest : List Char} {parts : List Part} :
    EndsIn name closed rest → Reads rest parts →
    Reads ('$' :: '$' :: (Part.braced name closed ++ rest)) (.escape name closed :: parts)
  | placeholder {name : List Char} {closed : Bool} {rest : List Char} {parts : List Part} :
    EndsIn name closed rest → Reads rest parts →
    Reads ('$' :: (Part.braced name closed ++ rest)) (.placeholder name closed :: parts)

theorem Reads.written {text : List Char} {parts : List Part} (reads : Reads text parts) :
    parts.flatMap Part.written = text := by
  induction reads with
  | nil => rfl
  | char _ _ ih | escape _ _ ih | placeholder _ _ ih =>
    rw [List.flatMap_cons, ih]
    rfl

theorem exists_endsIn (text : List Char) : ∃ name closed rest, EndsIn name closed rest ∧
    '{' :: text = Part.braced name closed ++ rest := by
  by_cases hclosed : '}' ∈ text
  · obtain ⟨name, rest, rfl, hname⟩ := List.eq_append_cons_of_mem hclosed
    exact ⟨name, true, rest, ⟨hname, nofun⟩, by simp [Part.braced]⟩
  · exact ⟨text, false, [], ⟨hclosed, fun _ => rfl⟩, by simp [Part.braced]⟩

theorem exists_reads (text : List Char) : ∃ parts, Reads text parts := by
  induction hlength : text.length using Nat.strongRecOn generalizing text with
  | ind length ih =>
    subst hlength
    by_cases hopens : Opens text
    · rcases hopens with ⟨text, rfl⟩ | ⟨text, rfl⟩
      · obtain ⟨name, closed, rest, hends, htext⟩ := exists_endsIn text
        have hlength := congrArg List.length htext
        obtain ⟨parts, hparts⟩ := ih rest.length (by simp_all [Part.braced]; omega) rest rfl
        exact ⟨_, by simpa [htext] using Reads.placeholder hends hparts⟩
      · obtain ⟨name, closed, rest, hends, htext⟩ := exists_endsIn text
        have hlength := congrArg List.length htext
        obtain ⟨parts, hparts⟩ := ih rest.length (by simp_all [Part.braced]; omega) rest rfl
        exact ⟨_, by simpa [htext] using Reads.escape hends hparts⟩
    · cases text with
      | nil => exact ⟨[], Reads.nil⟩
      | cons c rest =>
        obtain ⟨parts, hparts⟩ := ih rest.length (by simp) rest rfl
        exact ⟨_, Reads.char hopens hparts⟩

theorem EndsIn.takeWhile_eq {name rest : List Char} {closed : Bool}
    (ends : EndsIn name closed rest) :
    (name ++ ((if closed then ['}'] else []) ++ rest)).takeWhile (· ≠ '}') = name := by
  obtain ⟨hname, hrest⟩ := ends
  have hall : ∀ c ∈ name, decide (c ≠ '}') = true := fun c hc =>
    decide_eq_true fun h => hname (h ▸ hc)
  rw [List.takeWhile_append_of_pos hall]
  cases closed with
  | true => simp
  | false => simp [hrest rfl]

theorem EndsIn.unique {name name' rest rest' : List Char} {closed closed' : Bool}
    (ends : EndsIn name closed rest) (ends' : EndsIn name' closed' rest')
    (h : Part.braced name closed ++ rest = Part.braced name' closed' ++ rest') :
    name = name' ∧ closed = closed' ∧ rest = rest' := by
  simp only [Part.braced, List.cons_append, List.cons.injEq, true_and, List.append_assoc] at h
  have hname : name = name' := by rw [← ends.takeWhile_eq, h, ends'.takeWhile_eq]
  subst hname
  have hrests := List.append_cancel_left h
  cases closed with
  | true =>
    cases closed' with
    | true => exact ⟨rfl, rfl, by simpa using hrests⟩
    | false => simp [ends'.2 rfl] at hrests
  | false =>
    cases closed' with
    | true => simp [ends.2 rfl] at hrests
    | false => exact ⟨rfl, rfl, by simpa using hrests⟩

theorem Reads.unique {text : List Char} {parts parts' : List Part} (reads : Reads text parts)
    (reads' : Reads text parts') : parts = parts' := by
  induction reads generalizing parts' with
  | nil => cases reads'; rfl
  | @char c rest parts hopens _ ih =>
    cases reads' with
    | char _ hrest => rw [ih hrest]
    | escape => exact absurd (Or.inr ⟨_, rfl⟩) hopens
    | placeholder => exact absurd (Or.inl ⟨_, rfl⟩) hopens
  | @escape name closed rest parts ends _ ih =>
    generalize htext : '$' :: '$' :: (Part.braced name closed ++ rest) = text at reads'
    cases reads' with
    | nil => cases htext
    | char hopens _ =>
      obtain ⟨rfl, rfl⟩ := List.cons.inj htext
      exact absurd (Or.inr ⟨_, rfl⟩) hopens
    | escape ends' hrest =>
      obtain ⟨rfl, rfl, rfl⟩ := ends.unique ends' (by simpa using htext)
      rw [ih hrest]
    | placeholder => simp [Part.braced] at htext
  | @placeholder name closed rest parts ends _ ih =>
    generalize htext : '$' :: (Part.braced name closed ++ rest) = text at reads'
    cases reads' with
    | nil => cases htext
    | char hopens _ =>
      obtain ⟨rfl, rfl⟩ := List.cons.inj htext
      exact absurd (Or.inl ⟨_, rfl⟩) hopens
    | escape => simp [Part.braced] at htext
    | placeholder ends' hrest =>
      obtain ⟨rfl, rfl, rfl⟩ := ends.unique ends' (by simpa using htext)
      rw [ih hrest]

variable (values : TemplateValues)

theorem fill_char {c : Char} {rest : List Char} (h : ¬ Opens (c :: rest)) :
    fill values .plain (c :: rest) = (c :: ·) <$> fill values .plain rest := by
  rw [fill]
  · rintro rest rfl rfl
    exact h (Or.inr ⟨rest, rfl⟩)
  · rintro rest rfl rfl
    exact h (Or.inl ⟨rest, rfl⟩)

theorem fill_literal {name : List Char} {closed : Bool} {rest : List Char}
    (ends : EndsIn name closed rest) :
    fill values .literal (name ++ (if closed then ['}'] else []) ++ rest) =
      ((name ++ if closed then ['}'] else []) ++ ·) <$> fill values .plain rest := by
  obtain ⟨hname, hrest⟩ := ends
  induction name with
  | nil =>
    cases closed with
    | true => rfl
    | false => rw [hrest rfl]; rfl
  | cons c name ih =>
    have hc : c ≠ '}' := fun h => hname (h ▸ List.mem_cons_self)
    rw [List.cons_append, List.cons_append, fill, if_neg hc,
      ih (List.not_mem_of_not_mem_cons hname)]
    cases fill values .plain rest <;> rfl

theorem fill_name {name : List Char} {closed : Bool} {rest : List Char}
    (ends : EndsIn name closed rest) (pending : List Char) :
    fill values (.name pending) (name ++ (if closed then ['}'] else []) ++ rest) = (do
      let value ← Part.fill values (.placeholder (pending.reverse ++ name) closed)
      (value ++ ·) <$> fill values .plain rest) := by
  obtain ⟨hname, hrest⟩ := ends
  induction name generalizing pending with
  | nil =>
    rw [List.append_nil, Part.fill]
    cases closed with
    | true =>
      rw [if_pos rfl, List.nil_append, List.singleton_append, fill, if_pos rfl]
      dsimp only
      cases values.get? (String.ofList pending.reverse) <;> rfl
    | false =>
      rw [hrest rfl]
      cases values.get? (String.ofList pending.reverse) <;> rfl
  | cons c name ih =>
    have hc : c ≠ '}' := fun h => hname (h ▸ List.mem_cons_self)
    rw [List.cons_append, List.cons_append, fill, if_neg hc,
      ih _ (List.not_mem_of_not_mem_cons hname), List.reverse_cons, List.append_assoc,
      List.singleton_append]

theorem Reads.fill_eq {text : List Char} {parts : List Part} (reads : Reads text parts) :
    fill values .plain text = List.flatten <$> parts.mapM (Part.fill values) := by
  induction reads with
  | nil => rfl
  | @char c rest parts hopens _ ih =>
    rw [fill_char values hopens, ih, List.mapM_cons]
    cases parts.mapM (Part.fill values) <;> rfl
  | @escape name closed rest parts ends _ ih =>
    have hescape : fill values .plain ('$' :: '$' :: (Part.braced name closed ++ rest)) =
        (['$', '{'] ++ ·) <$> fill values .literal
          (name ++ (if closed then ['}'] else []) ++ rest) := by
      rw [Part.braced, List.cons_append, fill]
    rw [hescape, fill_literal values ends, ih, List.mapM_cons]
    cases parts.mapM (Part.fill values) <;> rfl
  | @placeholder name closed rest parts ends _ ih =>
    have hname : fill values .plain ('$' :: (Part.braced name closed ++ rest)) =
        fill values (.name []) (name ++ (if closed then ['}'] else []) ++ rest) := by
      rw [Part.braced, List.cons_append, fill]
    rw [hname, fill_name values ends, ih, List.mapM_cons, List.reverse_nil, List.nil_append]
    cases Part.fill values (.placeholder name closed) with
    | error name => rfl
    | ok value => cases parts.mapM (Part.fill values) <;> rfl

end Template

end ApiManual
