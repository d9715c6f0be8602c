/-! Texts cut at every occurrence of a separator. -/
namespace ApiManual.Text

/-- The pieces of a text between the separators; a text without one is its only piece. -/
def fields (separator : Char) : List Char → List (List Char)
  | [] => [[]]
  | c :: rest =>
    if c = separator then [] :: fields separator rest
    else match fields separator rest with
      | [] => [[c]]
      | piece :: pieces => (c :: piece) :: pieces

theorem fields_ne_nil (separator : Char) (text : List Char) : fields separator text ≠ [] := by
  cases text with
  | nil => simp [fields]
  | cons c rest =>
    unfold fields
    split
    · simp
    · split <;> simp

@[simp] theorem fields_separator_cons (separator : Char) (text : List Char) :
    fields separator (separator :: text) = [] :: fields separator text := by
  simp [fields]

theorem intercalate_fields (separator : Char) (text : List Char) :
    [separator].intercalate (fields separator text) = text := by
  induction text with
  | nil => simp [fields, List.intercalate]
  | cons c rest ih =>
    unfold fields
    split
    · next h =>
      subst h
      cases hf : fields c rest with
      | nil => exact absurd hf (fields_ne_nil _ _)
      | cons piece pieces =>
        rw [hf] at ih
        simp only [List.intercalate, List.intersperse_cons_cons, List.flatten_cons] at ih ⊢
        simp [ih]
    · cases hf : fields separator rest with
      | nil => exact absurd hf (fields_ne_nil _ _)
      | cons piece pieces =>
        rw [hf] at ih
        rw [← ih]
        cases pieces <;> simp [List.intercalate]

end ApiManual.Text
