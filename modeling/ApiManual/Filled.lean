/-! Texts and lists that count only if they say something. -/
namespace ApiManual

/-- A text that is present and not empty. -/
def filled? (text : Option String) : Option String := text.filter (· ≠ "")

/-- A list that is present and not empty. -/
def listed? {α : Type} (items : Option (List α)) : Option (List α) := items.filter (!·.isEmpty)

theorem filled?_eq_some_iff {text : Option String} {value : String} :
    filled? text = some value ↔ text = some value ∧ value ≠ "" := by
  simp [filled?, Option.filter_eq_some_iff]

@[simp] theorem filled?_filled? (text : Option String) : filled? (filled? text) = filled? text := by
  simp [filled?]

theorem filled?_orElse_filled? (first second : Option String) :
    filled? (filled? first <|> filled? second) = (filled? first <|> filled? second) := by
  cases h : filled? first with
  | none => exact filled?_filled? second
  | some value =>
    change filled? (some value) = some value
    rw [← h, filled?_filled?]

theorem listed?_eq_some_iff {α : Type} {items : Option (List α)} {values : List α} :
    listed? items = some values ↔ items = some values ∧ values ≠ [] := by
  simp [listed?, Option.filter_eq_some_iff]

end ApiManual
