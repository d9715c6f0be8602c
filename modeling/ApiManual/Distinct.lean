/-! Lists without repetitions, in the order in which their items first occur. -/
namespace ApiManual

/-- The items of a list, each where it first occurs. -/
def distinct {α : Type} [DecidableEq α] : List α → List α
  | [] => []
  | x :: rest => x :: (distinct rest).filter (· ≠ x)

/-- Adds to a list the items of another one that it does not hold yet. -/
def addNew {α : Type} [DecidableEq α] (xs ys : List α) : List α :=
  xs ++ (distinct ys).filter fun y => !xs.contains y

/-- Puts an item at the end of a list that does not hold it. -/
def pushNew {α : Type} [DecidableEq α] (kept : List α) (x : α) : List α :=
  if kept.contains x then kept else kept ++ [x]

section

variable {α : Type} [DecidableEq α]

@[simp] theorem mem_distinct {x : α} {xs : List α} : x ∈ distinct xs ↔ x ∈ xs := by
  induction xs with
  | nil => simp [distinct]
  | cons y rest ih => by_cases h : x = y <;> simp [distinct, ih, h]

theorem nodup_distinct (xs : List α) : (distinct xs).Nodup := by
  induction xs with
  | nil => simp [distinct]
  | cons x rest ih =>
    rw [distinct, List.nodup_cons]
    exact ⟨by simp, ih.filter _⟩

@[simp] theorem mem_addNew {x : α} {xs ys : List α} : x ∈ addNew xs ys ↔ x ∈ xs ∨ x ∈ ys := by
  by_cases h : x ∈ xs <;> simp [addNew, h]

end

end ApiManual
