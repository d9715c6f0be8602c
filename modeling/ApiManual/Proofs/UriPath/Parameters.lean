import ApiManual.Proofs.UriPath.Segments

/-!
The parameters of a path are those of any path above it and, further on, those of what is written
below that.
-/
namespace ApiManual.UriPath

theorem tokensFrom_append (first : Nat) (upper lower : List (List Char)) :
    tokensFrom first (upper ++ lower) =
      tokensFrom first upper ++ tokensFrom (first + upper.length) lower := by
  induction upper generalizing first with
  | nil => simp [tokensFrom]
  | cons segment rest ih =>
    rw [List.cons_append, tokensFrom, tokensFrom, ih, List.append_assoc, List.length_cons,
      Nat.add_assoc, Nat.add_comm 1]

theorem tokensFrom_add (offset first : Nat) (segments : List (List Char)) :
    tokensFrom (offset + first) segments =
      (tokensFrom first segments).map fun token => (token.1, offset + token.2) := by
  induction segments generalizing first with
  | nil => rfl
  | cons segment rest ih =>
    rw [tokensFrom, tokensFrom, Nat.add_assoc, ih, List.map_append, List.map_map]
    rfl

theorem mem_tokensFrom {first position : Nat} {name : List Char} {segments : List (List Char)} :
    (name, position) ∈ tokensFrom first segments ↔
      ∃ index segment, segments[index]? = some segment ∧ name ∈ tokenNames none segment ∧
        position = first + index := by
  induction segments generalizing first with
  | nil => simp [tokensFrom]
  | cons head rest ih =>
    unfold tokensFrom
    rw [List.mem_append, ih]
    constructor
    · rintro (hhead | ⟨index, segment, hindex, hname, hposition⟩)
      · obtain ⟨other, hother, heq⟩ := List.mem_map.mp hhead
        cases heq
        exact ⟨0, head, rfl, hother, rfl⟩
      · exact ⟨index + 1, segment, hindex, hname, by omega⟩
    · rintro ⟨index, segment, hindex, hname, hposition⟩
      cases index with
      | zero =>
        cases hindex
        exact Or.inl (List.mem_map.mpr ⟨name, hname, by rw [hposition, Nat.add_zero]⟩)
      | succ index => exact Or.inr ⟨index, segment, hindex, hname, by omega⟩

def parameterNames (path : String) : List String := (parameters path).map (·.name)

def Token.shift (offset : Nat) (token : Token) : Token :=
  { token with position := offset + token.position }

@[simp] theorem Token.shift_name (offset : Nat) (token : Token) :
    (token.shift offset).name = token.name := rfl

@[simp] theorem Token.shift_position (offset : Nat) (token : Token) :
    (token.shift offset).position = offset + token.position := rfl

theorem mem_parameters {path : String} {token : Token} :
    token ∈ parameters path ↔
      ∃ segment, (parts path)[token.position]? = some segment ∧
        token.name.toList ∈ tokenNames none segment := by
  obtain ⟨name, position⟩ := token
  have hmem : (⟨name, position⟩ : Token) ∈ parameters path ↔
      (name.toList, position) ∈ tokensFrom 0 (parts path) := by
    constructor
    · intro h
      obtain ⟨⟨text, at_⟩, htext, heq⟩ := List.mem_map.mp h
      cases heq
      rwa [String.toList_ofList]
    · intro h
      exact List.mem_map.mpr ⟨_, h, by simp⟩
  rw [hmem, mem_tokensFrom]
  constructor
  · rintro ⟨index, segment, hindex, hname, hposition⟩
    rw [Nat.zero_add] at hposition
    exact ⟨segment, hposition ▸ hindex, hname⟩
  · rintro ⟨segment, hsegment, hname⟩
    exact ⟨position, segment, hsegment, hname, (Nat.zero_add position).symm⟩

theorem position_lt_segmentCount {path : String} {token : Token} (h : token ∈ parameters path) :
    token.position < segmentCount path := by
  obtain ⟨segment, hsegment, -⟩ := mem_parameters.mp h
  exact (List.getElem?_eq_some_iff.mp hsegment).1

/-- What a path brings in below another one follows the parameters of that. -/
theorem parameters_eq_append_relativeTo {upper lower : String} (hu : WellSlashed upper)
    (hl : WellSlashed lower) (hcovers : Covers upper lower) (hne : upper ≠ lower) :
    parameters lower = parameters upper ++
      (parameters (relativeTo upper lower)).map (Token.shift (segmentCount upper)) := by
  have hparts := parts_eq_append_relativeTo hu hl hcovers hne
  unfold parts at hparts
  unfold parameters
  rw [hparts, tokensFrom_append, List.map_append, Nat.zero_add, ← Nat.add_zero (List.length _),
    tokensFrom_add, List.map_map, List.map_map]
  rfl

end ApiManual.UriPath
