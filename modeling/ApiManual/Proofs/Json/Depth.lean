import ApiManual.Endpoint.Codec
import Mathlib.Data.List.Basic

/-! How deep arrays and objects are, and which of them a document has room for. -/
namespace ApiManual.Json

variable {σ : Type} {enclosing : Nat} {entries : List (String × Option Value)}

theorem depth_array_le_iff {items : List (Json σ)} {bound : Nat} :
    (Json.array items).depth ≤ bound ↔ 0 < bound ∧ ∀ item ∈ items, item.depth < bound := by
  rw [depth, Nat.succ_le_iff]
  induction items with
  | nil => simp [depthItems]
  | cons item rest ih =>
    rw [depthItems, List.forall_mem_cons, Nat.max_lt, ih]
    tauto

theorem depth_object_le_iff {members : List (σ × Json σ)} {bound : Nat} :
    (Json.object members).depth ≤ bound ↔
      0 < bound ∧ ∀ member ∈ members, member.2.depth < bound := by
  rw [depth, Nat.succ_le_iff]
  induction members with
  | nil => simp [depthMembers]
  | cons member rest ih =>
    rw [depthMembers, List.forall_mem_cons, Nat.max_lt, ih]
    tauto

theorem depth_lt_of_mem_array {items : List (Json σ)} {item : Json σ} (h : item ∈ items) :
    item.depth < (Json.array items).depth :=
  (depth_array_le_iff.mp (Nat.le_refl _)).2 item h

theorem depth_lt_of_mem_object {members : List (σ × Json σ)} {member : σ × Json σ}
    (h : member ∈ members) : member.2.depth < (Json.object members).depth :=
  (depth_object_le_iff.mp (Nat.le_refl _)).2 member h

theorem depth_strings_le_iff {texts : List String} {bound : Nat} :
    (strings texts).depth ≤ bound ↔ 0 < bound := by
  rw [strings, depth_array_le_iff, List.forall_mem_map]
  exact and_iff_left_of_imp fun hbound _ _ => hbound

/-- A document with so many arrays and objects around the value has room for it. -/
def Fits (enclosing : Nat) (value : Value) : Prop :=
  enclosing + value.depth ≤ TypeNode.depthLimit

theorem fits_string (room : enclosing ≤ TypeNode.depthLimit) (text : String) :
    Fits enclosing (.string text) := room

theorem fits_bool (room : enclosing ≤ TypeNode.depthLimit) (value : Bool) :
    Fits enclosing (.bool value) := room

theorem fits_strings (room : enclosing + 1 ≤ TypeNode.depthLimit) (texts : List String) :
    Fits enclosing (strings texts) := by
  have hdepth : (strings texts).depth ≤ 1 := depth_strings_le_iff.mpr Nat.one_pos
  exact Nat.le_trans (Nat.add_le_add_left hdepth enclosing) room

theorem fits_iff {β : Type} {value : Value} {items : List β} {part : β → Value}
    (room : enclosing + 1 ≤ TypeNode.depthLimit)
    (h : ∀ bound, value.depth ≤ bound ↔ 0 < bound ∧ ∀ item ∈ items, (part item).depth < bound) :
    Fits enclosing value ↔ ∀ item ∈ items, Fits (enclosing + 1) (part item) := by
  simp only [Fits]
  constructor
  · intro hle item hitem
    have hlt := ((h value.depth).mp (Nat.le_refl _)).2 item hitem
    omega
  · intro hitems
    have hle : value.depth ≤ TypeNode.depthLimit - enclosing := by
      refine (h _).mpr ⟨by omega, fun item hitem => ?_⟩
      have hle := hitems item hitem
      omega
    omega

theorem fits_array {items : List Value} (room : enclosing + 1 ≤ TypeNode.depthLimit) :
    Fits enclosing (.array items) ↔ ∀ item ∈ items, Fits (enclosing + 1) item :=
  fits_iff room fun _ => depth_array_le_iff

theorem forall_mem_present {motive : Value → Prop} :
    (∀ member ∈ entries.filterMap fun (name, value) => value.map (name, ·), motive member.2) ↔
      ∀ entry ∈ entries, ∀ value ∈ entry.2, motive value := by
  constructor
  · rintro h ⟨name, _⟩ hentry value rfl
    exact h (name, value) (List.mem_filterMap.mpr ⟨_, hentry, rfl⟩)
  · intro h member hmember
    obtain ⟨⟨name, _⟩, hentry, hvalue⟩ := List.mem_filterMap.mp hmember
    obtain ⟨value, rfl, rfl⟩ := Option.map_eq_some_iff.mp hvalue
    exact h _ hentry value rfl

theorem fits_present (room : enclosing + 1 ≤ TypeNode.depthLimit) :
    Fits enclosing (present entries) ↔
      ∀ entry ∈ entries, ∀ value ∈ entry.2, Fits (enclosing + 1) value :=
  (fits_iff room fun _ => depth_object_le_iff).trans forall_mem_present

end ApiManual.Json
