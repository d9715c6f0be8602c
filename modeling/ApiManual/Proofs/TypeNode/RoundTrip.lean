import ApiManual.Proofs.Json.Record

/-! Types read back from JSON, as far as a document may nest. -/
namespace ApiManual.TypeNode

open Json (Value Spelled spell NumberFree)

theorem fieldsToJson_eq_map (fields : List (String × TypeNode)) :
    fieldsToJson fields = fields.map fun field =>
      .object [("name", .string field.1), ("type", field.2.toJson)] := by
  induction fields with
  | nil => rfl
  | cons field rest ih => rw [fieldsToJson, ih, List.map_cons]

theorem numberFree_toJson (node : TypeNode) : NumberFree node.toJson := by
  induction node using tree_induction with
  | primitive name => exact .object (by simp [NumberFree.string])
  | object name fields ih =>
    have hfields : NumberFree (.array (fieldsToJson fields)) := by
      refine .array ?_
      rw [fieldsToJson_eq_map, List.forall_mem_map]
      exact fun field hfield => .object (by simp [NumberFree.string, ih field hfield])
    exact .object (by simp [NumberFree.string, hfields])
  | container kind element ih => exact .object (by simp [NumberFree.string, ih])
  | enumeration name literals =>
    exact .object (by simp [NumberFree.string, Json.numberFree_strings])
  | reference target path =>
    exact .object (by simp [NumberFree.string, Json.numberFree_strings])

theorem depth_element_lt (kind : ContainerKind) (element : TypeNode) :
    element.toJson.depth < (container kind element).toJson.depth := by
  simp only [toJson, Json.depth, Json.depthMembers]
  omega

theorem depth_field_lt (name : String) {fields : List (String × TypeNode)}
    {field : String × TypeNode} (h : field ∈ fields) :
    field.2.toJson.depth < (object name fields).toJson.depth := by
  have hitem : .object [("name", .string field.1), ("type", field.2.toJson)] ∈
      fieldsToJson fields := by
    rw [fieldsToJson_eq_map]
    exact List.mem_map_of_mem h
  have hlt := Json.depth_lt_of_mem_array hitem
  simp only [toJson, Json.depth, Json.depthMembers] at hlt ⊢
  omega

theorem containerKind?_name (kind : ContainerKind) :
    containerKind? (.string kind.name) = some kind := by
  cases kind <;> rfl

theorem list?_strings (texts : List String) :
    Json.list? string? (Json.strings texts) = some texts := by
  have htext : ∀ text ∈ texts, string? (.string text) = some text := fun _ _ => rfl
  exact Json.list?_map htext

theorem ofValue?_toJson (node : TypeNode) {fuel : Nat} (inner : Bool)
    (h : node.toJson.depth < fuel) : ofValue? fuel inner node.toJson = some node := by
  induction node using tree_induction generalizing fuel inner with
  | primitive name =>
    obtain ⟨fuel, rfl⟩ := Nat.exists_eq_add_one_of_ne_zero (Nat.ne_zero_of_lt h)
    rfl
  | object name fields ih =>
    obtain ⟨fuel, rfl⟩ := Nat.exists_eq_add_one_of_ne_zero (Nat.ne_zero_of_lt h)
    have hfields : ∀ field ∈ fields, ofValue? fuel true field.2.toJson = some field.2 := by
      intro field hfield
      have hlt := depth_field_lt name hfield
      exact ih field hfield true (by omega)
    change (do
      let fields ← Json.list? _ (.array (fieldsToJson fields))
      return object name fields) = _
    rw [fieldsToJson_eq_map, Json.list?_map]
    · rfl
    · intro field hfield
      change (do return (field.1, ← ofValue? fuel true field.2.toJson)) = _
      rw [hfields field hfield]
      rfl
  | container kind element ih =>
    obtain ⟨fuel, rfl⟩ := Nat.exists_eq_add_one_of_ne_zero (Nat.ne_zero_of_lt h)
    have helement : ofValue? fuel true element.toJson = some element := by
      have hlt := depth_element_lt kind element
      exact ih true (by omega)
    change (do
      let kind ← containerKind? (.string kind.name)
      return container kind (← ofValue? fuel true element.toJson)) = _
    rw [containerKind?_name, helement]
    rfl
  | enumeration name literals =>
    obtain ⟨fuel, rfl⟩ := Nat.exists_eq_add_one_of_ne_zero (Nat.ne_zero_of_lt h)
    change (do
      return enumeration name (← Json.list? string? (Json.strings literals))) = _
    rw [list?_strings]
    rfl
  | reference target path =>
    obtain ⟨fuel, rfl⟩ := Nat.exists_eq_add_one_of_ne_zero (Nat.ne_zero_of_lt h)
    change (do
      return reference target (← Json.list? string? (Json.strings path))) = _
    rw [list?_strings]
    rfl

theorem depth_body_le {value tag body : Value} (h : tagged? value = some (tag, body)) :
    body.depth ≤ value.depth := by
  cases value with
  | array items =>
    cases items with
    | nil => cases h
    | cons kind items =>
      cases h
      simp only [Json.depth, Json.depthItems]
      omega
  | object members =>
    simp only [tagged?] at h
    split at h
    · cases h
      rw [Json.depth_object_le_iff]
      exact ⟨Nat.succ_pos _, fun member hmember =>
        Json.depth_lt_of_mem_object (List.mem_of_mem_filter hmember)⟩
    · cases h
  | _ => cases h

theorem depth_lt_of_mem_body {value tag body : Value} (h : tagged? value = some (tag, body))
    {names : List String} {members : List (String × Value)}
    (hmembers : Json.record? some names body = some members) {member : String × Value}
    (hmember : member ∈ members) : member.2.depth < value.depth :=
  Nat.lt_of_lt_of_le (Json.depth_lt_of_mem_record? hmembers hmember) (depth_body_le h)

theorem depth_strings_lt {members : List (String × Value)} {name : String} {texts : List String}
    {bound : Nat} (h : Json.required? members name (Json.list? string?) = some texts)
    (hbound : ∀ member ∈ members, member.2.depth < bound) : (Json.strings texts).depth < bound := by
  obtain ⟨member, hmember, hlist⟩ := Json.exists_of_required? h
  obtain ⟨items, hitems, -⟩ := Json.exists_of_list? hlist
  have hlt := hbound member hmember
  rw [hitems] at hlt
  exact Nat.lt_of_le_of_lt (Json.depth_strings_le_iff.mpr (Nat.succ_pos _)) hlt

theorem depth_toJson_le {fuel : Nat} {inner : Bool} {value : Value} {node : TypeNode}
    (h : ofValue? fuel inner value = some node) : node.toJson.depth ≤ value.depth := by
  induction fuel generalizing inner value node with
  | zero => cases h
  | succ fuel ih =>
    simp only [ofValue?, Option.bind_eq_bind, Option.bind_eq_some_iff] at h
    obtain ⟨⟨tag, body⟩, htagged, kind, -, h⟩ := h
    split at h <;>
      simp only [Option.bind_eq_some_iff, Option.pure_def, Option.some.injEq, reduceCtorEq] at h
    · obtain ⟨members, hmembers, name, hname, rfl⟩ := h
      obtain ⟨member, hmember, -⟩ := Json.exists_of_required? hname
      have hlt := depth_lt_of_mem_body htagged hmembers hmember
      simp only [toJson, Json.depth, Json.depthMembers]
      omega
    · obtain ⟨members, hmembers, name, -, fields, hfields, rfl⟩ := h
      obtain ⟨member, hmember, hlist⟩ := Json.exists_of_required? hfields
      obtain ⟨items, hitems, hread⟩ := Json.exists_of_list? hlist
      have hlt := depth_lt_of_mem_body htagged hmembers hmember
      have hwritten : (Json.array (fieldsToJson fields)).depth ≤ member.2.depth := by
        rw [hitems, fieldsToJson_eq_map, Json.depth_array_le_iff, List.forall_mem_map]
        refine ⟨Nat.succ_pos _, fun field hfield => ?_⟩
        obtain ⟨item, hitem, hfield⟩ := hread field hfield
        simp only [Option.bind_eq_some_iff, Option.some.injEq] at hfield
        obtain ⟨parts, hparts, label, -, type, htype, rfl⟩ := hfield
        obtain ⟨part, hpart, hread⟩ := Json.exists_of_required? htype
        have htype := ih hread
        have hpart := Json.depth_lt_of_mem_record? hparts hpart
        have hitem := Json.depth_lt_of_mem_array hitem
        simp only [Json.depth, Json.depthMembers] at hitem ⊢
        omega
      simp only [toJson, Json.depth, Json.depthMembers] at hwritten ⊢
      omega
    · obtain ⟨members, hmembers, kind, -, element, helement, rfl⟩ := h
      obtain ⟨member, hmember, hread⟩ := Json.exists_of_required? helement
      have hlt := depth_lt_of_mem_body htagged hmembers hmember
      have hle := ih hread
      simp only [toJson, Json.depth, Json.depthMembers]
      omega
    · obtain ⟨members, hmembers, name, -, literals, hliterals, rfl⟩ := h
      have hlt := depth_strings_lt hliterals fun _ => depth_lt_of_mem_body htagged hmembers
      simp only [toJson, Json.depth, Json.depthMembers]
      omega
    · obtain ⟨members, hmembers, target, -, path, hpath, rfl⟩ := h
      have hlt := depth_strings_lt hpath fun _ => depth_lt_of_mem_body htagged hmembers
      simp only [toJson, Json.depth, Json.depthMembers]
      omega

theorem ofSpelled?_toJson {enclosing : Nat} {node : TypeNode}
    (fits : Json.Fits enclosing node.toJson) :
    ofSpelled? enclosing (spell node.toJson) = some node := by
  rw [Json.Fits] at fits
  rw [ofSpelled?, Json.clean?_spell (numberFree_toJson node)]
  simp only [Option.bind_eq_bind, Option.bind_some]
  rw [if_pos fits]
  exact ofValue?_toJson node false (Nat.lt_succ_self _)

theorem fits_of_ofSpelled? {enclosing : Nat} {spelled : Spelled} {node : TypeNode}
    (h : ofSpelled? enclosing spelled = some node) : Json.Fits enclosing node.toJson := by
  obtain ⟨value, -, h⟩ := Option.bind_eq_some_iff.mp h
  split at h
  · rename_i hlimit
    exact Nat.le_trans (Nat.add_le_add_left (depth_toJson_le h) enclosing) hlimit
  · cases h

theorem ofSpelled?_null (enclosing : Nat) : ofSpelled? enclosing .null = none := by
  simp [ofSpelled?, Json.clean?, ofValue?, tagged?]

theorem fits_of_optional? {enclosing : Nat} {members : List (String × Spelled)} {name : String}
    {field : Option TypeNode}
    (h : Json.optional? members name (ofSpelled? enclosing) = some field) :
    ∀ type ∈ field, Json.Fits enclosing type.toJson := by
  intro type htype
  obtain ⟨member, -, hread⟩ := Json.exists_of_optional? h type htype
  exact fits_of_ofSpelled? hread

end ApiManual.TypeNode
