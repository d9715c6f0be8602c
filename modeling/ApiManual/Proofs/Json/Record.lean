import ApiManual.Proofs.Json.Depth
import ApiManual.Proofs.Json.RoundTrip
import ApiManual.Proofs.TypeNode.Position

/-! Records read back member by member, and the values that a record was read from. -/
namespace ApiManual.Json

variable {σ α : Type}

theorem spellItems_eq_map (items : List Value) : spellItems items = items.map spell := by
  induction items with
  | nil => rfl
  | cons item rest ih => rw [spellItems, ih, List.map_cons]

theorem spellMembers_eq_map (members : List (String × Value)) :
    spellMembers members = members.map fun member => (some member.1, spell member.2) := by
  induction members with
  | nil => rfl
  | cons member rest ih => rw [spellMembers, ih, List.map_cons]

theorem then_read {β γ : Type} {first : Option β} {rest : β → Option γ} {b : β} {c : γ}
    (hfirst : first = some b) (hrest : rest b = some c) : (first >>= rest) = some c := by
  rw [hfirst]
  exact hrest

theorem numberFree_present {entries : List (String × Option Value)}
    (h : ∀ entry ∈ entries, ∀ value ∈ entry.2, NumberFree value) :
    NumberFree (present entries) :=
  .object (forall_mem_present.mpr h)

theorem mapM_map {β γ : Type} {read : γ → Option β} {write : β → γ} {items : List β}
    (hread : ∀ a ∈ items, read (write a) = some a) : (items.map write).mapM read = some items := by
  induction items with
  | nil => rfl
  | cons a rest ih =>
    obtain ⟨ha, hrest⟩ := List.forall_mem_cons.mp hread
    rw [List.map_cons, List.mapM_cons, ih hrest, ha]
    rfl

theorem list?_map {read : Json σ → Option α} {toJson : α → Json σ} {items : List α}
    (hread : ∀ a ∈ items, read (toJson a) = some a) :
    list? read (.array (items.map toJson)) = some items :=
  mapM_map hread

def spelledMembers (entries : List (String × Option Value)) : List (String × Spelled) :=
  entries.filterMap fun (name, value) => value.map fun value => (name, spell value)

section

variable {entries : List (String × Option Value)} {name : String} {read : Spelled → Option α}

theorem names_spelledMembers (entries : List (String × Option Value)) :
    ((spelledMembers entries).map (·.1)).Sublist (entries.map (·.1)) := by
  induction entries with
  | nil => exact .slnil
  | cons entry rest ih =>
    obtain ⟨name, value⟩ := entry
    cases value with
    | none => exact ih.cons name
    | some value => exact ih.cons_cons name

theorem spell_present (entries : List (String × Option Value)) : spell (present entries) =
    .object ((spelledMembers entries).map fun member => (some member.1, member.2)) := by
  rw [present, spell, spellMembers_eq_map, spelledMembers, List.map_filterMap, List.map_filterMap]
  simp only [Option.map_map, Function.comp_def]

theorem spelledRecord?_present {names : List String} (hnames : entries.map (·.1) = names)
    (nodup : names.Nodup) :
    spelledRecord? names (spell (present entries)) = some (spelledMembers entries) := by
  have hsublist := hnames ▸ names_spelledMembers entries
  have hknown : ∀ member ∈ spelledMembers entries, names.contains member.1 = true := by
    intro member hmember
    simpa using hsublist.subset (List.mem_map_of_mem hmember)
  rw [spell_present, spelledRecord?, record?, mapM_map (by exact fun _ _ => rfl)]
  simp only [Option.bind_eq_bind, Option.bind_some, List.filter_eq_self.mpr hknown]
  rw [if_pos (nodup.sublist hsublist)]

theorem lookup_spelledMembers (entries : List (String × Option Value)) (name : String) :
    (spelledMembers entries).lookup name =
      ((entries.filter (·.1 = name)).findSome? (·.2)).map spell := by
  induction entries with
  | nil => rfl
  | cons entry rest ih =>
    obtain ⟨other, value⟩ := entry
    rw [List.filter_cons]
    cases value with
    | none =>
      have hskip : spelledMembers ((other, none) :: rest) = spelledMembers rest := rfl
      rw [hskip, ih]
      split <;> rfl
    | some value =>
      have hhead : spelledMembers ((other, some value) :: rest) =
          (other, spell value) :: spelledMembers rest := rfl
      rw [hhead, List.lookup_cons, ih]
      by_cases heq : other = name
      · simp [heq]
      · rw [beq_eq_false_iff_ne.mpr (Ne.symm heq), if_neg (by simpa using heq)]

theorem lookup_present {value : Option Value}
    (h : entries.filter (·.1 = name) = [(name, value)]) :
    (spelledMembers entries).lookup name = value.map spell := by
  rw [lookup_spelledMembers, h]
  cases value <;> rfl

theorem required?_present {value : Value} {a : α}
    (h : entries.filter (·.1 = name) = [(name, some value)]) (hread : read (spell value) = some a) :
    required? (spelledMembers entries) name read = some a := by
  rw [required?, lookup_present h]
  exact hread

theorem defaulted?_present {value : Value} {default a : α}
    (h : entries.filter (·.1 = name) = [(name, some value)]) (hread : read (spell value) = some a) :
    defaulted? (spelledMembers entries) name default read = some a := by
  rw [defaulted?, lookup_present h]
  exact hread

theorem optional?_present {toJson : α → Value} {field : Option α}
    (h : entries.filter (·.1 = name) = [(name, field.map toJson)]) (hnull : read .null = none)
    (hread : ∀ a ∈ field, read (spell (toJson a)) = some a) :
    optional? (spelledMembers entries) name read = some field := by
  rw [optional?, lookup_present h]
  cases field with
  | none => rfl
  | some a =>
    have ha := hread a rfl
    simp only [Option.map_some]
    split
    · rename_i heq
      cases heq
    · rename_i heq
      rw [Option.some.inj heq, hnull] at ha
      cases ha
    · rename_i heq
      rw [← Option.some.inj heq, ha]
      rfl

theorem list?_spell {toJson : α → Value} {items : List α}
    (hread : ∀ a ∈ items, read (spell (toJson a)) = some a) :
    list? read (spell (.array (items.map toJson))) = some items := by
  rw [spell, spellItems_eq_map, List.map_map]
  exact list?_map hread

theorem texts_spell (texts : List String) :
    list? text? (spell (strings texts)) = some texts := by
  have htext : ∀ text ∈ texts, text? (spell (.string text)) = some text := fun _ _ => rfl
  exact list?_spell htext

end

section

variable {members : List (String × Json σ)} {name : String} {read : Json σ → Option α}
  {value : Json σ}

theorem exists_of_lookup (h : members.lookup name = some value) :
    ∃ member ∈ members, member.2 = value := by
  obtain ⟨before, after, rfl, -⟩ := List.lookup_eq_some_iff.mp h
  exact ⟨(name, value), List.mem_append_right _ List.mem_cons_self, rfl⟩

theorem exists_of_required? {a : α} (h : required? members name read = some a) :
    ∃ member ∈ members, read member.2 = some a := by
  obtain ⟨value, hvalue, hread⟩ := Option.bind_eq_some_iff.mp h
  obtain ⟨member, hmember, rfl⟩ := exists_of_lookup hvalue
  exact ⟨member, hmember, hread⟩

theorem exists_of_optional? {field : Option α} (h : optional? members name read = some field) :
    ∀ a ∈ field, ∃ member ∈ members, read member.2 = some a := by
  rw [optional?] at h
  split at h
  · cases h
    exact nofun
  · cases h
    exact nofun
  · rename_i hvalue
    obtain ⟨member, hmember, rfl⟩ := exists_of_lookup hvalue
    obtain ⟨a, hread, rfl⟩ := Option.map_eq_some_iff.mp h
    exact fun _ ha => ⟨member, hmember, Option.some.inj ha ▸ hread⟩

theorem exists_of_defaulted? {default a : α} (h : defaulted? members name default read = some a) :
    a = default ∨ ∃ member ∈ members, read member.2 = some a := by
  rw [defaulted?] at h
  split at h
  · exact .inl (Option.some.inj h).symm
  · rename_i hvalue
    obtain ⟨member, hmember, rfl⟩ := exists_of_lookup hvalue
    exact .inr ⟨member, hmember, h⟩

theorem exists_of_mapM {β : Type} {f : β → Option α} {xs : List β} {as : List α}
    (h : xs.mapM f = some as) : ∀ a ∈ as, ∃ x ∈ xs, f x = some a := by
  induction xs generalizing as with
  | nil =>
    cases h
    exact nofun
  | cons x rest ih =>
    simp only [List.mapM_cons, Option.bind_eq_bind, Option.bind_eq_some_iff, Option.pure_def,
      Option.some.injEq] at h
    obtain ⟨a, ha, as, has, rfl⟩ := h
    intro other hother
    rcases List.mem_cons.mp hother with rfl | hother
    · exact ⟨x, List.mem_cons_self, ha⟩
    · obtain ⟨found, hfound, hread⟩ := ih has other hother
      exact ⟨found, List.mem_cons_of_mem _ hfound, hread⟩

theorem exists_of_list? {as : List α} (h : list? read value = some as) :
    ∃ items, value = .array items ∧ ∀ a ∈ as, ∃ item ∈ items, read item = some a := by
  cases value with
  | array items =>
    exact ⟨items, rfl, exists_of_mapM h⟩
  | _ => cases h

theorem exists_of_defaultedList? {as : List α}
    (h : defaulted? members name [] (list? read) = some as) :
    ∀ a ∈ as, ∃ item, read item = some a := by
  intro a ha
  rcases exists_of_defaulted? h with rfl | ⟨member, -, hlist⟩
  · cases ha
  · obtain ⟨items, -, hread⟩ := exists_of_list? hlist
    obtain ⟨item, -, hitem⟩ := hread a ha
    exact ⟨item, hitem⟩

theorem depth_lt_of_mem_record? {textOf : σ → Option String} {names : List String}
    (h : record? textOf names value = some members) {member : String × Json σ}
    (hmember : member ∈ members) : member.2.depth < value.depth := by
  cases value with
  | array items =>
    simp only [record?] at h
    split at h
    · cases h
      exact depth_lt_of_mem_array (List.of_mem_zip hmember).2
    · cases h
  | object all =>
    simp only [record?, Option.bind_eq_bind, Option.bind_eq_some_iff] at h
    obtain ⟨named, hnamed, h⟩ := h
    split at h
    · cases h
      obtain ⟨other, hother, heq⟩ := exists_of_mapM hnamed member (List.mem_of_mem_filter hmember)
      obtain ⟨name, -, hname⟩ := Option.bind_eq_some_iff.mp heq
      cases hname
      exact depth_lt_of_mem_object hother
    · cases h
  | _ => cases h

end

end ApiManual.Json
