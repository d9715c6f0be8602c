import ApiManual.Proofs.Draft.Filling

/-!
The texts of a draft: its title, its version and its base path. Of the groupings that are written
with one id the first text that is not empty counts, and it is filled in; of ids that become one
when they are filled in, the first text that is not empty then.
-/
namespace ApiManual

/-- What a text says when its placeholders are replaced, if that is anything. -/
def TemplateValues.value? (values : TemplateValues) (text : Option String) : Option String :=
  text.bind fun template => filled? (values.substitute template).toOption

theorem TemplateValues.value?_eq {values : TemplateValues} {text filled : Option String}
    (h : text.mapM values.substitute = .ok filled) : values.value? text = filled? filled := by
  cases text with
  | none =>
    rw [Option.mapM_none, Except.pure_eq_ok_iff] at h
    rw [← h]
    rfl
  | some template =>
    rw [Option.mapM_some, Except.map_eq_ok_iff] at h
    obtain ⟨value, hvalue, rfl⟩ := h
    rw [value?, Option.bind_some, hvalue]
    rfl

theorem TemplateValues.value?_eq_none (values : TemplateValues) {text : Option String}
    (h : filled? text = none) : values.value? text = none := by
  cases text with
  | none => rfl
  | some template =>
    have hempty : template = "" := by simpa [filled?] using h
    rw [hempty]
    rfl

/-- The ids that groupings are written with, in the order in which they first occur. -/
def writtenIds (fragments : List Fragment) : List (Option String) :=
  distinct ((fragments.flatMap (·.groupings)).map (·.id))

/-- The first text, written id by written id, of the groupings whose ids become this one. -/
def firstGathered (values : TemplateValues) (fragments : List Fragment) (id : Option String)
    (text : Grouping → Option String) : Option String :=
  ((writtenIds fragments).filter (Becomes values id ·)).findSome? fun written =>
    values.value? (((fragments.flatMap (·.groupings)).filter (·.id = written)).findSome?
      fun grouping => filled? (text grouping))

namespace Draft

/-- A text of drafts that is one of groupings, is filled in, and gives way to none that comes later.
-/
structure IsWording (text : Draft → Option String) (said : Grouping → Option String) : Prop where
  initial : text {} = none
  absorb : ∀ draft later : Draft,
    text (draft.absorb later) = (filled? (text draft) <|> filled? (text later))
  ofGrouping : ∀ origin grouping, text (ofGrouping origin grouping) = filled? (said grouping)
  filled : ∀ {values draft filled}, Filled values draft filled →
    (text draft).mapM values.substitute = .ok (text filled)

theorem isWording_title : IsWording (·.title) (·.title) :=
  ⟨rfl, fun _ _ => rfl, fun _ _ => rfl, fun h => h.title⟩

theorem isWording_version : IsWording (·.version) (·.version) :=
  ⟨rfl, fun _ _ => rfl, fun _ _ => rfl, fun h => h.version⟩

theorem isWording_basePath : IsWording (·.basePath) (·.basePath) :=
  ⟨rfl, fun _ _ => rfl, fun _ _ => rfl, fun h => h.basePath⟩

variable {values : TemplateValues} {text : Draft → Option String}
  {said : Grouping → Option String} (wording : IsWording text said)

include wording

theorem findSome?_written (fragments : List Fragment) (id : Option String) :
    (((written fragments).filter (·.id = id)).findSome? fun draft => filled? (text draft)) =
      ((fragments.flatMap (·.groupings)).filter (·.id = id)).findSome?
        fun grouping => filled? (said grouping) := by
  induction fragments with
  | nil => rfl
  | cons fragment rest ih =>
    have hfirst : (((fragment.groupings.map (Draft.ofGrouping fragment.label)).filter
        (·.id = id)).findSome? fun draft => filled? (text draft)) =
          (fragment.groupings.filter (·.id = id)).findSome?
            fun grouping => filled? (said grouping) := by
      rw [List.filter_map, List.findSome?_map]
      simp only [Function.comp_def, wording.ofGrouping, filled?_filled?]
      rfl
    rw [written, List.flatMap_cons, List.filter_append, List.findSome?_append, hfirst, ← written,
      ih, List.flatMap_cons, List.filter_append, List.findSome?_append]

theorem text_written (fragments : List Fragment) (id : Option String) :
    text (combined ((written fragments).filter (·.id = id))) =
      ((fragments.flatMap (·.groupings)).filter (·.id = id)).findSome?
        fun grouping => filled? (said grouping) := by
  rw [text_combined wording.initial wording.absorb, findSome?_written wording]
  intro draft hdraft
  obtain ⟨fragment, -, hmem⟩ := List.mem_flatMap.mp (List.mem_filter.mp hdraft).1
  obtain ⟨grouping, -, rfl⟩ := List.mem_map.mp hmem
  rw [wording.ofGrouping, filled?_filled?]

theorem findSome?_filled {drafts filled : List Draft}
    (h : List.Forall₂ (Filled values) drafts filled) (id : Option String) :
    ((filled.filter (·.id = id)).findSome? fun draft => filled? (text draft)) =
      (drafts.filter (Becomes values id ·.id)).findSome?
        fun draft => values.value? (text draft) := by
  induction h with
  | nil => rfl
  | @cons draft draft' rest rest' hfirst _ ih =>
    simp only [List.filter_cons, becomes_iff_of_filled hfirst.id]
    split
    · rw [List.findSome?_cons, List.findSome?_cons, ih,
        values.value?_eq (wording.filled hfirst)]
    · exact ih

omit wording in
theorem filter_becomes_ofFragments {fragments : List Fragment} {id : Option String}
    (h : ∃ draft ∈ ofFragments fragments, Becomes values id draft.id) :
    (ofFragments fragments).filter (Becomes values id ·.id) =
      ((writtenIds fragments).filter (Becomes values id ·)).map fun written =>
        combined ((Draft.written fragments).filter (·.id = written)) := by
  have hall : ∀ draft ∈ gather (written fragments),
      (decide (Becomes values id draft.id) && isKept draft) =
        decide (Becomes values id draft.id) := by
    intro draft hdraft
    by_cases hbecomes : Becomes values id draft.id
    · rw [isKept_of_becomes h hdraft hbecomes, Bool.and_true]
    · simp [hbecomes]
  rw [ofFragments_eq, List.filter_filter, List.filter_congr hall, gather_eq, List.filter_map,
    writtenIds, ids_written]
  congr 1
  apply List.filter_congr
  intro written hwritten
  rw [Function.comp_apply, combined_filter_id]
  rw [ids_written]
  exact mem_distinct.mp hwritten

/-- A text of a draft that fragments are gathered into. -/
theorem filled?_text_gather {fragments : List Fragment} {filled : List Draft}
    (h : (ofFragments fragments).mapM (fill values) = .ok filled) {draft : Draft}
    (hdraft : draft ∈ gather filled) :
    filled? (text draft) = firstGathered values fragments draft.id said := by
  have hfilled := forall₂_filled h
  have hcombined := filled?_combined wording.initial wording.absorb
    (filled.filter (·.id = draft.id))
  rw [← eq_combined_of_mem_gather hdraft] at hcombined
  rw [hcombined, findSome?_filled wording hfilled,
    filter_becomes_ofFragments (exists_becomes h hdraft), List.findSome?_map]
  simp only [Function.comp_def, text_written wording]
  rfl

theorem exists_filled_text {fragments : List Fragment} {filled : List Draft}
    (h : (ofFragments fragments).mapM (fill values) = .ok filled) {draft : Draft}
    (hdraft : draft ∈ gather filled) :
    ∀ written ∈ (writtenIds fragments).filter (Becomes values draft.id ·), ∃ text',
      (((fragments.flatMap (·.groupings)).filter (·.id = written)).findSome?
        fun grouping => filled? (said grouping)).mapM values.substitute = .ok text' := by
  intro written hwritten
  have hmem : combined ((Draft.written fragments).filter (·.id = written)) ∈
      (ofFragments fragments).filter (Becomes values draft.id ·.id) := by
    rw [filter_becomes_ofFragments (exists_becomes h hdraft)]
    exact List.mem_map_of_mem hwritten
  obtain ⟨draft', -, hfilled⟩ := (forall₂_filled h).exists_right (List.mem_filter.mp hmem).1
  exact ⟨text draft', text_written wording fragments written ▸ wording.filled hfilled⟩

end Draft

end ApiManual
