import ApiManual.Proofs.Draft.Filling

/-!
What the gathered drafts of fragments hold, whatever the order in which it comes: the ids of the
groupings, and for each id all that the groupings with that id hold.
-/
namespace ApiManual.Draft

/-- Items of drafts that are put together when one absorbs another, and are filled in one by one. -/
structure IsCollected {α : Type} (items : Draft → List α) (fills : TemplateValues → α → α → Prop) :
    Prop where
  initial : items {} = []
  absorb : ∀ draft later item,
    item ∈ items (draft.absorb later) ↔ item ∈ items draft ∨ item ∈ items later
  filled : ∀ {values draft filled}, Filled values draft filled → ∀ item,
    item ∈ items filled ↔ ∃ written ∈ items draft, fills values written item

theorem isCollected_origins : IsCollected (·.origins) fun _ written origin => written = origin where
  initial := rfl
  absorb _ _ _ := mem_addNew
  filled h origin := by
    rw [h.origins]
    simp

/-- The item says what the other one says, with the placeholders replaced. -/
def FillsItem (values : TemplateValues) (written item : DocumentationItem) : Prop :=
  values.substitute written.title = .ok item.title ∧
    values.substitute written.content = .ok item.content

theorem FillsItem.unique {values : TemplateValues} {written item other : DocumentationItem}
    (h : FillsItem values written item) (h' : FillsItem values written other) : item = other := by
  obtain ⟨title, content⟩ := item
  obtain ⟨title', content'⟩ := other
  cases Except.ok.inj (h.1.symm.trans h'.1)
  cases Except.ok.inj (h.2.symm.trans h'.2)
  rfl

theorem isCollected_documentation : IsCollected (·.documentation) FillsItem where
  initial := rfl
  absorb _ _ _ := mem_addNew
  filled h item := by
    constructor
    · intro hitem
      exact h.documentation.exists_left hitem
    · rintro ⟨written, hwritten, hfills⟩
      obtain ⟨other, hother, hfills'⟩ := h.documentation.exists_right hwritten
      exact FillsItem.unique hfills' hfills ▸ hother

variable {values : TemplateValues} {fragments : List Fragment} {filled : List Draft}

section

variable {α : Type} {items : Draft → List α} {fills : TemplateValues → α → α → Prop}
  (collected : IsCollected items fills)

include collected

theorem mem_combined {drafts : List Draft} {item : α} :
    item ∈ items (combined drafts) ↔ ∃ draft ∈ drafts, item ∈ items draft := by
  induction drafts using combined_induction with
  | empty => simp [collected.initial]
  | single draft => simp
  | absorb drafts draft later ih => simp [collected.absorb, ih, or_and_right, exists_or]

theorem mem_gather_filled (h : (ofFragments fragments).mapM (fill values) = .ok filled)
    {draft : Draft} (hdraft : draft ∈ gather filled) {item : α} :
    item ∈ items draft ↔ ∃ grouping ∈ written fragments, Becomes values draft.id grouping.id ∧
      ∃ said ∈ items grouping, fills values said item := by
  have hown : item ∈ items draft ↔ ∃ other ∈ filled, other.id = draft.id ∧ item ∈ items other := by
    have hmem : item ∈ items (combined (filled.filter (·.id = draft.id))) ↔
        ∃ other ∈ filled.filter (·.id = draft.id), item ∈ items other := mem_combined collected
    rw [← eq_combined_of_mem_gather hdraft] at hmem
    simp only [hmem, List.mem_filter, decide_eq_true_eq, and_assoc]
  have hgathered : ∀ {gathered}, gathered ∈ gather (written fragments) → ∀ {said},
      said ∈ items gathered ↔
        ∃ grouping ∈ written fragments, grouping.id = gathered.id ∧ said ∈ items grouping := by
    intro gathered hgathered said
    rw [eq_combined_of_mem_gather hgathered, mem_combined collected]
    simp only [List.mem_filter, decide_eq_true_eq, and_assoc, ← eq_combined_of_mem_gather hgathered]
  rw [hown]
  constructor
  · rintro ⟨other, hother, hid, hitem⟩
    obtain ⟨gathered, hmem, hfilled⟩ := (forall₂_filled h).exists_left hother
    obtain ⟨said, hsaid, hfills⟩ := (collected.filled hfilled item).mp hitem
    obtain ⟨grouping, hgrouping, hsame, hsaid⟩ :=
      (hgathered (List.mem_filter.mp hmem).1).mp hsaid
    exact ⟨grouping, hgrouping, hsame ▸ hid ▸ hfilled.id, said, hsaid, hfills⟩
  · rintro ⟨grouping, hgrouping, hbecomes, said, hsaid, hfills⟩
    have hid : grouping.id ∈ (gather (written fragments)).map (·.id) := by
      rw [ids_gather, mem_distinct]
      exact List.mem_map_of_mem hgrouping
    obtain ⟨gathered, hmem, hsame⟩ := List.mem_map.mp hid
    -- the draft is there, so a default grouping that becomes part of it was not left out
    have hkept := isKept_of_becomes (exists_becomes h hdraft) hmem (hsame ▸ hbecomes)
    obtain ⟨other, hother, hfilled⟩ :=
      (forall₂_filled h).exists_right (List.mem_filter.mpr ⟨hmem, hkept⟩)
    refine ⟨other, hother, ?_, (collected.filled hfilled item).mpr ⟨said, ?_, hfills⟩⟩
    · rw [← hsame] at hbecomes
      exact Except.ok.inj (hfilled.id.symm.trans hbecomes)
    · exact (hgathered hmem).mpr ⟨grouping, hgrouping, hsame.symm, hsaid⟩

end

theorem isKept_iff {draft : Draft} (hdraft : draft ∈ gather (written fragments)) :
    draft.isKept = true ↔ draft.id.isSome ∨
      ∃ occurrence ∈ fragments.flatMap Fragment.occurrences, occurrence.id = draft.id := by
  have hendpoints : draft.endpoints.isEmpty = draft.occurrences.isEmpty := by
    simp [occurrences]
  rw [isKept, hendpoints, occurrences_of_mem_gather hdraft, occurrences_written]
  generalize fragments.flatMap Fragment.occurrences = encountered
  simp [List.filter_eq_nil_iff]

theorem mem_ids_ofFragments {id : Option String} :
    id ∈ (ofFragments fragments).map (·.id) ↔ id ∈ (written fragments).map (·.id) ∧
      (id.isSome ∨ ∃ occurrence ∈ fragments.flatMap Fragment.occurrences, occurrence.id = id) := by
  have hids : id ∈ (written fragments).map (·.id) ↔
      id ∈ (gather (written fragments)).map (·.id) := by rw [ids_gather, mem_distinct]
  rw [hids, ofFragments_eq, List.mem_map, List.mem_map]
  constructor
  · rintro ⟨draft, hdraft, rfl⟩
    obtain ⟨hmem, hdraft⟩ := List.mem_filter.mp hdraft
    exact ⟨⟨draft, hmem, rfl⟩, (isKept_iff hmem).mp hdraft⟩
  · rintro ⟨⟨draft, hmem, rfl⟩, hdraft⟩
    exact ⟨draft, List.mem_filter.mpr ⟨hmem, (isKept_iff hmem).mpr hdraft⟩, rfl⟩

end ApiManual.Draft
