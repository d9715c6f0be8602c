import ApiManual.Proofs.Draft.Filling

/-!
When drafts can be filled in: if the placeholders in what groupings say have values, then so have
those in what the drafts of the groupings say.
-/
namespace ApiManual

def Substitutable (values : TemplateValues) (template : String) : Prop :=
  ∃ text, values.substitute template = .ok text

instance (values : TemplateValues) (template : String) :
    Decidable (Substitutable values template) :=
  decidable_of_iff ((values.substitute template).isOk = true) Except.isOk_iff

def Endpoint.Fillable (values : TemplateValues) (endpoint : Endpoint) : Prop :=
  ∀ path ∈ endpoint.paths, Substitutable values path

instance (values : TemplateValues) (endpoint : Endpoint) : Decidable (endpoint.Fillable values) :=
  inferInstanceAs (Decidable (∀ path ∈ endpoint.paths, Substitutable values path))

/-- The placeholders in all of a grouping that may be filled in have values. -/
structure Grouping.Fillable (values : TemplateValues) (grouping : Grouping) : Prop where
  id : ∀ text ∈ grouping.id, Substitutable values text
  title : ∀ text ∈ grouping.title, Substitutable values text
  version : ∀ text ∈ grouping.version, Substitutable values text
  basePath : ∀ text ∈ grouping.basePath, Substitutable values text
  documentation : ∀ item ∈ grouping.documentation,
    Substitutable values item.title ∧ Substitutable values item.content
  endpoints : ∀ endpoint ∈ grouping.endpoints, endpoint.Fillable values

instance (values : TemplateValues) (grouping : Grouping) : Decidable (grouping.Fillable values) :=
  decidable_of_iff
    ((∀ text ∈ grouping.id, Substitutable values text) ∧
      (∀ text ∈ grouping.title, Substitutable values text) ∧
      (∀ text ∈ grouping.version, Substitutable values text) ∧
      (∀ text ∈ grouping.basePath, Substitutable values text) ∧
      (∀ item ∈ grouping.documentation,
        Substitutable values item.title ∧ Substitutable values item.content) ∧
      ∀ endpoint ∈ grouping.endpoints, endpoint.Fillable values)
    ⟨fun ⟨id, title, version, basePath, documentation, endpoints⟩ =>
        ⟨id, title, version, basePath, documentation, endpoints⟩,
      fun ⟨id, title, version, basePath, documentation, endpoints⟩ =>
        ⟨id, title, version, basePath, documentation, endpoints⟩⟩

namespace Draft

/-- The placeholders in all of a draft that is filled in have values. -/
structure Fillable (values : TemplateValues) (draft : Draft) : Prop where
  id : ∀ text ∈ draft.id, Substitutable values text
  title : ∀ text ∈ draft.title, Substitutable values text
  version : ∀ text ∈ draft.version, Substitutable values text
  basePath : ∀ text ∈ draft.basePath, Substitutable values text
  documentation : ∀ item ∈ draft.documentation,
    Substitutable values item.title ∧ Substitutable values item.content
  endpoints : ∀ sourced ∈ draft.endpoints, sourced.endpoint.Fillable values

variable {values : TemplateValues}

theorem Fillable.exists_fill {draft : Draft} (h : draft.Fillable values) :
    ∃ filled, draft.fill values = .ok filled := by
  have htext : ∀ template, ∃ text, Substitutable values template →
      values.substitute template = .ok text := by
    intro template
    by_cases h : Substitutable values template
    · exact h.imp fun _ htext _ => htext
    · exact ⟨template, fun h' => absurd h' h⟩
  choose text htext using htext
  refine ⟨⟨draft.id.map text, draft.title.map text, draft.version.map text,
    draft.basePath.map text,
    draft.documentation.map fun item => ⟨text item.title, text item.content⟩,
    draft.endpoints.map fun sourced => ⟨sourced.origin,
      { sourced.endpoint with paths := sourced.endpoint.paths.map text }⟩, draft.origins⟩,
    fill_eq_ok_iff.mpr ?_⟩
  constructor
  case id => exact Except.optionMapM_eq_ok_map fun id hid => htext id (h.id id hid)
  case title =>
    exact Except.optionMapM_eq_ok_map fun title htitle => htext title (h.title title htitle)
  case version =>
    exact Except.optionMapM_eq_ok_map fun version hversion =>
      htext version (h.version version hversion)
  case basePath =>
    exact Except.optionMapM_eq_ok_map fun basePath hbasePath =>
      htext basePath (h.basePath basePath hbasePath)
  case documentation =>
    rw [List.forall₂_map_right_iff, List.forall₂_same]
    intro item hitem
    exact (h.documentation item hitem).imp (htext item.title) (htext item.content)
  case endpoints =>
    rw [List.forall₂_map_right_iff, List.forall₂_same]
    intro sourced hsourced
    have hpaths : ∀ path ∈ sourced.endpoint.paths, values.substitute path = .ok (text path) :=
      fun path hpath => htext path (h.endpoints sourced hsourced path hpath)
    exact ⟨_, Except.mapM_eq_ok_map hpaths, rfl⟩
  case origins => rfl

theorem mem_of_mem_filled? {text : Option String} {value : String} (h : value ∈ filled? text) :
    value ∈ text := (filled?_eq_some_iff.mp h).1

theorem Fillable.absorb {draft later : Draft} (h : draft.Fillable values)
    (hlater : later.Fillable values) : (draft.absorb later).Fillable values := by
  have htext : ∀ first second : Option String, (∀ text ∈ first, Substitutable values text) →
      (∀ text ∈ second, Substitutable values text) →
        ∀ text ∈ (filled? first <|> filled? second), Substitutable values text := by
    intro first second hfirst hsecond text htext
    cases hfilled : filled? first with
    | none =>
      rw [hfilled] at htext
      exact hsecond text (mem_of_mem_filled? htext)
    | some value =>
      rw [hfilled] at htext
      exact hfirst text (mem_of_mem_filled? (hfilled.trans htext))
  constructor
  case id => exact h.id
  case title => exact htext _ _ h.title hlater.title
  case version => exact htext _ _ h.version hlater.version
  case basePath => exact htext _ _ h.basePath hlater.basePath
  case documentation =>
    intro item hitem
    exact (mem_addNew.mp hitem).elim (h.documentation item) (hlater.documentation item)
  case endpoints =>
    intro sourced hsourced
    exact (List.mem_append.mp hsourced).elim (h.endpoints sourced) (hlater.endpoints sourced)

theorem Fillable.combined {drafts : List Draft} (h : ∀ draft ∈ drafts, draft.Fillable values) :
    (Draft.combined drafts).Fillable values := by
  induction drafts using combined_induction with
  | empty => constructor <;> simp
  | single draft => exact h draft (List.mem_singleton_self draft)
  | absorb drafts draft later ih =>
    rw [List.forall_mem_append, List.forall_mem_singleton] at h
    exact (ih h.1).absorb h.2

theorem Fillable.ofGrouping {grouping : Grouping} (h : grouping.Fillable values) (origin : String) :
    (Draft.ofGrouping origin grouping).Fillable values where
  id := h.id
  title text htext := h.title text (mem_of_mem_filled? htext)
  version text htext := h.version text (mem_of_mem_filled? htext)
  basePath text htext := h.basePath text (mem_of_mem_filled? htext)
  documentation item hitem := h.documentation item (mem_distinct.mp hitem)
  endpoints := List.forall_mem_map.mpr h.endpoints

theorem fillable_ofFragments {fragments : List Fragment}
    (h : ∀ fragment ∈ fragments, ∀ grouping ∈ fragment.groupings, grouping.Fillable values) :
    ∀ draft ∈ ofFragments fragments, draft.Fillable values := by
  have hwritten : ∀ draft ∈ written fragments, draft.Fillable values := by
    intro draft hdraft
    obtain ⟨fragment, hfragment, hmem⟩ := List.mem_flatMap.mp hdraft
    obtain ⟨grouping, hgrouping, rfl⟩ := List.mem_map.mp hmem
    exact .ofGrouping (h fragment hfragment grouping hgrouping) fragment.label
  intro draft hdraft
  rw [eq_combined_of_mem_gather (List.mem_filter.mp hdraft).1]
  exact .combined fun other hother => hwritten other (List.mem_filter.mp hother).1

theorem exists_mapM_fill {drafts : List Draft} (h : ∀ draft ∈ drafts, draft.Fillable values) :
    ∃ filled, drafts.mapM (fill values) = .ok filled := by
  have hfill : ∀ draft ∈ drafts, ∃ filled, draft.fill values = .ok filled :=
    fun draft hdraft => (h draft hdraft).exists_fill
  choose! filled hfilled using hfill
  exact ⟨_, Except.mapM_eq_ok_map hfilled⟩

end Draft

end ApiManual
