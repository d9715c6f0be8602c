import ApiManual.Proofs.Draft.Collection
import ApiManual.Proofs.Draft.Wording
import ApiManual.Proofs.Merge.Views

/-!
What a view documents more than once. Items of documentation are compared as they are written where
groupings have one written id, and as they are filled in where several written ids become one. So
an item is left out if one of another written id is equal to it by then; two items of the first
written id that are filled in alike both stay.
-/
namespace ApiManual

/-- The items of documentation of the groupings with a written id, each one once. -/
def writtenItems (fragments : List Fragment) (written : Option String) : List DocumentationItem :=
  distinct (((fragments.flatMap (·.groupings)).filter (·.id = written)).flatMap (·.documentation))

/-- No two of the items are filled in alike. -/
def KeepsApart (values : TemplateValues) (items : List DocumentationItem) : Prop :=
  ∀ item ∈ items, ∀ other ∈ items, ∀ said,
    Draft.FillsItem values item said → Draft.FillsItem values other said → item = other

namespace Draft

/-- What items that differ are filled in as differs if and only if they are kept apart. -/
theorem nodup_filled_iff {values : TemplateValues} {items filled : List DocumentationItem}
    (h : List.Forall₂ (FillsItem values) items filled) (nodup : items.Nodup) :
    filled.Nodup ↔ KeepsApart values items := by
  have hexists : ∀ item ∈ items, ∃ said, FillsItem values item said := by
    intro item hitem
    obtain ⟨said, -, hsaid⟩ := h.exists_right hitem
    exact ⟨said, hsaid⟩
  choose! say hsay using hexists
  have hmap : items.map say = filled := by
    rw [← List.map_id filled]
    exact h.map_eq_map fun item hitem said hsaid => (hsay item hitem).unique hsaid
  rw [← hmap, List.nodup_map_iff_inj_on nodup]
  constructor
  · intro hinjective item hitem other hother said hsaid hsaid'
    apply hinjective item hitem other hother
    exact ((hsay item hitem).unique hsaid).trans (hsaid'.unique (hsay other hother))
  · intro hapart item hitem other hother heq
    exact hapart item hitem other hother (say item) (hsay item hitem) (heq ▸ hsay other hother)

theorem documentation_combined_cons (first : Draft) (rest : List Draft) :
    (combined (first :: rest)).documentation =
      addNew first.documentation (rest.flatMap (·.documentation)) := by
  induction rest using List.reverseRecOn with
  | nil => exact (addNew_nil _).symm
  | append_singleton rest later ih =>
    rw [← List.cons_append, combined_append_singleton (List.cons_ne_nil _ _), absorb, ih,
      addNew_addNew, List.flatMap_append, List.flatMap_singleton]

theorem documentation_combined {drafts : List Draft}
    (nodup : ∀ draft ∈ drafts, draft.documentation.Nodup) :
    (combined drafts).documentation = distinct (drafts.flatMap (·.documentation)) := by
  cases drafts with
  | nil => rfl
  | cons first rest =>
    rw [documentation_combined_cons, List.flatMap_cons, distinct_append,
      distinct_eq_self (nodup first List.mem_cons_self)]

theorem documentation_written (fragments : List Fragment) (id : Option String) :
    (combined ((written fragments).filter (·.id = id))).documentation =
      writtenItems fragments id := by
  have hnodup : ∀ draft ∈ (written fragments).filter (·.id = id), draft.documentation.Nodup := by
    intro draft hdraft
    obtain ⟨fragment, -, hmem⟩ := List.mem_flatMap.mp (List.mem_filter.mp hdraft).1
    obtain ⟨grouping, -, rfl⟩ := List.mem_map.mp hmem
    exact nodup_distinct _
  have hitems : ((written fragments).filter (·.id = id)).flatMap (·.documentation) =
      ((fragments.flatMap (·.groupings)).filter (·.id = id)).flatMap
        fun grouping => distinct grouping.documentation := by
    rw [written, List.filter_flatMap, List.filter_flatMap, List.flatMap_assoc, List.flatMap_assoc]
    apply List.flatMap_congr
    intro fragment _
    rw [List.filter_map, List.flatMap_map]
    rfl
  rw [documentation_combined hnodup, hitems, distinct_flatMap_distinct, writtenItems]

theorem forall₂_documentation_written {values : TemplateValues} {fragments : List Fragment}
    {filled : List Draft} (h : (ofFragments fragments).mapM (fill values) = .ok filled)
    {draft : Draft} (hdraft : draft ∈ gather filled) :
    List.Forall₂
      (fun written other => List.Forall₂ (FillsItem values) (writtenItems fragments written)
        other.documentation)
      ((writtenIds fragments).filter (Becomes values draft.id ·))
      (filled.filter (·.id = draft.id)) := by
  have hfilled : List.Forall₂ (Filled values)
      (((writtenIds fragments).filter (Becomes values draft.id ·)).map fun written =>
        combined ((Draft.written fragments).filter (·.id = written)))
      (filled.filter (·.id = draft.id)) := by
    rw [← filter_becomes_ofFragments (exists_becomes h hdraft)]
    refine List.rel_filter ?_ (forall₂_filled h)
    intro other other' hother
    simp only [becomes_iff_of_filled hother.id, decide_eq_true_eq]
  refine (List.forall₂_map_left_iff.mp hfilled).imp fun written other hother => ?_
  rw [← documentation_written]
  exact hother.documentation

end Draft

variable {fragments : List Fragment} {options : MergeOptions} {views : List ApiView}

/-- What a view documents are the items of the groupings whose ids become its id. The items of the
first written id all stay, those of the others are added if they are not there yet. So no item is
there twice if and only if the first ones are kept apart. -/
theorem merge_documentation (h : merge fragments options = .ok views) :
    ∀ view ∈ views, ∃ first rest own later,
      (writtenIds fragments).filter (Becomes options.templates view.id ·) = first :: rest ∧
      List.Forall₂ (Draft.FillsItem options.templates) (writtenItems fragments first) own ∧
      List.Forall₂ (Draft.FillsItem options.templates) (rest.flatMap (writtenItems fragments))
        later ∧
      view.documentation = addNew own later ∧
      (view.documentation.Nodup ↔ KeepsApart options.templates (writtenItems fragments first)) := by
  intro view hview
  obtain ⟨filled, hfilled, hviews⟩ := merge_eq_ok_iff.mp h
  obtain ⟨draft, hdraft, hresolve⟩ := hviews.exists_left hview
  have hresolved := Draft.resolved_of_resolve draft.normal_selected hresolve
  have hid : view.id = draft.id := hresolved.id_eq
  have hdocumentation : view.documentation =
      (Draft.combined (filled.filter (·.id = draft.id))).documentation := by
    rw [← Draft.eq_combined_of_mem_gather hdraft, hresolved.view_eq]
    rfl
  have hitems := Draft.forall₂_documentation_written hfilled hdraft
  obtain ⟨other, hother, hsame⟩ : ∃ other ∈ filled, other.id = draft.id := by
    rw [← List.mem_map, ← mem_distinct, ← Draft.ids_gather]
    exact List.mem_map_of_mem hdraft
  have hmem : other ∈ filled.filter (·.id = draft.id) :=
    List.mem_filter.mpr ⟨hother, decide_eq_true hsame⟩
  rw [hid, hdocumentation]
  generalize filled.filter (·.id = draft.id) = drafts at hitems hmem ⊢
  generalize (writtenIds fragments).filter (Becomes options.templates draft.id ·) = ids at hitems ⊢
  cases hitems with
  | nil => cases hmem
  | @cons first initial rest drafts hfirst hrest =>
    rw [Draft.documentation_combined_cons]
    refine ⟨first, rest, _, _, rfl, hfirst, List.rel_flatMap hrest fun _ _ h => h, rfl, ?_⟩
    rw [nodup_addNew_iff, Draft.nodup_filled_iff hfirst (nodup_distinct _)]

/-- Two groupings whose ids become one; the items of the first are alike when they are filled in. -/
def priceGroupings : List Grouping :=
  [{ id := some "$\x7bname\x7d",
      documentation := [⟨"Prices", "See $\x7bsite\x7d."⟩, ⟨"Prices", "See shop.example."⟩],
      endpoints := [{ method := .get, paths := ["/prices"] }] },
    { id := some "shop",
      documentation := [⟨"Prices", "See shop.example."⟩, ⟨"Terms", "Ask $\x7bname\x7d."⟩] }]

def pricesOf (groupings : List Grouping) : List Fragment :=
  [{ origin := some "prices", groupings := groupings }]

def priceOptions : MergeOptions where
  templates := ⟨[("name", "shop"), ("site", "shop.example")]⟩

theorem merge_documentation_prices :
    ∃ view, merge (pricesOf priceGroupings.reverse) priceOptions = .ok [view] ∧
      view.documentation.Nodup := by
  have hid : (merge (pricesOf priceGroupings.reverse) priceOptions).map
      (List.map fun view => view.id) = .ok [some "shop"] := by decide +kernel
  obtain ⟨view, hmerge, hview⟩ := Except.exists_of_map_eq_singleton hid
  refine ⟨view, hmerge, ?_⟩
  obtain ⟨first, rest, own, later, hids, -, -, -, hnodup⟩ :=
    merge_documentation hmerge view List.mem_cons_self
  rw [hview] at hids
  have hwritten : (writtenIds (pricesOf priceGroupings.reverse)).filter
      (Becomes priceOptions.templates (some "shop") ·) =
        [some "shop", some "$\x7bname\x7d"] := by decide +kernel
  obtain ⟨rfl, rfl⟩ := List.cons.inj (hwritten.symm.trans hids)
  have htitles : ∀ item ∈ writtenItems (pricesOf priceGroupings.reverse) (some "shop"),
      ∀ other ∈ writtenItems (pricesOf priceGroupings.reverse) (some "shop"),
        priceOptions.templates.substitute item.title =
          priceOptions.templates.substitute other.title → item = other := by decide +kernel
  rw [hnodup]
  intro item hitem other hother said hsaid hother'
  exact htitles item hitem other hother (hsaid.1.trans hother'.1.symm)

/-- An item may be there twice. -/
theorem not_nodup_documentation :
    ∃ view, merge (pricesOf priceGroupings) priceOptions = .ok [view] ∧
      ¬ view.documentation.Nodup := by
  have hdocumentation : (merge (pricesOf priceGroupings) priceOptions).map
      (List.map fun view => view.documentation) =
        .ok [[⟨"Prices", "See shop.example."⟩, ⟨"Prices", "See shop.example."⟩,
          ⟨"Terms", "Ask shop."⟩]] := by decide +kernel
  obtain ⟨view, hmerge, hview⟩ := Except.exists_of_map_eq_singleton hdocumentation
  refine ⟨view, hmerge, ?_⟩
  rw [hview]
  decide

end ApiManual
