import ApiManual.Proofs.Merge.Reordering

/-!
One view for each interface. Views come in the order in which their interfaces are first
encountered, and what is said about one interface has no part in the view of another one: without
all other groupings the fragments are merged into that view alone.
-/
namespace ApiManual

open Draft

/-- The fragment without the groupings whose ids do not become this one. -/
def Fragment.about (values : TemplateValues) (id : Option String) (fragment : Fragment) :
    Fragment :=
  { fragment with groupings := fragment.groupings.filter (Becomes values id ·.id) }

def DocumentsDefault (fragments : List Fragment) : Prop :=
  ∃ fragment ∈ fragments, ∃ grouping ∈ fragment.groupings,
    grouping.id = none ∧ grouping.endpoints ≠ []

instance (fragments : List Fragment) : Decidable (DocumentsDefault fragments) :=
  inferInstanceAs (Decidable (∃ fragment ∈ fragments, ∃ grouping ∈ fragment.groupings,
    grouping.id = none ∧ grouping.endpoints ≠ []))

/-- Whether an interface with this id has a view, once a grouping with the id is encountered. -/
def isDocumented (fragments : List Fragment) (id : Option String) : Bool :=
  id = none → DocumentsDefault fragments

variable {values : TemplateValues} {fragments : List Fragment} {filled : List Draft}

theorem documentsDefault_iff : DocumentsDefault fragments ↔
    ∃ occurrence ∈ fragments.flatMap Fragment.occurrences, occurrence.id = none := by
  simp only [DocumentsDefault, Fragment.occurrences, List.mem_flatMap, List.mem_map]
  constructor
  · rintro ⟨fragment, hfragment, grouping, hgrouping, hid, hne⟩
    obtain ⟨endpoint, hendpoint⟩ := List.exists_mem_of_ne_nil _ hne
    exact ⟨_, ⟨fragment, hfragment, grouping, hgrouping, endpoint, hendpoint, rfl⟩, hid⟩
  · rintro ⟨_, ⟨fragment, hfragment, grouping, hgrouping, endpoint, hendpoint, rfl⟩, hid⟩
    exact ⟨fragment, hfragment, grouping, hgrouping, hid, List.ne_nil_of_mem hendpoint⟩

theorem isKept_eq_isDocumented {draft : Draft} (hdraft : draft ∈ gather (written fragments)) :
    draft.isKept = isDocumented fragments draft.id := by
  rw [Bool.eq_iff_iff, isKept_iff hdraft, isDocumented, decide_eq_true_eq, documentsDefault_iff]
  cases hid : draft.id with
  | none => simp
  | some id => simp

theorem ids_ofFragments (fragments : List Fragment) : (ofFragments fragments).map (·.id) =
    (distinct ((fragments.flatMap (·.groupings)).map (·.id))).filter
      (isDocumented fragments) := by
  rw [ofFragments_eq, List.filter_congr fun draft => isKept_eq_isDocumented, ← ids_written,
    ← ids_gather, ← map_filter_key]

theorem ids_gather_filled (h : (ofFragments fragments).mapM (fill values) = .ok filled) :
    ∃ ids, (fragments.flatMap (·.groupings)).mapM (·.id.mapM values.substitute) = .ok ids ∧
      (gather filled).map (·.id) = (distinct ids).filter (isDocumented fragments) := by
  have hbecomes : ∀ id ∈ (fragments.flatMap (·.groupings)).map (·.id),
      ∃ id', Becomes values id' id := by
    intro id hmem
    cases id with
    | none => exact ⟨none, rfl⟩
    | some text =>
      -- only a draft without an id is left out
      have hkept : some text ∈ (ofFragments fragments).map (·.id) := by
        rw [ids_ofFragments, List.mem_filter, mem_distinct]
        exact ⟨hmem, by simp [isDocumented]⟩
      obtain ⟨draft, hdraft, hsame⟩ := List.mem_map.mp hkept
      obtain ⟨other, -, hfilled⟩ := (forall₂_filled h).exists_right hdraft
      exact ⟨other.id, hsame ▸ hfilled.id⟩
  choose! become hbecome using hbecomes
  have hdocumented : ∀ id ∈ (fragments.flatMap (·.groupings)).map (·.id),
      isDocumented fragments (become id) = isDocumented fragments id := by
    intro id hmem
    have hnone : become id = none ↔ id = none := by
      constructor
      · intro hnone
        exact becomes_none_iff.mp (hnone ▸ hbecome id hmem)
      · rintro rfl
        exact (Except.ok.inj (hbecome none hmem)).symm
    simp only [isDocumented, hnone]
  refine ⟨((fragments.flatMap (·.groupings)).map (·.id)).map become, ?_, ?_⟩
  · rw [List.map_map]
    exact Except.mapM_eq_ok_map fun grouping hgrouping =>
      hbecome grouping.id (List.mem_map_of_mem hgrouping)
  · have hfilled : ((ofFragments fragments).map (·.id)).map become = filled.map (·.id) := by
      rw [List.map_map]
      apply (forall₂_filled h).map_eq_map
      intro draft hdraft other hother
      have hmem : draft.id ∈ (ofFragments fragments).map (·.id) := List.mem_map_of_mem hdraft
      rw [ids_ofFragments, List.mem_filter, mem_distinct] at hmem
      exact Except.ok.inj ((hbecome draft.id hmem.1).symm.trans hother.id)
    have hkept : (distinct ((fragments.flatMap (·.groupings)).map (·.id))).filter
        (isDocumented fragments <| become ·) =
          (distinct ((fragments.flatMap (·.groupings)).map (·.id))).filter
            (isDocumented fragments) :=
      List.filter_congr fun id hmem => hdocumented id (mem_distinct.mp hmem)
    rw [ids_gather, ← hfilled, ids_ofFragments, ← hkept, map_filter_key, distinct_filter,
      distinct_map_distinct]

theorem written_about (id : Option String) :
    written (fragments.map (·.about values id)) =
      (written fragments).filter (Becomes values id ·.id) := by
  rw [written, written, List.flatMap_map, List.filter_flatMap]
  apply List.flatMap_congr
  intro fragment _
  rw [List.filter_map]
  rfl

theorem ofFragments_about (id : Option String) :
    ofFragments (fragments.map (·.about values id)) =
      (ofFragments fragments).filter (Becomes values id ·.id) := by
  rw [ofFragments_eq, ofFragments_eq, written_about, gather_filter (Becomes values id ·),
    List.filter_comm]

variable {options : MergeOptions} {views : List ApiView}

/-- The fragments without all that is said about other interfaces are merged into the views that
are not those of other interfaces. -/
theorem merge_about (h : merge fragments options = .ok views) (id : Option String) :
    merge (fragments.map (·.about options.templates id)) options =
      .ok (views.filter (·.id = id)) := by
  obtain ⟨filled, hfilled, hviews⟩ := merge_eq_ok_iff.mp h
  refine merge_eq_ok_iff.mpr ⟨filled.filter (·.id = id), ?_, ?_⟩
  · rw [ofFragments_about]
    rw [Except.mapM_eq_ok_iff] at hfilled ⊢
    refine List.rel_filter ?_ hfilled
    intro draft other hfill
    have hid := (fill_eq_ok_iff.mp hfill).id
    simp only [becomes_iff_of_filled hid, decide_eq_true_eq]
  · rw [gather_filter (decide <| · = id)]
    refine List.rel_filter ?_ hviews
    intro draft view hresolve
    have hid := (resolved_of_resolve draft.normal_selected hresolve).id_eq
    simp only [hid, decide_eq_true_eq]
    rfl

/-- The views have distinct ids, and come as groupings with their ids are first encountered. The
default interface has one if a grouping of it has an endpoint, and each view is what the groupings
of its interface alone are merged into. -/
theorem merge_isolated (h : merge fragments options = .ok views) :
    (views.map (·.id)).Nodup ∧
    (∃ ids, (fragments.flatMap (·.groupings)).mapM (·.id.mapM options.templates.substitute) =
        .ok ids ∧
      (views.map (·.id)).Pairwise (fun id other => ids.idxOf id < ids.idxOf other) ∧
      ∀ id, id ∈ views.map (·.id) ↔ id ∈ ids ∧ isDocumented fragments id = true) ∧
    (none ∈ views.map (·.id) ↔ DocumentsDefault fragments) ∧
    ∀ view ∈ views,
      merge (fragments.map (·.about options.templates view.id)) options = .ok [view] := by
  obtain ⟨filled, hfilled, hviews⟩ := merge_eq_ok_iff.mp h
  obtain ⟨ids, hids, hgathered⟩ := ids_gather_filled hfilled
  have hsame : views.map (·.id) = (distinct ids).filter (isDocumented fragments) :=
    (ids_views hviews).trans hgathered
  have hnodup : (views.map (·.id)).Nodup := hsame ▸ (nodup_distinct ids).filter _
  have hmem : ∀ id, id ∈ views.map (·.id) ↔ id ∈ ids ∧ isDocumented fragments id = true := by
    intro id
    rw [hsame, List.mem_filter, mem_distinct]
  refine ⟨hnodup, ⟨ids, hids, ?_, hmem⟩, ?_, ?_⟩
  · rw [hsame]
    exact (pairwise_idxOf_distinct ids).filter _
  · rw [hmem]
    constructor
    · rintro ⟨-, hdocumented⟩
      exact of_decide_eq_true hdocumented rfl
    · intro hdefault
      refine ⟨?_, decide_eq_true fun _ => hdefault⟩
      obtain ⟨fragment, hfragment, grouping, hgrouping, hid, -⟩ := hdefault
      obtain ⟨id, hmem, hbecomes⟩ := (Except.mapM_eq_ok_iff.mp hids).exists_right
        (List.mem_flatMap.mpr ⟨fragment, hfragment, hgrouping⟩)
      rw [hid] at hbecomes
      exact Except.ok.inj hbecomes ▸ hmem
  · intro view hview
    rw [merge_about h, filter_key_eq_singleton hnodup hview]

/-- Two interfaces that are encountered in turn, one of them under two spellings, and a default
interface that is encountered between them. -/
def marketFragments : List Fragment :=
  [{ origin := some "prices", groupings := [
      { id := some "${name}", title := some "Shop", endpoints := [
        { method := .get, paths := ["/shops/{id}"] }] },
      {},
      { id := some "stalls", endpoints := [{ method := .get, paths := ["/stalls"] }] }] },
    { origin := some "orders", groupings := [
      { endpoints := [{ method := .get, paths := ["/status"] }] },
      { id := some "shop", version := some "v2", endpoints := [
        { method := .post, paths := ["/shops"] }] }] }]

theorem merge_isolated_market :
    ∃ shop status stalls, merge marketFragments shopOptions = .ok [shop, status, stalls] ∧
      [shop.id, status.id, stalls.id] = [some "shop", none, some "stalls"] ∧
      merge (marketFragments.map (·.about shopOptions.templates (some "shop"))) shopOptions =
        .ok [shop] := by
  have hids : (merge marketFragments shopOptions).map (List.map (·.id)) =
      .ok [some "shop", none, some "stalls"] := by decide +kernel
  obtain ⟨views, hviews, hmap⟩ := Except.map_eq_ok_iff.mp hids
  obtain ⟨-, -, -, halone⟩ := merge_isolated hviews
  match views, hmap with
  | [shop, status, stalls], hmap =>
    have hid : shop.id = some "shop" := (List.cons.inj hmap).1
    have hshop := halone shop List.mem_cons_self
    rw [hid] at hshop
    exact ⟨shop, status, stalls, hviews, hmap, hshop⟩

end ApiManual
