import ApiManual.Proofs.Draft.Wording
import ApiManual.Proofs.Merge.Methods

/-!
What comes first in a view. Groupings are gathered by the ids that they are written with, then
filled in, and gathered again by the ids that they have then. So the groupings with one written id
come together, where the first of them stands, and the one text that they have counts as it is
filled in.
Where no written id comes back after another one, and no text is filled in as an empty one, this is
the order in which the groupings are encountered.
-/
namespace ApiManual

/-- The endpoints of fragments, written id by written id. -/
def gatheredOccurrences (fragments : List Fragment) : List Occurrence :=
  (writtenIds fragments).flatMap fun written =>
    (fragments.flatMap Fragment.occurrences).filter (·.id = written)

/-- The first text, as the groupings are encountered, of those whose ids become this one. -/
def firstEncountered (values : TemplateValues) (fragments : List Fragment) (id : Option String)
    (text : Grouping → Option String) : Option String :=
  ((fragments.flatMap (·.groupings)).filter (Becomes values id ·.id)).findSome? fun grouping =>
    values.value? (text grouping)

/-- Of the written ids that become this one none comes back after another one. -/
def WrittenTogether (values : TemplateValues) (fragments : List Fragment) (id : Option String) :
    Prop :=
  Unbroken (((fragments.flatMap (·.groupings)).filter (Becomes values id ·.id)).map (·.id))

/-- The text is not filled in as an empty one, unless it is empty. -/
def KeepsText (values : TemplateValues) (text : Option String) : Prop :=
  (filled? text).mapM values.substitute ≠ .ok (some "")

/-- The texts of the groupings whose ids become this one are not filled in as empty ones. -/
def KeepsTexts (values : TemplateValues) (fragments : List Fragment) (id : Option String) : Prop :=
  ∀ grouping ∈ (fragments.flatMap (·.groupings)).filter (Becomes values id ·.id),
    KeepsText values grouping.title ∧ KeepsText values grouping.version ∧
      KeepsText values grouping.basePath

instance (values : TemplateValues) (fragments : List Fragment) (id : Option String) :
    Decidable (WrittenTogether values fragments id) := Unbroken.decidable _

instance (values : TemplateValues) (text : Option String) : Decidable (KeepsText values text) :=
  inferInstanceAs (Decidable (_ ≠ _))

instance (values : TemplateValues) (fragments : List Fragment) (id : Option String) :
    Decidable (KeepsTexts values fragments id) :=
  inferInstanceAs (Decidable (∀ grouping ∈ List.filter _ _, _))

namespace Occurrence

variable (options : MergeOptions)

def isPlaced (path : String) (occurrence : Occurrence) : Bool :=
  occurrence.isInScope options && (occurrence.keptPaths options).contains path

theorem methods_mounts (path : String) (occurrence : Occurrence) :
    ((occurrence.mounts options).filter (·.path = path)).map Mount.method =
      if occurrence.isPlaced options path then [occurrence.method options] else [] := by
  unfold mounts isPlaced
  by_cases hscope : occurrence.isInScope options = true
  · have hcount : (occurrence.keptPaths options).count path =
        if path ∈ occurrence.keptPaths options then 1 else 0 := (nodup_distinct _).count
    have hpaths : ((occurrence.keptPaths options).filter fun kept => kept = path) =
        if path ∈ occurrence.keptPaths options then [path] else [] := by
      rw [List.filter_eq, hcount]
      split <;> rfl
    rw [if_pos hscope, hscope, List.filter_map, List.map_map]
    simp only [Function.comp_def, hpaths, Bool.true_and, List.contains_iff_mem]
    split <;> rfl
  · simp [hscope]

end Occurrence

/-- A view takes its texts from `first`, and its methods in the order of these occurrences. -/
structure ApiView.Follows (options : MergeOptions)
    (first : (Grouping → Option String) → Option String) (filled : List Occurrence)
    (view : ApiView) : Prop where
  title : view.title = (first (·.title) <|> view.id).getD "API"
  version : view.version = first (·.version)
  basePath : view.basePath = first (·.basePath)
  methods : ∀ resource ∈ view.walk, resource.methods =
    ((filled.filter (·.id = view.id)).filter (·.isPlaced options resource.path)).map
      (Occurrence.method options)

namespace Draft

variable {options : MergeOptions} {fragments : List Fragment}

theorem occurrences_ofFragments_eq (fragments : List Fragment) :
    (ofFragments fragments).flatMap occurrences = gatheredOccurrences fragments := by
  rw [ofFragments_eq, occurrences_filter_isKept, occurrences_gather_eq, ids_written,
    occurrences_written]
  rfl

theorem methods_mounts (occurrences : List Occurrence) (path : String) :
    ((occurrences.flatMap (Occurrence.mounts options)).filter (·.path = path)).map Mount.method =
      (occurrences.filter (·.isPlaced options path)).map (Occurrence.method options) := by
  induction occurrences with
  | nil => rfl
  | cons occurrence rest ih =>
    rw [List.flatMap_cons, List.filter_append, List.map_append, Occurrence.methods_mounts, ih,
      List.filter_cons]
    split <;> rfl

/-- A draft that is filled in and gathered is documented in the order of its parts. -/
theorem follows {filled : List Draft}
    (hfilled : (ofFragments fragments).mapM (fill options.templates) = .ok filled) {draft : Draft}
    (hdraft : draft ∈ gather filled) {view : ApiView}
    (hview : (draft.selected options).resolve = .ok view) :
    view.Follows options (firstGathered options.templates fragments view.id)
      (filled.flatMap occurrences) := by
  obtain ⟨normal, -, -, rfl⟩ := resolved_of_resolve draft.normal_selected hview
  have htitle := filled?_text_gather isWording_title hfilled hdraft
  have hversion := filled?_text_gather isWording_version hfilled hdraft
  have hbasePath := filled?_text_gather isWording_basePath hfilled hdraft
  refine ⟨?_, hversion, hbasePath, ?_⟩
  · change (filled? draft.title <|> draft.id).getD "API" = _
    rw [htitle]
    rfl
  · intro resource hresource
    obtain ⟨path, -, rfl⟩ := (mem_walk_view _ normal.wellSlashed).mp hresource
    unfold resourceOf
    rw [mounts_selected, methods_mounts, occurrences_of_mem_gather hdraft]
    rfl

end Draft

variable {values : TemplateValues} {fragments : List Fragment} {id : Option String}

theorem mapM_filter_becomes {occurrences filled : List Occurrence}
    (h : occurrences.mapM (Occurrence.fill values) = .ok filled) (id : Option String) :
    (occurrences.filter (Becomes values id ·.id)).mapM (Occurrence.fill values) =
      .ok (filled.filter (·.id = id)) := by
  rw [Except.mapM_eq_ok_iff] at h ⊢
  refine List.rel_filter ?_ h
  intro occurrence occurrence' hfill
  simp only [Occurrence.fill, Except.bind_eq_ok_iff, Except.pure_eq_ok_iff] at hfill
  obtain ⟨id', hid, paths, -, rfl⟩ := hfill
  simp only [becomes_iff_of_filled hid, decide_eq_true_eq]

/-- The first text, if it can be filled in, is the first one that says something then. -/
theorem value?_findSome? {groupings : List Grouping} {text : Grouping → Option String}
    (kept : ∀ grouping ∈ groupings, KeepsText values (text grouping)) {filled : Option String}
    (hfilled : (groupings.findSome? fun grouping => filled? (text grouping)).mapM
      values.substitute = .ok filled) :
    values.value? (groupings.findSome? fun grouping => filled? (text grouping)) =
      groupings.findSome? fun grouping => values.value? (text grouping) := by
  induction groupings with
  | nil => rfl
  | cons grouping rest ih =>
    have hrest := ih fun other hother => kept other (List.mem_cons_of_mem grouping hother)
    have hfirst := kept grouping List.mem_cons_self
    rw [List.findSome?_cons] at hfilled
    rw [List.findSome?_cons, List.findSome?_cons]
    cases htext : filled? (text grouping) with
    | none =>
      rw [htext] at hfilled
      rw [values.value?_eq_none htext, hrest hfilled]
    | some template =>
      -- no text after it counts, so nothing is asked of those
      rw [htext] at hfilled
      rw [KeepsText, htext, hfilled] at hfirst
      have hsome := values.value?_eq hfilled
      rw [Option.mapM_some, Except.map_eq_ok_iff] at hfilled
      obtain ⟨value, -, rfl⟩ := hfilled
      have hvalue : values.value? (some template) = some value :=
        hsome.trans (filled?_eq_some_iff.mpr ⟨rfl, fun heq => hfirst (heq ▸ rfl)⟩)
      rw [(filled?_eq_some_iff.mp htext).1, hvalue]

theorem findSome?_flatMap {α β γ : Type} (items : List α) (parts : α → List β)
    (pick : β → Option γ) :
    (items.flatMap parts).findSome? pick = items.findSome? fun item =>
      (parts item).findSome? pick := by
  induction items with
  | nil => rfl
  | cons item rest ih =>
    rw [List.flatMap_cons, List.findSome?_append, List.findSome?_cons, ih]
    cases (parts item).findSome? pick <;> rfl

theorem firstGathered_eq (together : WrittenTogether values fragments id)
    {text : Grouping → Option String}
    (kept : ∀ grouping ∈ (fragments.flatMap (·.groupings)).filter (Becomes values id ·.id),
      KeepsText values (text grouping))
    (fills : ∀ written ∈ (writtenIds fragments).filter (Becomes values id ·), ∃ filled,
      (((fragments.flatMap (·.groupings)).filter (·.id = written)).findSome?
        fun grouping => filled? (text grouping)).mapM values.substitute = .ok filled) :
    firstGathered values fragments id text = firstEncountered values fragments id text := by
  have hids : (writtenIds fragments).filter (Becomes values id ·) =
      distinct (((fragments.flatMap (·.groupings)).filter
        (Becomes values id ·.id)).map (·.id)) := by
    rw [writtenIds, ← distinct_filter, map_filter_key Grouping.id (Becomes values id ·)]
  -- what one written id has for a text is the first text of its groupings, filled in
  have htext : ∀ written ∈ (writtenIds fragments).filter (Becomes values id ·),
      values.value? (((fragments.flatMap (·.groupings)).filter (·.id = written)).findSome?
        fun grouping => filled? (text grouping)) =
      (((fragments.flatMap (·.groupings)).filter (Becomes values id ·.id)).filter
        (·.id = written)).findSome? fun grouping => values.value? (text grouping) := by
    intro written hwritten
    obtain ⟨filled, hfilled⟩ := fills written hwritten
    rw [← filter_filter_key Grouping.id (Becomes values id ·) _ (List.mem_filter.mp hwritten).2]
      at hfilled ⊢
    refine value?_findSome? (fun grouping hgrouping => ?_) hfilled
    exact kept grouping (List.mem_filter.mp hgrouping).1
  unfold firstGathered firstEncountered
  rw [← List.head?_filterMap, List.filterMap_congr htext, List.head?_filterMap, hids,
    ← findSome?_flatMap, flatMap_filter_distinct together]

theorem filter_gatheredOccurrences (together : WrittenTogether values fragments id) :
    (gatheredOccurrences fragments).filter (Becomes values id ·.id) =
      (fragments.flatMap Fragment.occurrences).filter (Becomes values id ·.id) := by
  have hids : ((Draft.written fragments).filter (Becomes values id ·.id)).map (·.id) =
      ((fragments.flatMap (·.groupings)).filter (Becomes values id ·.id)).map (·.id) := by
    rw [map_filter_key Draft.id (Becomes values id ·),
      map_filter_key Grouping.id (Becomes values id ·), Draft.ids_written]
  have htogether : Unbroken
      (((Draft.written fragments).filter (Becomes values id ·.id)).map (·.id)) := hids ▸ together
  calc (gatheredOccurrences fragments).filter (Becomes values id ·.id)
      = ((Draft.gather (Draft.written fragments)).flatMap Draft.occurrences).filter
          (Becomes values id ·.id) := by
        rw [← Draft.occurrences_ofFragments_eq, Draft.ofFragments_eq,
          Draft.occurrences_filter_isKept]
    _ = (Draft.gather ((Draft.written fragments).filter (Becomes values id ·.id))).flatMap
          Draft.occurrences := by
        rw [Draft.gather_filter (Becomes values id ·),
          Draft.occurrences_filter (Becomes values id ·)]
    _ = ((Draft.written fragments).filter (Becomes values id ·.id)).flatMap Draft.occurrences := by
        have hown := fun written => Draft.occurrences_filter (decide <| · = written)
          ((Draft.written fragments).filter (Becomes values id ·.id))
        rw [Draft.occurrences_gather_eq]
        simp only [← hown]
        rw [← List.flatMap_assoc, flatMap_filter_distinct htogether]
    _ = (fragments.flatMap Fragment.occurrences).filter (Becomes values id ·.id) := by
        rw [Draft.occurrences_filter (Becomes values id ·), Draft.occurrences_written]

variable {options : MergeOptions} {views : List ApiView}

/-- A view says first what is gathered first. Where the written ids of its groupings do not come
back and no text is filled in as an empty one, that is what is encountered first. -/
theorem merge_follows (h : merge fragments options = .ok views) :
    ∃ filled encountered,
      (gatheredOccurrences fragments).mapM (Occurrence.fill options.templates) = .ok filled ∧
      (fragments.flatMap Fragment.occurrences).mapM (Occurrence.fill options.templates) =
        .ok encountered ∧
      ∀ view ∈ views,
        view.Follows options (firstGathered options.templates fragments view.id) filled ∧
        (WrittenTogether options.templates fragments view.id →
          KeepsTexts options.templates fragments view.id →
            view.Follows options (firstEncountered options.templates fragments view.id)
              encountered) := by
  obtain ⟨encountered, -, hencountered, -, -, -⟩ := exists_resolved h
  obtain ⟨drafts, hdrafts, hviews⟩ := merge_eq_ok_iff.mp h
  have hfilled : (gatheredOccurrences fragments).mapM (Occurrence.fill options.templates) =
      .ok (drafts.flatMap Draft.occurrences) := by
    rw [← Draft.occurrences_ofFragments_eq]
    exact Except.mapM_eq_ok_iff.mpr (Draft.forall₂_fill_flatMap_occurrences hdrafts)
  refine ⟨_, encountered, hfilled, hencountered, fun view hview => ?_⟩
  obtain ⟨draft, hdraft, hresolve⟩ := hviews.exists_left hview
  have hfollows := Draft.follows hdrafts hdraft hresolve
  refine ⟨hfollows, fun together kept => ?_⟩
  have hid : view.id = draft.id :=
    (Draft.resolved_of_resolve draft.normal_selected hresolve).id_eq
  -- gathered and encountered occurrences of one written form are filled in alike
  have hsame : (drafts.flatMap Draft.occurrences).filter (·.id = view.id) =
      encountered.filter (·.id = view.id) := by
    have hgathered := mapM_filter_becomes hfilled view.id
    rw [filter_gatheredOccurrences together, mapM_filter_becomes hencountered] at hgathered
    exact (Except.ok.inj hgathered).symm
  constructor
  case title =>
    rw [← firstGathered_eq together (fun grouping hgrouping => (kept grouping hgrouping).1)
      (hid ▸ Draft.exists_filled_text Draft.isWording_title hdrafts hdraft)]
    exact hfollows.title
  case version =>
    rw [← firstGathered_eq together (fun grouping hgrouping => (kept grouping hgrouping).2.1)
      (hid ▸ Draft.exists_filled_text Draft.isWording_version hdrafts hdraft)]
    exact hfollows.version
  case basePath =>
    rw [← firstGathered_eq together (fun grouping hgrouping => (kept grouping hgrouping).2.2)
      (hid ▸ Draft.exists_filled_text Draft.isWording_basePath hdrafts hdraft)]
    exact hfollows.basePath
  case methods => exact hsame ▸ hfollows.methods

def stallFragments : List Fragment :=
  [{ origin := some "prices", groupings := [{
      id := some "$\x7bname\x7d"
      endpoints := [{ method := .get, paths := ["/stalls"] }] }] },
    { origin := some "orders", groupings := [{
      id := some "$\x7bname\x7d", title := some "", version := some "$\x7brelease\x7d"
      endpoints := [{ method := .post, paths := ["/stalls/"] }] }] },
    { origin := some "stalls", groupings := [{
      id := some "shop", title := some "Stalls", version := some "v2"
      endpoints := [{ method := .put, paths := ["/stalls"] }] }] }]

theorem merge_follows_stalls :
    let values : TemplateValues := ⟨[("name", "shop"), ("release", "v1")]⟩
    ∃ view encountered, merge stallFragments { templates := values } = .ok [view] ∧
      view.title = "Stalls" ∧ view.version = some "v1" ∧
        view.Follows { templates := values } (firstEncountered values stallFragments view.id)
          encountered := by
  intro values
  have hids : (merge stallFragments { templates := values }).map (List.map (·.id)) =
      .ok [some "shop"] := by decide +kernel
  obtain ⟨views, hviews, hmap⟩ := Except.map_eq_ok_iff.mp hids
  obtain ⟨view, rfl, hid⟩ := List.map_eq_singleton_iff.mp hmap
  obtain ⟨_, encountered, -, -, hall⟩ := merge_follows hviews
  have htogether : WrittenTogether values stallFragments (some "shop") := by decide +kernel
  have hkept : KeepsTexts values stallFragments (some "shop") := by decide +kernel
  have htitle : firstEncountered values stallFragments (some "shop") (·.title) = some "Stalls" := by
    decide +kernel
  have hversion : firstEncountered values stallFragments (some "shop") (·.version) = some "v1" := by
    decide +kernel
  have hfollows := (hall view List.mem_cons_self).2 (hid ▸ htogether) (hid ▸ hkept)
  refine ⟨view, encountered, hviews, ?_, ?_, hfollows⟩
  · rw [hfollows.title, hid, htitle]
    rfl
  · rw [hfollows.version, hid, hversion]

def rivalFragments : List Fragment :=
  [{ origin := some "prices", groupings := [{
      id := some "$\x7bname\x7d", title := some "$\x7bheading\x7d"
      endpoints := [{ method := .get, paths := ["/stalls"] }] }] },
    { origin := some "orders", groupings := [{
      id := some "shop", version := some "v1"
      endpoints := [{ method := .post, paths := ["/stalls"] }] }] },
    { origin := some "stalls", groupings := [{
      id := some "$\x7bname\x7d", title := some "Stalls", version := some "v2"
      endpoints := [{ method := .put, paths := ["/stalls"] }] }] }]

/-- The second version that is encountered counts, no title does, and the methods change places. -/
theorem merge_rivals :
    let values : TemplateValues := ⟨[("name", "shop"), ("heading", "")]⟩
    ∃ view encountered, merge rivalFragments { templates := values } = .ok [view] ∧
      (rivalFragments.flatMap Fragment.occurrences).mapM (Occurrence.fill values) =
        .ok encountered ∧
      view.id = some "shop" ∧
      view.title = "shop" ∧
      firstEncountered values rivalFragments (some "shop") (·.title) = some "Stalls" ∧
      view.version = some "v2" ∧
      firstEncountered values rivalFragments (some "shop") (·.version) = some "v1" ∧
      (view.walk.flatMap (·.methods)).map (·.origin) = ["prices", "stalls", "orders"] ∧
      encountered.map (·.sourced.origin) = ["prices", "orders", "stalls"] ∧
      ¬ view.Follows { templates := values } (firstEncountered values rivalFragments view.id)
        encountered := by
  intro values
  have hmerge : (merge rivalFragments { templates := values }).map (List.map fun view =>
      (view.id, view.title, view.version, (view.walk.flatMap (·.methods)).map (·.origin))) =
        .ok [(some "shop", "shop", some "v2", ["prices", "stalls", "orders"])] := by
    decide +kernel
  have hencountered : ((rivalFragments.flatMap Fragment.occurrences).mapM
      (Occurrence.fill values)).map (List.map (·.sourced.origin)) =
        .ok ["prices", "orders", "stalls"] := by decide +kernel
  have htitle : firstEncountered values rivalFragments (some "shop") (·.title) = some "Stalls" := by
    decide +kernel
  have hversion : firstEncountered values rivalFragments (some "shop") (·.version) = some "v1" := by
    decide +kernel
  obtain ⟨views, hviews, hmap⟩ := Except.map_eq_ok_iff.mp hmerge
  obtain ⟨view, rfl, hview⟩ := List.map_eq_singleton_iff.mp hmap
  obtain ⟨encountered, hfilled, horigins⟩ := Except.map_eq_ok_iff.mp hencountered
  simp only [Prod.mk.injEq] at hview
  obtain ⟨hid, htitle', hversion', hwalk⟩ := hview
  refine ⟨view, encountered, hviews, hfilled, hid, htitle', htitle, hversion', hversion, hwalk,
    horigins, fun hfollows => ?_⟩
  have hsame := hfollows.version
  rw [hid, hversion, hversion'] at hsame
  exact absurd hsame (by decide)

end ApiManual
