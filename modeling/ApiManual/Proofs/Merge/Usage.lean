import ApiManual.Proofs.Merge.Content
import ApiManual.Proofs.Merge.Precedence

/-!
What a view declares for its methods. It lists the stability traits and the security schemes that
they use, each one once: the known traits and then all others as they first occur, and the schemes
as they first occur, with the scopes that are asked of them.
-/
namespace ApiManual

/-- Known traits come first, in their own order, and then the others as they are first used. -/
def StabilityTrait.Before (used : List StabilityTrait) (tag other : StabilityTrait) : Prop :=
  match tag.rank?, other.rank? with
  | some rank, some otherRank => rank < otherRank
  | some _, none => True
  | none, some _ => False
  | none, none => used.idxOf tag < used.idxOf other

namespace Resolution

theorem eq_of_rank? {tag other : StabilityTrait} {rank : Nat} (h : tag.rank? = some rank)
    (hother : other.rank? = some rank) : tag = other := by
  obtain ⟨_, htag, -⟩ := List.findIdx?_eq_some_iff_getElem.mp h
  obtain ⟨_, hsame, -⟩ := List.findIdx?_eq_some_iff_getElem.mp hother
  exact (of_decide_eq_true htag).symm.trans (of_decide_eq_true hsame)

theorem pairwise_declaredTraits (used : List StabilityTrait) :
    (declaredTraits used).Pairwise (StabilityTrait.Before used) := by
  refine (pairwise_declaredTraits_place used).imp fun {tag other} hplaced => ?_
  rw [StabilityTrait.Before]
  cases hrank : tag.rank? with
  | some rank =>
    cases hother : other.rank? with
    | some rank' =>
      rw [place_of_rank? hrank, place_of_rank? hother] at hplaced
      refine hplaced.resolve_right fun ⟨hsame, hlt⟩ => hlt.ne ?_
      rw [eq_of_rank? hrank (hsame ▸ hother)]
    | none => trivial
  | none =>
    cases hother : other.rank? with
    | some rank' => exact absurd (place_lt hother hrank) (by omega)
    | none =>
      have hsame : place tag = place other := by rw [place, place, hrank, hother]
      exact (hplaced.resolve_left hsame.not_lt).2

theorem firstSeen_scopes {requirements : List Security} {scheme : SecurityScheme}
    (h : scheme ∈ securitySchemes requirements) :
    FirstSeen ((requirements.filter (·.scheme = scheme.name)).flatMap Security.scopes)
      scheme.scopes := by
  rw [securitySchemes_eq] at h
  obtain ⟨name, -, rfl⟩ := List.mem_map.mp h
  exact firstSeen_distinct _

end Resolution

/-- What a view declares is what its methods use, in the order of the endpoints that they are. -/
structure ApiView.DeclaresUsed (view : ApiView) (endpoints : List Endpoint) : Prop where
  documented : ∀ endpoint, endpoint ∈ endpoints ↔
    ∃ resource ∈ view.walk, ∃ method ∈ resource.methods, method.endpoint = endpoint
  inOrder : ∀ resource ∈ view.walk, (resource.methods.map (·.endpoint)).Sublist endpoints
  methodTraits : ∀ resource ∈ view.walk, ∀ method ∈ resource.methods,
    FirstSeen method.endpoint.traits method.traits
  nodup_traits : view.traits.Nodup
  mem_traits : ∀ tag, tag ∈ view.traits ↔
    ∃ resource ∈ view.walk, ∃ method ∈ resource.methods, tag ∈ method.traits
  traits_inOrder : view.traits.Pairwise (StabilityTrait.Before (endpoints.flatMap (·.traits)))
  schemes : FirstSeen ((endpoints.filterMap (·.security)).map (·.scheme))
    (view.securitySchemes.map (·.name))
  scopes : ∀ scheme ∈ view.securitySchemes,
    FirstSeen (((endpoints.filterMap (·.security)).filter (·.scheme = scheme.name)).flatMap
      Security.scopes) scheme.scopes

namespace Occurrence

variable {options : MergeOptions} {occurrence : Occurrence}

def isShown (options : MergeOptions) (occurrence : Occurrence) : Bool :=
  occurrence.isInScope options && occurrence.keptPaths options ≠ []

theorem isShown_iff : occurrence.isShown options = true ↔
    ∃ path, occurrence.isPlaced options path = true := by
  simp only [isShown, isPlaced, Bool.and_eq_true, decide_eq_true_eq, List.contains_iff_mem,
    exists_and_left]
  refine and_congr_right fun _ => ⟨List.exists_mem_of_ne_nil _, ?_⟩
  rintro ⟨path, hpath⟩
  exact List.ne_nil_of_mem hpath

theorem isPlaced_iff {path : String} : occurrence.isPlaced options path = true ↔
    path ∈ (occurrence.mounts options).map (·.path) := by
  rw [isPlaced, Bool.and_eq_true, List.contains_iff_mem, mounts]
  split
  · rename_i hscope
    simp [hscope]
  · rename_i hscope
    simp [hscope]

variable (options occurrence) in
theorem selected_eq : occurrence.sourced.selected options =
    if occurrence.isShown options then [occurrence.kept options] else [] := by
  have hscope : (occurrence.kept options).endpoint.isInScope options.scope =
      occurrence.isInScope options := rfl
  rw [SourcedEndpoint.selected, keepPaths_eq, isShown]
  by_cases hnil : occurrence.keptPaths options = []
  · simp [hnil]
  · rw [if_neg hnil, Option.toList_some, List.filter_singleton, hscope]
    simp [hnil]

end Occurrence

/-- The endpoints that the view with an id documents, of occurrences that are filled in. -/
def shownEndpoints (options : MergeOptions) (filled : List Occurrence) (id : Option String) :
    List Endpoint :=
  ((filled.filter (·.id = id)).filter (·.isShown options)).map (·.kept options |>.endpoint)

theorem Draft.endpoints_selected (options : MergeOptions) (draft : Draft) :
    (draft.selected options).endpoints =
      (draft.occurrences.filter (·.isShown options)).map (Occurrence.kept options) := by
  rw [selected_eq, occurrences]
  change draft.endpoints.flatMap (SourcedEndpoint.selected options) = _
  induction draft.endpoints with
  | nil => rfl
  | cons sourced rest ih =>
    have hfirst := Occurrence.selected_eq options ⟨draft.id, sourced⟩
    rw [List.flatMap_cons, List.map_cons, List.filter_cons, ih, hfirst]
    split <;> rfl

section

variable {options : MergeOptions} {filled : List Occurrence} {view : ApiView}
  (methods : ∀ resource ∈ view.walk, resource.methods =
    ((filled.filter (·.id = view.id)).filter (·.isPlaced options resource.path)).map
      (Occurrence.method options))

include methods

theorem exists_occurrence {resource : Resource} (hresource : resource ∈ view.walk)
    {method : ResourceMethod} (hmethod : method ∈ resource.methods) :
    ∃ occurrence ∈ filled.filter (·.id = view.id),
      occurrence.isPlaced options resource.path = true ∧ occurrence.method options = method := by
  rw [methods resource hresource] at hmethod
  obtain ⟨occurrence, hmem, rfl⟩ := List.mem_map.mp hmethod
  obtain ⟨hoccurrence, hplaced⟩ := List.mem_filter.mp hmem
  exact ⟨occurrence, hoccurrence, hplaced, rfl⟩

theorem sublist_shownEndpoints {resource : Resource} (hresource : resource ∈ view.walk) :
    (resource.methods.map (·.endpoint)).Sublist (shownEndpoints options filled view.id) := by
  rw [methods resource hresource, List.map_map]
  exact (List.monotone_filter_right _ fun _ h => Occurrence.isShown_iff.mpr ⟨_, h⟩).map _

theorem mem_shownEndpoints_iff (paths : ∀ occurrence ∈ filled.filter (·.id = view.id), ∀ path,
      occurrence.isPlaced options path = true → path ∈ view.walk.map (·.path))
    {endpoint : Endpoint} : endpoint ∈ shownEndpoints options filled view.id ↔
      ∃ resource ∈ view.walk, ∃ method ∈ resource.methods, method.endpoint = endpoint := by
  constructor
  · intro hmem
    obtain ⟨occurrence, hoccurrence, rfl⟩ := List.mem_map.mp hmem
    obtain ⟨hown, hshown⟩ := List.mem_filter.mp hoccurrence
    obtain ⟨path, hplaced⟩ := Occurrence.isShown_iff.mp hshown
    obtain ⟨resource, hresource, rfl⟩ := List.mem_map.mp (paths occurrence hown path hplaced)
    refine ⟨resource, hresource, occurrence.method options, ?_, rfl⟩
    rw [methods resource hresource]
    exact List.mem_map_of_mem (List.mem_filter.mpr ⟨hown, hplaced⟩)
  · rintro ⟨resource, hresource, method, hmethod, rfl⟩
    exact (sublist_shownEndpoints methods hresource).mem (List.mem_map_of_mem hmethod)

end

/-- The view of a draft declares what the endpoints that are left of the draft use. -/
theorem Draft.declaresUsed {options : MergeOptions} {fragments : List Fragment}
    {filled : List Draft}
    (hfilled : (ofFragments fragments).mapM (fill options.templates) = .ok filled) {draft : Draft}
    (hdraft : draft ∈ gather filled) {view : ApiView}
    (hview : (draft.selected options).resolve = .ok view) :
    view.DeclaresUsed (shownEndpoints options (filled.flatMap occurrences) view.id) := by
  have methods := (follows hfilled hdraft hview).methods
  have resolved := resolved_of_resolve draft.normal_selected hview
  have hown : (filled.flatMap occurrences).filter (·.id = view.id) = draft.occurrences := by
    rw [occurrences_of_mem_gather hdraft, resolved.id_eq]
    rfl
  have hendpoints : (draft.selected options).endpoints.map (·.endpoint) =
      shownEndpoints options (filled.flatMap occurrences) view.id := by
    rw [endpoints_selected, List.map_map, shownEndpoints, hown]
    rfl
  have hpaths : ∀ occurrence ∈ (filled.flatMap occurrences).filter (·.id = view.id), ∀ path,
      occurrence.isPlaced options path = true → path ∈ view.walk.map (·.path) := by
    intro occurrence hoccurrence path hplaced
    rw [hown] at hoccurrence
    rw [resolved.arranged.mem_iff, mountPaths, mounts_selected, List.map_flatMap, List.mem_flatMap]
    exact ⟨occurrence, hoccurrence, Occurrence.isPlaced_iff.mp hplaced⟩
  have htraits : view.traits = Resolution.declaredTraits
      ((shownEndpoints options (filled.flatMap occurrences) view.id).flatMap (·.traits)) := by
    rw [← hendpoints, resolved.view_eq]
    rfl
  have hschemes : view.securitySchemes = Resolution.securitySchemes
      ((shownEndpoints options (filled.flatMap occurrences) view.id).filterMap (·.security)) := by
    rw [← hendpoints, resolved.view_eq]
    rfl
  have hmethodTraits : ∀ resource ∈ view.walk, ∀ method ∈ resource.methods,
      method.traits = distinct method.endpoint.traits := by
    intro resource hresource method hmethod
    obtain ⟨occurrence, -, -, rfl⟩ := exists_occurrence methods hresource hmethod
    rfl
  constructor
  case documented => exact fun _ => mem_shownEndpoints_iff methods hpaths
  case inOrder => exact fun _ => sublist_shownEndpoints methods
  case methodTraits =>
    intro resource hresource method hmethod
    rw [hmethodTraits resource hresource method hmethod]
    exact firstSeen_distinct _
  case nodup_traits => exact htraits ▸ Resolution.nodup_declaredTraits _
  case mem_traits =>
    intro tag
    rw [htraits, Resolution.mem_declaredTraits, List.mem_flatMap]
    constructor
    · rintro ⟨endpoint, hendpoint, htag⟩
      obtain ⟨resource, hresource, method, hmethod, rfl⟩ :=
        (mem_shownEndpoints_iff methods hpaths).mp hendpoint
      refine ⟨resource, hresource, method, hmethod, ?_⟩
      rw [hmethodTraits resource hresource method hmethod, mem_distinct]
      exact htag
    · rintro ⟨resource, hresource, method, hmethod, htag⟩
      rw [hmethodTraits resource hresource method hmethod, mem_distinct] at htag
      exact ⟨method.endpoint, (mem_shownEndpoints_iff methods hpaths).mpr
        ⟨resource, hresource, method, hmethod, rfl⟩, htag⟩
  case traits_inOrder => exact htraits ▸ Resolution.pairwise_declaredTraits _
  case schemes =>
    rw [hschemes, Resolution.names_securitySchemes]
    exact firstSeen_distinct _
  case scopes =>
    rw [hschemes]
    exact fun _ => Resolution.firstSeen_scopes

/-- Each view declares the traits and the schemes that its methods use, and no others. -/
theorem merge_declaresUsed {fragments : List Fragment} {options : MergeOptions}
    {views : List ApiView} (h : merge fragments options = .ok views) :
    ∃ filled,
      (gatheredOccurrences fragments).mapM (Occurrence.fill options.templates) = .ok filled ∧
      ∀ view ∈ views, view.DeclaresUsed (shownEndpoints options filled view.id) := by
  obtain ⟨drafts, hdrafts, hviews⟩ := merge_eq_ok_iff.mp h
  refine ⟨drafts.flatMap Draft.occurrences, ?_, fun view hview => ?_⟩
  · rw [← Draft.occurrences_ofFragments_eq, Except.mapM_eq_ok_iff]
    exact Draft.forall₂_fill_flatMap_occurrences hdrafts
  · obtain ⟨draft, hdraft, hresolve⟩ := hviews.exists_left hview
    exact Draft.declaresUsed hdrafts hdraft hresolve

/-- Berths with traits that come again, and two requirements of one scheme with another one between
them; what is said of the docks is left out. -/
def harborFragments : List Fragment :=
  [{ origin := some "berths", groupings := [{ id := some "$\x7bname\x7d", endpoints := [
      { method := .get, paths := ["/berths", "/quays/"]
        traits := [⟨"beta"⟩, .deprecated, ⟨"beta"⟩]
        security := some (.oauth2 ["read", "list", "read"]) },
      { method := .put, paths := ["/docks"], traits := [⟨"alpha"⟩]
        security := some { scheme := "digest" } }] }] },
    { origin := some "ships", groupings := [{ id := some "shop", endpoints := [
      { method := .post, paths := ["/berths"], traits := [⟨"gamma"⟩, .experimental]
        security := some { scheme := "basic" } },
      { method := .delete, paths := ["/berths"], traits := [⟨"beta"⟩, .experimental]
        security := some (.oauth2 ["write", "list"]) }] }] }]

theorem merge_declaresUsed_harbor :
    let options : MergeOptions := { shopOptions with excluded := fun path => path = "/docks" }
    ∃ view filled, merge harborFragments options = .ok [view] ∧
      view.DeclaresUsed (shownEndpoints options filled view.id) ∧
      view.traits = [.experimental, .deprecated, ⟨"beta"⟩, ⟨"gamma"⟩] ∧
      view.securitySchemes = [⟨"oauth_2_0", ["read", "list", "write"]⟩, ⟨"basic", []⟩] := by
  intro options
  have hdeclared : (merge harborFragments options).map (List.map fun view =>
      (view.traits, view.securitySchemes)) = .ok [([.experimental, .deprecated, ⟨"beta"⟩,
        ⟨"gamma"⟩], [⟨"oauth_2_0", ["read", "list", "write"]⟩, ⟨"basic", []⟩])] := by
    decide +kernel
  obtain ⟨view, hview, hboth⟩ := Except.exists_of_map_eq_singleton hdeclared
  obtain ⟨htraits, hschemes⟩ := Prod.mk.inj hboth
  obtain ⟨filled, -, hall⟩ := merge_declaresUsed hview
  exact ⟨view, filled, hview, hall view List.mem_cons_self, htraits, hschemes⟩

end ApiManual
