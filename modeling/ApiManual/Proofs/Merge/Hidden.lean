import ApiManual.Proofs.Draft.Exchange
import ApiManual.Proofs.Draft.Fillable
import ApiManual.Proofs.Merge.Selection
import ApiManual.Proofs.Merge.Views

/-!
Endpoints that are not to be documented leave no trace. If they give way to others that are not to
be documented either, the views stay the same in every field, and so does the error.
-/
namespace ApiManual

open UriPath

namespace Endpoint

/-- An endpoint is out of scope, or all its paths, filled in and in normal form, are excluded. -/
def Hidden (options : MergeOptions) (endpoint : Endpoint) : Prop :=
  endpoint.isInScope options.scope = false ∨
    ∀ path ∈ endpoint.paths, ∀ filled, options.templates.substitute path = .ok filled →
      options.excluded (normalize filled) = true

instance (options : MergeOptions) (endpoint : Endpoint) : Decidable (endpoint.Hidden options) :=
  decidable_of_iff (endpoint.isInScope options.scope = false ∨ ∀ path ∈ endpoint.paths,
    ∀ filled ∈ (options.templates.substitute path).toOption,
      options.excluded (normalize filled) = true) <| by
    simp only [Hidden, Option.mem_def, Except.toOption_eq_some_iff]

/-- The same endpoint, or two hidden ones. -/
def Interchangeable (options : MergeOptions) (endpoint other : Endpoint) : Prop :=
  endpoint = other ∨
    (endpoint.Hidden options ∧ endpoint.Fillable options.templates) ∧
      other.Hidden options ∧ other.Fillable options.templates

/-- An endpoint whose paths are filled in is out of scope, or all its paths are excluded. -/
def Unselected (options : MergeOptions) (endpoint : Endpoint) : Prop :=
  endpoint.isInScope options.scope = false ∨
    ∀ path ∈ endpoint.paths, options.excluded (normalize path) = true

theorem Hidden.exists_filled {options : MergeOptions} {endpoint : Endpoint}
    (hidden : endpoint.Hidden options) (fillable : endpoint.Fillable options.templates) :
    ∃ paths, endpoint.paths.mapM options.templates.substitute = .ok paths ∧
      Unselected options { endpoint with paths } := by
  choose! fill hfill using fillable
  refine ⟨endpoint.paths.map fill, Except.mapM_eq_ok_map hfill,
    hidden.imp_right fun hexcluded => ?_⟩
  simp only [List.forall_mem_map]
  exact fun path hpath => hexcluded path hpath _ (hfill path hpath)

end Endpoint

/-- The same grouping but for some endpoints, which are hidden on both sides. -/
structure Grouping.Interchangeable (options : MergeOptions) (grouping other : Grouping) : Prop where
  rest : { grouping with endpoints := other.endpoints } = other
  endpoints : List.Forall₂ (Endpoint.Interchangeable options) grouping.endpoints other.endpoints

structure Fragment.Interchangeable (options : MergeOptions) (fragment other : Fragment) : Prop where
  origin : fragment.origin = other.origin
  groupings : List.Forall₂ (Grouping.Interchangeable options) fragment.groupings other.groupings

variable {options : MergeOptions}

theorem selected_eq_nil {sourced : SourcedEndpoint} (h : sourced.endpoint.Unselected options) :
    sourced.selected options = [] := by
  unfold SourcedEndpoint.selected Draft.keepPaths
  dsimp only
  split
  · rfl
  · rename_i hkept
    rcases h with hscope | hexcluded
    · have hsame : ∀ paths, { sourced.endpoint with paths }.isInScope options.scope = false :=
        fun _ => hscope
      simp only [Option.toList_some, List.filter_cons, hsame, Bool.false_eq_true, if_false,
        List.filter_nil]
    · refine absurd ?_ hkept
      rw [List.isEmpty_iff, List.filter_eq_nil_iff]
      intro path hpath
      obtain ⟨written, hwritten, rfl⟩ := List.mem_map.mp (mem_distinct.mp hpath)
      rw [hexcluded written hwritten]
      exact Bool.false_ne_true

theorem flatMap_selected_eq {endpoints others : List SourcedEndpoint}
    (h : List.Forall₂ (Draft.Swapped (Endpoint.Unselected options)) endpoints others) :
    endpoints.flatMap (SourcedEndpoint.selected options) =
      others.flatMap (SourcedEndpoint.selected options) := by
  induction h with
  | nil => rfl
  | cons hfirst _ ih =>
    rw [List.flatMap_cons, List.flatMap_cons, ih]
    rcases hfirst with rfl | ⟨hunselected, hunselected'⟩
    · rfl
    · rw [selected_eq_nil hunselected, selected_eq_nil hunselected']

theorem map_selected_eq {drafts others : List Draft}
    (h : List.Forall₂ (Draft.Exchanged (Draft.Swapped (Endpoint.Unselected options))) drafts
      others) :
    drafts.map (Draft.selected options) = others.map (Draft.selected options) := by
  induction h with
  | nil => rfl
  | cons hfirst _ ih =>
    rw [List.map_cons, List.map_cons, ih, Draft.selected_eq, Draft.selected_eq, ← hfirst.rest,
      flatMap_selected_eq hfirst.endpoints]

theorem exchanged_ofFragments {fragments others : List Fragment}
    (h : List.Forall₂ (Fragment.Interchangeable options) fragments others) :
    List.Forall₂ (Draft.Exchanged (Draft.Swapped fun endpoint =>
        endpoint.Hidden options ∧ endpoint.Fillable options.templates))
      (Draft.ofFragments fragments) (Draft.ofFragments others) := by
  refine Draft.forall₂_ofFragments (h.imp fun fragment other hfragment => ?_)
  rw [Fragment.label, Fragment.label, hfragment.origin, List.forall₂_map_left_iff,
    List.forall₂_map_right_iff]
  refine hfragment.groupings.imp fun grouping grouping' hgrouping => ?_
  refine Draft.forall₂_ofGrouping hgrouping.rest (hgrouping.endpoints.imp ?_)
  rintro endpoint endpoint' (rfl | hhidden)
  · exact Draft.Swapped.refl _ _
  · exact Or.inr hhidden

theorem selectedDrafts_eq_of_interchangeable {fragments others : List Fragment}
    (h : List.Forall₂ (Fragment.Interchangeable options) fragments others) :
    selectedDrafts fragments options = selectedDrafts others options := by
  have hfill := Except.Alike.mapM (exchanged_ofFragments h) fun _ _ =>
    Draft.Exchanged.fill fun endpoint hhidden => hhidden.1.exists_filled hhidden.2
  refine Except.Alike.eq (Except.Alike.bind (hfill.mapError MergeError.unresolved) ?_)
  intro drafts drafts' hdrafts
  exact Except.Alike.ok (map_selected_eq (Draft.forall₂_gather hdrafts))

/-- Which hidden endpoints there are, and what they say, makes no difference. -/
theorem merge_eq_of_interchangeable {fragments others : List Fragment}
    (h : List.Forall₂ (Fragment.Interchangeable options) fragments others) :
    merge fragments options = merge others options := by
  unfold merge
  rw [selectedDrafts_eq_of_interchangeable h]

/-- A shop with an endpoint for its staff, which is all that the default interface has, and one
that tells its status. -/
def staffedShop (staff status : Endpoint) : List Fragment :=
  [{ origin := some "orders", groupings := [{ id := some "$\x7bname\x7d", endpoints := [
      { method := .get, paths := ["/shops/{id}/orders"] }, staff, status] },
      { endpoints := [staff] }] },
    { origin := some "shops", groupings := [{ id := some "shop", endpoints := [
      { method := .get, paths := ["/shops/{id}"], traits := [.deprecated] }] }] }]

theorem merge_eq_of_interchangeable_staff :
    let fragments := staffedShop { method := .delete, paths := ["/shops"], scopes := [⟨"staff"⟩] }
      { method := .get, paths := ["/status"] }
    let others := staffedShop
      { method := .get, paths := ["/$\x7bname\x7d/{id}/{id}"], scopes := [⟨"internal"⟩],
        traits := [.experimental], security := some (.oauth2 ["shops:write"]) }
      { method := .put, paths := ["//status/", "/status"], doc := some "Sets the status." }
    List.Forall₂ (Fragment.Interchangeable shopOptions) fragments others ∧
      merge fragments shopOptions = merge others shopOptions ∧
        (merge fragments shopOptions).isOk = true := by
  intro fragments others
  have hstaff : Endpoint.Interchangeable shopOptions
      { method := .delete, paths := ["/shops"], scopes := [⟨"staff"⟩] }
      { method := .get, paths := ["/$\x7bname\x7d/{id}/{id}"], scopes := [⟨"internal"⟩],
        traits := [.experimental], security := some (.oauth2 ["shops:write"]) } :=
    Or.inr (by decide +kernel)
  have hstatus : Endpoint.Interchangeable shopOptions { method := .get, paths := ["/status"] }
      { method := .put, paths := ["//status/", "/status"], doc := some "Sets the status." } :=
    Or.inr (by decide +kernel)
  have hinterchangeable : List.Forall₂ (Fragment.Interchangeable shopOptions) fragments others := by
    refine .cons ⟨rfl, .cons ⟨rfl, ?_⟩ (.cons ⟨rfl, .cons hstaff .nil⟩ .nil)⟩
      (.cons ⟨rfl, .cons ⟨rfl, ?_⟩ .nil⟩ .nil)
    · exact .cons (Or.inl rfl) (.cons hstaff (.cons hstatus .nil))
    · exact .cons (Or.inl rfl) .nil
  exact ⟨hinterchangeable, merge_eq_of_interchangeable hinterchangeable, by decide +kernel⟩

end ApiManual
