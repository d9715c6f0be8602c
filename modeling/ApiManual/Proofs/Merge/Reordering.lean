import ApiManual.Proofs.Draft.Fillable
import ApiManual.Proofs.Merge.Content

/-!
Fragments in another order. They can be merged or not, whatever their order, and what they are
merged into differs only in the order of lists and in the texts of which the first one counts.
-/
namespace ApiManual

open Draft

variable {fragments others : List Fragment} {options : MergeOptions} {filled filled' : List Draft}

theorem ids_views {drafts : List Draft} {views : List ApiView}
    (h : List.Forall₂ (fun draft view => (draft.selected options).resolve = .ok view) drafts
      views) :
    views.map (·.id) = drafts.map (·.id) := by
  have hresolved : List.Forall₂ Resolved (drafts.map (Draft.selected options)) views :=
    List.forall₂_map_left_iff.mpr (h.imp fun _ _ => resolved_of_resolve (normal_selected _))
  rw [ids_eq hresolved, List.map_map]
  rfl

section

variable (perm : fragments.Perm others)
  (h : (ofFragments fragments).mapM (fill options.templates) = .ok filled)
  (h' : (ofFragments others).mapM (fill options.templates) = .ok filled')

include perm h h'

/-- Each draft of the fragments in one order is one of them in the other order, and has a view if
that one has. -/
theorem exists_merge_of_perm (hmerge : ∃ views, merge fragments options = .ok views) :
    ∃ views, merge others options = .ok views := by
  obtain ⟨views, hviews⟩ := hmerge
  obtain ⟨drafts, hdrafts, hresolve⟩ := merge_eq_ok_iff.mp hviews
  cases Except.ok.inj (h.symm.trans hdrafts)
  have hother : ∀ other ∈ gather filled', ∃ view, (other.selected options).resolve = .ok view := by
    intro other hother
    have hid : other.id ∈ (gather filled).map (·.id) :=
      (ids_gather_perm h perm h').mpr (List.mem_map_of_mem hother)
    obtain ⟨draft, hdraft, hsame⟩ := List.mem_map.mp hid
    obtain ⟨view, -, hview⟩ := hresolve.exists_right hdraft
    have hreordered := reordered_of_mem_gather h perm h' hdraft hother hsame
    exact (hreordered.selected options).exists_resolve draft.normal_selected ⟨view, hview⟩
  choose! view hview using hother
  exact ⟨_, merge_eq_ok_iff.mpr ⟨filled', h', Except.mapM_eq_ok_iff.mp
    (Except.mapM_eq_ok_map hview)⟩⟩

theorem sameContent_of_perm {views views' : List ApiView}
    (hmerge : merge fragments options = .ok views) (hmerge' : merge others options = .ok views') :
    (∀ id, id ∈ views.map (·.id) ↔ id ∈ views'.map (·.id)) ∧
      ∀ view ∈ views, ∀ view' ∈ views', view.id = view'.id → view.SameContent view' := by
  obtain ⟨drafts, hdrafts, hviews⟩ := merge_eq_ok_iff.mp hmerge
  obtain ⟨drafts', hdrafts', hviews'⟩ := merge_eq_ok_iff.mp hmerge'
  cases Except.ok.inj (h.symm.trans hdrafts)
  cases Except.ok.inj (h'.symm.trans hdrafts')
  refine ⟨fun id => ?_, fun view hview view' hview' hsame => ?_⟩
  · rw [ids_views hviews, ids_views hviews', ids_gather_perm h perm h']
  · obtain ⟨draft, hdraft, hresolve⟩ := hviews.exists_left hview
    obtain ⟨draft', hdraft', hresolve'⟩ := hviews'.exists_left hview'
    have hid : draft.id = draft'.id :=
      (resolved_of_resolve draft.normal_selected hresolve).id_eq.symm.trans
        (hsame.trans (resolved_of_resolve draft'.normal_selected hresolve').id_eq)
    have hreordered := reordered_of_mem_gather h perm h' hdraft hdraft' hid
    exact (hreordered.selected options).sameContent draft.normal_selected hresolve hresolve'

end

/-- If what is filled in, in whatever order, has values for its placeholders, the order of fragments
decides neither whether they can be merged nor what is documented. -/
theorem merge_perm
    (fillable : ∀ order, fragments.Perm order → ∀ draft ∈ ofFragments order,
      draft.Fillable options.templates) (perm : fragments.Perm others) :
    ((∃ views, merge fragments options = .ok views) ↔
      ∃ views, merge others options = .ok views) ∧
    ∀ views views', merge fragments options = .ok views → merge others options = .ok views' →
      (∀ id, id ∈ views.map (·.id) ↔ id ∈ views'.map (·.id)) ∧
        ∀ view ∈ views, ∀ view' ∈ views', view.id = view'.id → view.SameContent view' := by
  obtain ⟨filled, hfilled⟩ := exists_mapM_fill (fillable fragments (List.Perm.refl fragments))
  obtain ⟨filled', hfilled'⟩ := exists_mapM_fill (fillable others perm)
  refine ⟨⟨exists_merge_of_perm perm hfilled hfilled',
    exists_merge_of_perm perm.symm hfilled' hfilled⟩, fun views views' => ?_⟩
  exact sameContent_of_perm perm hfilled hfilled'

def releaseFragments : List Fragment :=
  [{ origin := some "orders", groupings := [{
      id := some "$\x7bname\x7d", version := some "v1"
      endpoints := [{
        method := .get, paths := ["/shops/{id}/orders", "/orders"]
        pathParameters := [{ name := "id", allowedValues := some ["north", "south"] }]
        traits := [.deprecated], security := some (.oauth2 ["orders:read"]) }] }] },
    { origin := some "shops", groupings := [{
      id := some "shop", version := some "v2"
      endpoints := [{
        method := .get, paths := ["/shops/{id}"]
        pathParameters := [{ name := "id", description := some "The place of the shop." }]
        security := some (.oauth2 ["shops:read"]) }] }, { title := some "$\x7bname\x7d" }] }]

theorem merge_perm_releases :
    ∃ view view', merge releaseFragments shopOptions = .ok [view] ∧
      merge releaseFragments.reverse shopOptions = .ok [view'] ∧
        view.version = some "v1" ∧ view'.version = some "v2" ∧ view.SameContent view' := by
  have hgroupings : ∀ fragment ∈ releaseFragments, ∀ grouping ∈ fragment.groupings,
      grouping.Fillable shopOptions.templates := by decide +kernel
  have hfillable : ∀ order, releaseFragments.Perm order → ∀ draft ∈ ofFragments order,
      draft.Fillable shopOptions.templates := fun order hperm =>
    fillable_ofFragments fun fragment hfragment => hgroupings fragment (hperm.mem_iff.mpr hfragment)
  have hviews : (merge releaseFragments shopOptions).map (List.map fun view =>
      (view.id, view.version)) = .ok [(some "shop", some "v1")] := by decide +kernel
  have hviews' : (merge releaseFragments.reverse shopOptions).map (List.map fun view =>
      (view.id, view.version)) = .ok [(some "shop", some "v2")] := by decide +kernel
  obtain ⟨views, hmerge, hall⟩ := Except.map_eq_ok_iff.mp hviews
  obtain ⟨views', hmerge', hall'⟩ := Except.map_eq_ok_iff.mp hviews'
  obtain ⟨view, rfl, hview⟩ := List.map_eq_singleton_iff.mp hall
  obtain ⟨view', rfl, hview'⟩ := List.map_eq_singleton_iff.mp hall'
  obtain ⟨hid, hversion⟩ := Prod.mk.inj hview
  obtain ⟨hid', hversion'⟩ := Prod.mk.inj hview'
  have hperm : releaseFragments.Perm releaseFragments.reverse := (List.reverse_perm _).symm
  have hsame := ((merge_perm hfillable hperm).2 _ _ hmerge hmerge').2 view List.mem_cons_self view'
    List.mem_cons_self (hid.trans hid'.symm)
  exact ⟨view, view', hmerge, hmerge', hversion, hversion', hsame⟩

end ApiManual
