import ApiManual.Proofs.Merge.Views
import ApiManual.Proofs.Resolution.Accumulation
import ApiManual.Proofs.View.Methods

/-!
What a view says about a parameter. It is put together from what all endpoints at or below the
declaring path say under that name, in their order; of each kind of thing the first counts.
-/
namespace ApiManual

open Outline UriPath Declaration Resolution

/-- What is said under a name at mounts that a path covers, in the order of the mounts. -/
def Mount.saidBelow (path name : String) (mounts : List Mount) : List Parameter :=
  (mounts.filter fun mount => Covers path mount.path).flatMap fun mount =>
    mount.sourced.endpoint.pathParameters.filter (·.name = name)

/-- Of each kind of thing that is said about the parameter the first one counts. -/
structure UriParameter.Documents (parameter : UriParameter) (said : List Parameter) : Prop where
  description : parameter.description = said.findSome? fun entry => filled? entry.description
  type : parameter.type = said.findSome? (·.type)
  allowedValues : parameter.allowedValues = said.findSome? fun entry => listed? entry.allowedValues

namespace Statement

theorem documents_summarize (declaration : Declaration) (statements : List Statement) :
    (summarize declaration statements).Documents
      ((about declaration.owner declaration.token.name statements).map (·.parameter)) := by
  rw [summarize_eq]
  exact ⟨rfl, rfl, rfl⟩

end Statement

section

variable {paths : List String} (slashed : ∀ path ∈ paths, WellSlashed path)
  (once : ∀ path ∈ paths, (parameterNames path).Nodup) {path name : String}
  (introduces : Introduces paths path name)

include slashed once introduces

/-- What is said at a mount under a name that a path introduces is said about that path's
declaration if the path covers the mount, and about another one otherwise. -/
theorem Mount.about_statements {mount : Mount} (hmount : mount.path ∈ paths) :
    (Statement.about path name (mount.statements (ofPaths paths) (declarationsOf paths))).map
        (·.parameter) =
      if Covers path mount.path then
        mount.sourced.endpoint.pathParameters.filter (·.name = name)
      else [] := by
  rw [Statement.about, Mount.statements, List.filter_filterMap, List.map_filterMap]
  by_cases hcovers : Covers path mount.path
  · rw [if_pos hcovers, ← List.filterMap_eq_filter]
    apply List.filterMap_congr
    intro parameter _
    by_cases hname : parameter.name = name
    · -- the chain of the mount holds the path, and no other one on it introduces the name
      subst hname
      obtain ⟨declaration, hfound, howner⟩ :=
        (onChain?_owner_iff slashed once hmount).mpr ⟨hcovers, introduces⟩
      simp [hfound, howner, Option.guard]
    · cases onChain? (declarationsOf paths) ((ofPaths paths).chain mount.path) parameter.name with
      | none => simp [hname, Option.guard]
      | some declaration => simp [hname, Option.guard]
  · rw [if_neg hcovers, List.filterMap_eq_nil_iff]
    intro parameter _
    cases hfound : onChain? (declarationsOf paths) ((ofPaths paths).chain mount.path)
        parameter.name with
    | none => rfl
    | some declaration =>
      obtain ⟨hcovers', -⟩ := introduces_of_onChain? slashed once hmount hfound
      have howner : declaration.owner ≠ path := fun heq => hcovers (heq ▸ hcovers')
      simp [howner]

theorem Mount.about_flatMap_statements {mounts : List Mount}
    (hmounts : ∀ mount ∈ mounts, mount.path ∈ paths) :
    (Statement.about path name (mounts.flatMap
        (Mount.statements (ofPaths paths) (declarationsOf paths)))).map (·.parameter) =
      saidBelow path name mounts := by
  induction mounts with
  | nil => rfl
  | cons mount rest ih =>
    obtain ⟨hmount, hrest⟩ := List.forall_mem_cons.mp hmounts
    have hown := Mount.about_statements slashed once introduces hmount
    rw [Statement.about] at ih hown ⊢
    rw [List.flatMap_cons, List.filter_append, List.map_append, hown, ih hrest, saidBelow,
      saidBelow, List.filter_cons]
    by_cases hcovers : Covers path mount.path
    · simp [hcovers]
    · simp [hcovers]

end

theorem Draft.Resolved.documents {draft : Draft} {view : ApiView} (resolved : draft.Resolved view) :
    ∀ resource ∈ view.walk, ∀ parameter ∈ resource.uriParameters,
      parameter.Documents (Mount.saidBelow resource.path parameter.name draft.mounts) := by
  obtain ⟨normal, once, -, rfl⟩ := resolved
  intro resource hresource parameter hparameter
  obtain ⟨path, hpath, rfl⟩ := (mem_walk_view _ normal.wellSlashed).mp hresource
  obtain ⟨⟨owner, token⟩, hdeclaration, rfl⟩ := List.mem_map.mp hparameter
  obtain ⟨hmem, howner⟩ := List.mem_filter.mp hdeclaration
  obtain rfl : owner = path := entryOf_path draft.mountPaths path ▸ of_decide_eq_true howner
  obtain ⟨-, htoken⟩ := (mem_declarationsOf normal.wellSlashed).mp hmem
  have hintroduces := (introduces_iff normal.wellSlashed once hpath).mpr ⟨token, htoken, rfl⟩
  have hdocuments := Statement.documents_summarize ⟨owner, token⟩ (draft.mounts.flatMap
    (Mount.statements (ofPaths draft.mountPaths) (declarationsOf draft.mountPaths)))
  rw [Mount.about_flatMap_statements normal.wellSlashed once hintroduces
    fun _ => path_mem_mountPaths] at hdocuments
  rw [resourceOf, entryOf_path, Statement.name_summarize]
  exact hdocuments

/-- Each view is that of a draft, whose mounts are its methods. What the mounts at or below a
resource say about the parameters that it declares is what the view says of them, in their order. -/
theorem merge_documents_parameters {fragments : List Fragment} {options : MergeOptions}
    {views : List ApiView} (h : merge fragments options = .ok views) :
    ∃ drafts, selectedDrafts fragments options = .ok drafts ∧
      List.Forall₂ (fun draft view => view.id = draft.id ∧
        view.placed.Perm (draft.mounts.map fun mount => (mount.path, mount.method)) ∧
        ∀ resource ∈ view.walk, ∀ parameter ∈ resource.uriParameters,
          parameter.Documents (Mount.saidBelow resource.path parameter.name draft.mounts))
        drafts views := by
  obtain ⟨-, drafts, -, hdrafts, -, hviews⟩ := exists_resolved h
  refine ⟨drafts, hdrafts, hviews.imp fun draft view resolved => ?_⟩
  refine ⟨resolved.id_eq, ?_, resolved.documents⟩
  obtain ⟨normal, -, -, rfl⟩ := resolved
  exact Draft.placed_view _ normal.wellSlashed

def bazaarFragments : List Fragment :=
  [{ origin := some "stamps", groupings := [{ id := some "bazaar", endpoints := [
      { method := .get, paths := ["/stands/{place}"],
        pathParameters := [{ name := "place", description := some "Where the stand is." }] },
      { method := .get, paths := ["/stalls/{place}/stamps/{stamp}"],
        pathParameters := [{ name := "place", description := some "", allowedValues := some [] },
          { name := "stamp", type := some (.primitive "number") }] }] }] },
    { origin := some "stalls", groupings := [{ id := some "bazaar", endpoints := [
      { method := .post, paths := ["/stalls/{place}"],
        pathParameters := [
          { name := "place", description := some "A row.", allowedValues := some ["a", "b"] },
          { name := "place", description := some "A mark.", type := some (.primitive "string") }]
        }] }] }]

theorem merge_documents_parameters_bazaar :
    ∃ view, merge bazaarFragments {} = .ok [view] ∧
      ∃ resource ∈ view.walk, resource.path = "/stalls/{place}" ∧
        ∃ parameter ∈ resource.uriParameters, parameter.name = "place" ∧
          parameter.description = some "A row." ∧
            parameter.type = some (.primitive "string") ∧
            parameter.allowedValues = some ["a", "b"] := by
  have hsaid : (selectedDrafts bazaarFragments {}).map (List.map fun draft =>
      Mount.saidBelow "/stalls/{place}" "place" draft.mounts) = .ok [[
        { name := "place", description := some "", allowedValues := some [] },
        { name := "place", description := some "A row.", allowedValues := some ["a", "b"] },
        { name := "place", description := some "A mark.", type := some (.primitive "string") }]] :=
    by decide +kernel
  have hnames : (merge bazaarFragments {}).map (List.map fun view => view.walk.flatMap
      fun resource => resource.uriParameters.map fun parameter => (resource.path, parameter.name)) =
        .ok [[("/stands/{place}", "place"), ("/stalls/{place}", "place"),
          ("/stalls/{place}/stamps/{stamp}", "stamp")]] := by decide +kernel
  obtain ⟨view, hview, hpairs⟩ := Except.exists_of_map_eq_singleton hnames
  obtain ⟨drafts, hdrafts, hall⟩ := merge_documents_parameters hview
  rw [hdrafts] at hsaid
  obtain ⟨draft, rfl, hentries⟩ := List.map_eq_singleton_iff.mp (Except.ok.inj hsaid)
  obtain ⟨-, -, hdocuments⟩ := (List.forall₂_cons.mp hall).1
  obtain ⟨resource, hresource, hmem⟩ :=
    List.mem_flatMap.mp (hpairs.symm ▸ List.mem_cons_of_mem _ List.mem_cons_self)
  obtain ⟨parameter, hparameter, hpair⟩ := List.mem_map.mp hmem
  obtain ⟨hpath, hname⟩ := Prod.mk.inj hpair
  obtain ⟨hdescription, htype, hvalues⟩ := hdocuments resource hresource parameter hparameter
  rw [hpath, hname, hentries] at hdescription htype hvalues
  exact ⟨view, hview, resource, hresource, hpath, parameter, hparameter, hname, hdescription, htype,
    hvalues⟩

end ApiManual
