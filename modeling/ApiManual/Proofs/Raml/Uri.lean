import ApiManual.Proofs.Raml.Reading

/-!
The URIs of the resources of a RAML document: each key goes on behind the keys above it. They are
the paths of the view, unless a resource is mounted at `/`: all others are written below it with
their own slashes, so that their URIs begin with two.
-/
namespace ApiManual

open Outline UriPath

namespace Raml

mutual

/-- The URI of a resource, followed by those of the resources below it. -/
def uris (above : String) : Node → List String
  | ⟨key, _, _, children⟩ => (above ++ key) :: urisAll (above ++ key) children

def urisAll (above : String) : List Node → List String
  | [] => []
  | node :: rest => uris above node ++ urisAll above rest

end

theorem urisAll_eq_flatMap (above : String) (nodes : List Node) :
    urisAll above nodes = nodes.flatMap (uris above) := by
  induction nodes with
  | nil => rfl
  | cons node rest ih => rw [urisAll, ih, List.flatMap_cons]

/-- A text for each resource that its relative path makes of the text of its parent. -/
def Telescopes (uri : Resource → String) (resources : List Resource) : Prop :=
  ∀ parent ∈ resources, ∀ child ∈ parent.children, uri parent ++ child.relativePath = uri child

theorem uris_nodeOf {uri : Resource → String} (resource : Resource) {above : String}
    (start : above ++ resource.relativePath = uri resource)
    (telescopes : Telescopes uri resource.preOrder) :
    uris above (nodeOf resource) = resource.preOrder.map uri := by
  induction resource using Resource.tree_induction generalizing above with
  | step resource ih =>
    rw [Resource.preOrder_eq_cons] at telescopes ⊢
    obtain ⟨hown, hbelow⟩ := List.forall_mem_cons.mp telescopes
    rw [nodeOf_eq, uris, start, List.map_cons, urisAll_eq_flatMap, nodesOf_eq_map,
      List.flatMap_map, Resource.preOrderAll_eq_flatMap, List.map_flatMap]
    congr 1
    apply List.flatMap_congr
    intro child hchild
    apply ih child hchild (hown child hchild)
    intro other hother
    exact hbelow other (Resource.mem_preOrderAll.mpr ⟨child, hchild, hother⟩)

theorem urisAll_nodesOf {uri : Resource → String} {view : ApiView}
    (start : ∀ root ∈ view.resources, root.relativePath = uri root)
    (telescopes : Telescopes uri view.walk) :
    urisAll "" (nodesOf view.resources) = view.walk.map uri := by
  rw [Resource.walk_eq_preOrderAll] at *
  rw [urisAll_eq_flatMap, nodesOf_eq_map, List.flatMap_map, Resource.preOrderAll_eq_flatMap,
    List.map_flatMap]
  apply List.flatMap_congr
  intro root hroot
  apply uris_nodeOf root
  · rw [String.empty_append]
    exact start root hroot
  · intro parent hparent
    exact telescopes parent (Resource.mem_preOrderAll.mpr ⟨root, hroot, hparent⟩)

def uriOf (view : ApiView) (resource : Resource) : String :=
  if resource.path ≠ "/" ∧ "/" ∈ view.walk.map (·.path) then "/" ++ resource.path
  else resource.path

end Raml

namespace Draft.Resolved

open Raml

variable {draft : Draft} {view : ApiView} (resolved : draft.Resolved view)

include resolved

/-- Besides a resource at the root of all paths there are no others at the top. -/
theorem relativePath_root {root : Resource} (hroot : root ∈ view.resources) :
    root.relativePath = uriOf view root := by
  obtain ⟨-, hrelative, halone⟩ := resolved.arranged.root root hroot
  rw [hrelative, uriOf, if_neg]
  rintro ⟨hne, hmem⟩
  obtain ⟨other, hother, hpath⟩ := List.mem_map.mp hmem
  have hcovers : Covers other.path root.path := by
    rw [hpath]
    exact root_covers root.path
  rw [halone other hother hcovers] at hpath
  exact hne hpath

theorem telescopes : Telescopes (uriOf view) view.walk := by
  intro parent hparent child hchild
  obtain ⟨-, hisParent, hwritten⟩ := resolved.arranged.child parent hparent child hchild
  have hchildRoot : child.path ≠ "/" := by
    intro hroot
    have hcovers := hisParent.covers
    rw [hroot] at hcovers
    have hparentRoot := hcovers.eq_root (resolved.normal.wellSlashed _ hisParent.mem)
    exact hisParent.ne (hparentRoot.trans hroot.symm)
  unfold uriOf
  split at hwritten
  · rename_i hroot
    have hmem : "/" ∈ view.walk.map (·.path) := hroot ▸ List.mem_map_of_mem hparent
    rw [if_neg (fun h => h.1 hroot), if_pos ⟨hchildRoot, hmem⟩, hwritten, hroot]
  · rename_i hroot
    by_cases hmem : "/" ∈ view.walk.map (·.path)
    · rw [if_pos ⟨hroot, hmem⟩, if_pos ⟨hchildRoot, hmem⟩, String.append_assoc, hwritten]
    · rw [if_neg (fun h => hmem h.2), if_neg (fun h => hmem h.2), hwritten]

end Draft.Resolved

open Raml

variable {fragments : List Fragment} {options : MergeOptions} {views : List ApiView}

/-- The URIs of a document are the paths of the view, with one more slash in front of every other
path if the view has a resource at `/`. -/
theorem merge_documentUris (h : merge fragments options = .ok views) : ∀ view ∈ views,
    urisAll "" (readAll (document view)) = view.walk.map (uriOf view) := by
  intro view hview
  rw [readAll_document (merge_separate h view hview)]
  obtain ⟨-, drafts, -, -, -, hviews⟩ := exists_resolved h
  obtain ⟨draft, -, resolved⟩ := hviews.exists_left hview
  exact urisAll_nodesOf (fun _ => resolved.relativePath_root) resolved.telescopes

def kioskFragments : List Fragment :=
  [{ origin := some "kiosk", groupings := [{ id := some "kiosk", endpoints := [
      { method := .get, paths := ["/", "/stamps", "/stamps/{id}"] }] }] }]

theorem merge_documentUris_kiosk :
    ∃ view, merge kioskFragments {} = .ok [view] ∧
      urisAll "" (readAll (document view)) = ["/", "//stamps", "//stamps/{id}"] := by
  have huris : (merge kioskFragments {}).map (List.map fun view => view.walk.map (uriOf view)) =
      .ok [["/", "//stamps", "//stamps/{id}"]] := by decide +kernel
  obtain ⟨view, hmerge, hview⟩ := Except.exists_of_map_eq_singleton huris
  exact ⟨view, hmerge, (merge_documentUris hmerge view List.mem_cons_self).trans hview⟩

/-- A document's URIs are not always the paths. -/
theorem documentUris_ne_paths :
    ∃ view, merge kioskFragments {} = .ok [view] ∧
      urisAll "" (readAll (document view)) ≠ view.walk.map (·.path) := by
  have hboth : (merge kioskFragments {}).map (List.map fun view =>
      (urisAll "" (readAll (document view)), view.walk.map (·.path))) =
        .ok [(["/", "//stamps", "//stamps/{id}"], ["/", "/stamps", "/stamps/{id}"])] := by
    decide +kernel
  obtain ⟨view, hmerge, hview⟩ := Except.exists_of_map_eq_singleton hboth
  obtain ⟨huris, hpaths⟩ := Prod.mk.inj hview
  refine ⟨view, hmerge, ?_⟩
  rw [huris, hpaths]
  decide

end ApiManual
