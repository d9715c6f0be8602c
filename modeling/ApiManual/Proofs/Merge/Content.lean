import ApiManual.Proofs.Draft.Reordering
import ApiManual.Proofs.Merge.Views
import ApiManual.Proofs.Resolution.Accumulation
import ApiManual.Proofs.Resolution.Restriction
import ApiManual.Proofs.View.Methods

/-!
Drafts that hold the same in another order have views that hold the same in another order: the same
resources, declared parameters, methods, traits, security schemes, documentation and origins.
-/
namespace ApiManual

open Outline UriPath Resolution

/-- Where a resource of a view stands: its path, what is written of it, and the path above it. -/
structure ApiView.Link where
  path : String
  relativePath : String
  parent : Option String
  deriving DecidableEq, Repr

/-- A parameter that a resource of a view declares, without what is said about it first. -/
structure ApiView.Declared where
  path : String
  name : String
  position : Nat
  allowedValues : Option (List String)
  deriving DecidableEq, Repr

namespace ApiView

def links (view : ApiView) : List Link :=
  (view.resources.map fun root => ⟨root.path, root.relativePath, none⟩) ++
    view.walk.flatMap fun parent => parent.children.map fun child =>
      ⟨child.path, child.relativePath, some parent.path⟩

def declared (view : ApiView) : List Declared :=
  view.walk.flatMap fun resource => resource.uriParameters.map fun parameter =>
    ⟨resource.path, parameter.name, parameter.position, parameter.allowedValues⟩

def requiredScopes (view : ApiView) : List (String × String) :=
  view.securitySchemes.flatMap fun scheme => scheme.scopes.map (scheme.name, ·)

/-- Two views hold the same, but for orders and for the texts of which the first counts. -/
structure SameContent (view other : ApiView) : Prop where
  id : view.id = other.id
  links : ∀ link, link ∈ view.links ↔ link ∈ other.links
  declared : ∀ parameter, parameter ∈ view.declared ↔ parameter ∈ other.declared
  placed : view.placed.Perm other.placed
  traits : ∀ tag, tag ∈ view.traits ↔ tag ∈ other.traits
  schemes : ∀ name, name ∈ view.securitySchemes.map (·.name) ↔
    name ∈ other.securitySchemes.map (·.name)
  scopes : ∀ scope, scope ∈ view.requiredScopes ↔ scope ∈ other.requiredScopes
  documentation : ∀ item, item ∈ view.documentation ↔ item ∈ other.documentation
  origins : ∀ origin, origin ∈ view.origins ↔ origin ∈ other.origins

end ApiView

def Outline.Entry.link (entry : Entry) : ApiView.Link :=
  ⟨entry.path, entry.relativePath, entry.parent⟩

namespace Resolution

theorem mem_securitySchemes_names {requirements : List Security} {name : String} :
    name ∈ (securitySchemes requirements).map (·.name) ↔
      ∃ requirement ∈ requirements, requirement.scheme = name := by
  rw [names_securitySchemes, mem_distinct, List.mem_map]

theorem mem_requiredScopes {requirements : List Security} {name scope : String} :
    (name, scope) ∈ (securitySchemes requirements).flatMap
        (fun scheme => scheme.scopes.map (scheme.name, ·)) ↔
      ∃ requirement ∈ requirements, requirement.scheme = name ∧ scope ∈ requirement.scopes := by
  rw [securitySchemes_eq, List.flatMap_map]
  simp only [scopesOf, List.mem_flatMap, List.mem_map, mem_distinct, List.mem_filter,
    decide_eq_true_eq, Prod.mk.injEq]
  constructor
  · rintro ⟨_, -, _, ⟨requirement, ⟨hmem, hscheme⟩, hscope⟩, rfl, rfl⟩
    exact ⟨requirement, hmem, hscheme, hscope⟩
  · rintro ⟨requirement, hmem, rfl, hscope⟩
    exact ⟨_, ⟨requirement, hmem, rfl⟩, scope, ⟨requirement, ⟨hmem, rfl⟩, hscope⟩, rfl, rfl⟩

end Resolution

namespace Draft

def allowedValues (draft : Draft) (path : String) (token : Token) : Option (List String) :=
  (Statement.summarize ⟨path, token⟩ (draft.mounts.flatMap
    (Mount.statements draft.outline (declarationsOf draft.mountPaths)))).allowedValues

variable {draft : Draft} (slashed : ∀ path ∈ draft.mountPaths, WellSlashed path)

section

variable (declared : List Declaration)

theorem path_resourceOf (entry : Entry) : (draft.resourceOf declared entry).path = entry.path := rfl

include slashed

theorem mem_links_view {link : ApiView.Link} :
    link ∈ (draft.view declared).links ↔
      ∃ path ∈ draft.mountPaths, (entryOf draft.mountPaths path).link = link := by
  unfold ApiView.links
  rw [List.mem_append, List.mem_map, List.mem_flatMap, view_resources]
  constructor
  · rintro (⟨root, hroot, rfl⟩ | ⟨parent, hparent, hmem⟩)
    · obtain ⟨path, hpath, hnone, rfl⟩ := (mem_resourcesBelow declared slashed).mp hroot
      exact ⟨path, hpath, by rw [Entry.link, hnone]; rfl⟩
    · obtain ⟨child, hchild, rfl⟩ := List.mem_map.mp hmem
      obtain ⟨upper, -, rfl⟩ := (mem_walk_view declared slashed).mp hparent
      obtain ⟨path, hpath, habove, rfl⟩ := (mem_resourcesBelow declared slashed).mp hchild
      exact ⟨path, hpath, by rw [Entry.link, habove]; rfl⟩
  · rintro ⟨path, hpath, rfl⟩
    cases habove : (entryOf draft.mountPaths path).parent with
    | none =>
      refine Or.inl ⟨_, (mem_resourcesBelow declared slashed).mpr ⟨path, hpath, habove, rfl⟩, ?_⟩
      rw [Entry.link, habove]
      rfl
    | some upper =>
      have hp := (entryOf_parent_eq_some_iff slashed hpath).mp habove
      refine Or.inr ⟨_, (mem_walk_view declared slashed).mpr ⟨upper, hp.mem, rfl⟩, ?_⟩
      refine List.mem_map.mpr ⟨_, (mem_children_resourceOf declared slashed).mpr
        ⟨path, hpath, hp, rfl⟩, ?_⟩
      rw [Entry.link, habove, path_resourceOf, path_resourceOf, entryOf_path _ upper]
      rfl

end

include slashed

/-- They are those that any mount at or below the path lists. -/
theorem allowedValues_eq_some_iff (once : draft.NamesOnce)
    (agree : Mount.Agree draft.mountPaths draft.mounts) {path : String} {token : Token}
    (hintroduces : Introduces draft.mountPaths path token.name) {values : List String} :
    draft.allowedValues path token = some values ↔
      ∃ mount ∈ draft.mounts, Covers path mount.path ∧ mount.Lists token.name values := by
  have hconsistent := (consistent_iff_agree slashed once fun _ => path_mem_mountPaths).mpr agree
  rw [allowedValues, Statement.summarize_eq]
  dsimp only
  rw [List.findSome?_map, outline_eq]
  refine hconsistent.findSome?_eq_some_iff.trans ?_
  simp only [Statement.mem_about, List.mem_flatMap]
  constructor
  · rintro ⟨statement, ⟨⟨mount, hmount, hmem⟩, howner, hname⟩, hvalues⟩
    obtain ⟨hparameter, hcovers, -⟩ :=
      (mem_statements slashed once (path_mem_mountPaths hmount)).mp hmem
    exact ⟨mount, hmount, howner ▸ hcovers, statement.parameter, hparameter, hname,
      listed?_eq_some_iff.mp hvalues⟩
  · rintro ⟨mount, hmount, hcovers, parameter, hparameter, hname, hvalues⟩
    refine ⟨⟨path, parameter⟩, ⟨⟨mount, hmount, ?_⟩, rfl, hname⟩, listed?_eq_some_iff.mpr hvalues⟩
    exact (mem_statements slashed once (path_mem_mountPaths hmount)).mpr
      ⟨hparameter, hcovers, hname ▸ hintroduces⟩

theorem mem_declared_view {parameter : ApiView.Declared} :
    parameter ∈ (draft.view (declarationsOf draft.mountPaths)).declared ↔
      ∃ path ∈ draft.mountPaths, ∃ token ∈ (entryOf draft.mountPaths path).tokens,
        ⟨path, token.name, token.position, draft.allowedValues path token⟩ = parameter := by
  have hown : ∀ path ∈ draft.mountPaths,
      (draft.resourceOf (declarationsOf draft.mountPaths)
        (entryOf draft.mountPaths path)).uriParameters =
          (entryOf draft.mountPaths path).tokens.map fun token =>
            Statement.summarize ⟨path, token⟩ (draft.mounts.flatMap
              (Mount.statements draft.outline (declarationsOf draft.mountPaths))) := by
    intro path hpath
    have hfilter := filter_declarationsOf slashed hpath
    unfold resourceOf
    rw [entryOf_path, hfilter, Entry.declarations, List.map_map, entryOf_path]
    rfl
  unfold ApiView.declared
  rw [List.mem_flatMap]
  constructor
  · rintro ⟨resource, hresource, hmem⟩
    obtain ⟨path, hpath, rfl⟩ := (mem_walk_view _ slashed).mp hresource
    rw [hown path hpath, List.map_map] at hmem
    obtain ⟨token, htoken, rfl⟩ := List.mem_map.mp hmem
    refine ⟨path, hpath, token, htoken, ?_⟩
    rw [Function.comp_apply, path_resourceOf, entryOf_path, allowedValues, Statement.summarize_eq]
  · rintro ⟨path, hpath, token, htoken, rfl⟩
    refine ⟨_, (mem_walk_view _ slashed).mpr ⟨path, hpath, rfl⟩, ?_⟩
    rw [hown path hpath, List.map_map]
    refine List.mem_map.mpr ⟨token, htoken, ?_⟩
    rw [Function.comp_apply, path_resourceOf, entryOf_path, allowedValues, Statement.summarize_eq]

omit slashed

section

variable {other : Draft} (reordered : Reordered draft other)

include reordered

theorem Reordered.mounts : draft.mounts.Perm other.mounts := reordered.endpoints.flatMap_right _

theorem Reordered.mem_mountPaths {path : String} :
    path ∈ draft.mountPaths ↔ path ∈ other.mountPaths := (reordered.mounts.map _).mem_iff

theorem Reordered.selected (options : MergeOptions) :
    Reordered (draft.selected options) (other.selected options) := by
  rw [selected_eq, selected_eq]
  exact ⟨reordered.id, reordered.endpoints.flatMap_right _, reordered.documentation,
    reordered.origins⟩

theorem Reordered.exists_resolve (normal : draft.Normal) (h : ∃ view, draft.resolve = .ok view) :
    ∃ view, other.resolve = .ok view :=
  (exists_resolve_of_subperm (reordered.mounts.symm.map _).subperm normal h).2

theorem Reordered.sameContent (normal : draft.Normal) {view view' : ApiView}
    (hview : draft.resolve = .ok view) (hview' : other.resolve = .ok view') :
    view.SameContent view' := by
  have hmem {path : String} : path ∈ draft.mountPaths ↔ path ∈ other.mountPaths :=
    reordered.mem_mountPaths
  have normal' : other.Normal := fun path hpath => normal path (hmem.mpr hpath)
  obtain ⟨once, -, agree⟩ := (exists_resolve_eq_ok_iff normal).mp ⟨view, hview⟩
  obtain ⟨once', -, agree'⟩ := (exists_resolve_eq_ok_iff normal').mp ⟨view', hview'⟩
  -- the outlines have the same entries, so the same paths declare the same parameters
  have hentry : ∀ path ∈ draft.mountPaths,
      entryOf draft.mountPaths path = entryOf other.mountPaths path :=
    fun path hpath => entryOf_congr normal.wellSlashed (fun _ => hmem) hpath
  have hvalues : ∀ path ∈ draft.mountPaths, ∀ token ∈ (entryOf draft.mountPaths path).tokens,
      draft.allowedValues path token = other.allowedValues path token := by
    intro path hpath token htoken
    have hintroduces := (introduces_iff normal.wellSlashed once hpath).mpr ⟨token, htoken, rfl⟩
    have hintroduces' := (introduces_iff normal'.wellSlashed once' (hmem.mp hpath)).mpr
      ⟨token, hentry path hpath ▸ htoken, rfl⟩
    -- which endpoint lists the values first makes no difference, since all list the same ones
    apply Option.ext
    intro values
    rw [allowedValues_eq_some_iff normal.wellSlashed once agree hintroduces,
      allowedValues_eq_some_iff normal'.wellSlashed once' agree' hintroduces']
    simp only [reordered.mounts.mem_iff]
  rw [(resolved_of_resolve normal hview).view_eq, (resolved_of_resolve normal' hview').view_eq]
  constructor
  case id => exact reordered.id
  case links =>
    intro link
    rw [mem_links_view normal.wellSlashed, mem_links_view normal'.wellSlashed]
    refine exists_congr fun path => ?_
    rw [← hmem]
    exact and_congr_right fun hpath => by rw [hentry path hpath]
  case declared =>
    intro parameter
    rw [mem_declared_view normal.wellSlashed, mem_declared_view normal'.wellSlashed]
    refine exists_congr fun path => ?_
    rw [← hmem]
    refine and_congr_right fun hpath => exists_congr fun token => ?_
    rw [← hentry path hpath]
    exact and_congr_right fun htoken => by rw [hvalues path hpath token htoken]
  case placed =>
    have hplaced := reordered.mounts.map fun mount => (mount.path, mount.method)
    exact ((placed_view _ normal.wellSlashed).trans hplaced).trans
      (placed_view _ normal'.wellSlashed).symm
  case traits =>
    intro tag
    have hused := (reordered.endpoints.map (·.endpoint)).flatMap_right (·.traits)
    exact mem_declaredTraits.trans (hused.mem_iff.trans mem_declaredTraits.symm)
  case schemes =>
    intro name
    have hrequired := (reordered.endpoints.map (·.endpoint)).filterMap (·.security)
    refine mem_securitySchemes_names.trans (Iff.trans ?_ mem_securitySchemes_names.symm)
    simp only [hrequired.mem_iff]
  case scopes =>
    rintro ⟨name, scope⟩
    have hrequired := (reordered.endpoints.map (·.endpoint)).filterMap (·.security)
    refine mem_requiredScopes.trans (Iff.trans ?_ mem_requiredScopes.symm)
    simp only [hrequired.mem_iff]
  case documentation => exact reordered.documentation
  case origins => exact reordered.origins

end

end Draft

end ApiManual
