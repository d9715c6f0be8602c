import ApiManual.Proofs.Resolution.Accumulation
import ApiManual.Proofs.Resolution.Ownership
import ApiManual.Proofs.View.Tree

/-!
The parameters that the resources of a way down declare are, from the top on, exactly those of the
last path, so each one is declared once, by the outermost resource whose path holds it.
-/
namespace ApiManual

open Outline UriPath Resolution

def UriParameter.token (parameter : UriParameter) : Token := ⟨parameter.name, parameter.position⟩

theorem Statement.token_summarize (declaration : Declaration) (statements : List Statement) :
    (summarize declaration statements).token = declaration.token := by
  rw [summarize_eq]
  rfl

namespace Resource

def tokens (resource : Resource) : List Token := resource.uriParameters.map (·.token)

/-- The parameters of the last path of a way down are declared along it. -/
structure DeclaredAlong (above : List Resource) (resource : Resource) : Prop where
  tokens : (above ++ [resource]).flatMap tokens = parameters resource.path
  once : (((above ++ [resource]).flatMap Resource.tokens).map (·.name)).Nodup
  outermost : ∀ before owner after, above ++ [resource] = before ++ owner :: after → ∀ name,
    name ∈ owner.tokens.map (·.name) ↔ name ∈ parameterNames owner.path ∧
      ∀ upper ∈ before, name ∉ parameterNames upper.path
  position : ∀ owner ∈ above ++ [resource], ∀ token ∈ owner.tokens,
    ∃ segment, (parts resource.path)[token.position]? = some segment ∧
      token.name.toList ∈ tokenNames none segment

theorem WayDown.of_append {among above below : List Resource} (h : WayDown among (above ++ below)) :
    WayDown among above := by
  induction above generalizing among with
  | nil => trivial
  | cons first rest ih => exact ⟨h.1, ih h.2⟩

section

variable {roots : List Resource}
  (complete : ∀ above resource, WayDown roots (above ++ [resource]) →
    (above ++ [resource]).flatMap tokens = parameters resource.path)

include complete

theorem mem_names_iff {line : List Resource} (h : WayDown roots line) {name : String} :
    name ∈ (line.flatMap tokens).map (·.name) ↔
      ∃ upper ∈ line, name ∈ parameterNames upper.path := by
  have hparameters : ∀ before upper after, line = before ++ upper :: after →
      parameterNames upper.path = ((before ++ [upper]).flatMap tokens).map (·.name) := by
    intro before upper after hsplit
    rw [hsplit, List.append_cons] at h
    unfold parameterNames
    rw [complete before upper h.of_append]
  constructor
  · intro hname
    obtain ⟨token, htoken, rfl⟩ := List.mem_map.mp hname
    obtain ⟨upper, hupper, hown⟩ := List.mem_flatMap.mp htoken
    obtain ⟨before, after, hsplit⟩ := List.append_of_mem hupper
    refine ⟨upper, hupper, ?_⟩
    rw [hparameters before upper after hsplit]
    exact List.mem_map_of_mem (List.mem_flatMap.mpr ⟨upper, by simp, hown⟩)
  · rintro ⟨upper, hupper, hname⟩
    obtain ⟨before, after, hsplit⟩ := List.append_of_mem hupper
    rw [hparameters before upper after hsplit] at hname
    rw [hsplit, List.append_cons, List.flatMap_append, List.map_append]
    exact List.mem_append_left _ hname

/-- It is enough that every way down declares, in order, the parameters of its last path. -/
theorem declaredAlong {above : List Resource} {resource : Resource}
    (h : WayDown roots (above ++ [resource])) (once : (parameterNames resource.path).Nodup) :
    DeclaredAlong above resource := by
  have htokens := complete above resource h
  have hnodup : (((above ++ [resource]).flatMap tokens).map (·.name)).Nodup := htokens ▸ once
  refine ⟨htokens, hnodup, ?_, ?_⟩
  · intro before owner after hsplit name
    rw [hsplit, List.append_cons] at h hnodup
    rw [List.flatMap_append, List.map_append] at hnodup
    -- the names of the owner's path are those declared above it and its own, and no name is both
    have howner : parameterNames owner.path =
        (before.flatMap tokens).map (·.name) ++ owner.tokens.map (·.name) := by
      unfold parameterNames
      rw [← complete before owner h.of_append, List.flatMap_append,
        List.flatMap_singleton, List.map_append]
    have hall : (parameterNames owner.path).Nodup := by
      unfold parameterNames
      rw [← complete before owner h.of_append]
      exact hnodup.of_append_left
    rw [howner, List.nodup_append'] at hall
    have hbefore : name ∈ (before.flatMap tokens).map (·.name) ↔
        ∃ upper ∈ before, name ∈ parameterNames upper.path :=
      mem_names_iff complete h.of_append.of_append
    rw [howner, List.mem_append]
    constructor
    · intro hname
      refine ⟨Or.inr hname, fun upper hupper habove => ?_⟩
      exact hall.2.2 (hbefore.mpr ⟨upper, hupper, habove⟩) hname
    · rintro ⟨hname, hnew⟩
      refine hname.resolve_left fun habove => ?_
      obtain ⟨upper, hupper, hholds⟩ := hbefore.mp habove
      exact hnew upper hupper hholds
  · intro owner howner token htoken
    have hmem : token ∈ parameters resource.path :=
      htokens ▸ List.mem_flatMap.mpr ⟨owner, howner, htoken⟩
    exact mem_parameters.mp hmem

end

end Resource

namespace Draft

variable {draft : Draft} (slashed : ∀ path ∈ draft.mountPaths, WellSlashed path)

include slashed

theorem tokens_resourceOf {path : String} (hpath : path ∈ draft.mountPaths) :
    (draft.resourceOf (declarationsOf draft.mountPaths)
      (entryOf draft.mountPaths path)).tokens = (entryOf draft.mountPaths path).tokens := by
  have hown : (declarationsOf draft.mountPaths).filter
      (·.owner = (entryOf draft.mountPaths path).path) =
        (entryOf draft.mountPaths path).declarations := by
    rw [entryOf_path, filter_declarationsOf slashed hpath]
  unfold Resource.tokens
  rw [resourceOf, hown, Entry.declarations, List.map_map, List.map_map]
  refine (List.map_congr_left fun token _ => ?_).trans (List.map_id _)
  exact Statement.token_summarize _ _

theorem tokens_wayDown_view {above : List Resource} {resource : Resource}
    (h : Resource.WayDown (draft.view (declarationsOf draft.mountPaths)).resources
      (above ++ [resource])) :
    (above ++ [resource]).flatMap Resource.tokens = parameters resource.path := by
  obtain ⟨path, hpath, rfl, hline⟩ := wayDown_view _ slashed h
  have hchain : ∀ entry ∈ (draft.outline.chain path).reverse,
      (draft.resourceOf (declarationsOf draft.mountPaths) entry).tokens = entry.tokens := by
    intro entry hentry
    obtain ⟨other, hother, -, rfl⟩ :=
      (mem_chain slashed hpath).mp (List.mem_reverse.mp hentry)
    exact tokens_resourceOf slashed hother
  rw [hline, List.flatMap_map, List.flatMap_congr hchain, outline_eq, chain_tokens slashed hpath,
    resourceOf, entryOf_path]

end Draft

end ApiManual
