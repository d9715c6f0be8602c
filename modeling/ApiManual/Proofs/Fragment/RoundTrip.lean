import ApiManual.Fragment.Codec
import ApiManual.Proofs.Endpoint.RoundTrip

/-!
Fragments written and read again. Reading completes a fragment, and a completed fragment is one that
is read back as it is.
-/
namespace ApiManual

open Json (Value Spelled spell NumberFree)

namespace DocumentationItem

open Json

theorem fits_toJson {enclosing : Nat} (item : DocumentationItem)
    (room : enclosing + 1 ≤ TypeNode.depthLimit) : Fits enclosing item.toJson := by
  change Fits enclosing (present [("title", some _), ("content", some _)])
  simp (disch := omega) [fits_present, fits_string]

theorem numberFree_toJson (item : DocumentationItem) : NumberFree item.toJson :=
  .object (by simp [NumberFree.string])

theorem ofSpelled?_toJson (item : DocumentationItem) :
    ofSpelled? (spell item.toJson) = some item := by
  change ofSpelled? (spell (present [("title", some _), ("content", some _)])) = _
  rw [ofSpelled?]
  refine then_read (spelledRecord?_present rfl (by decide)) ?_
  refine then_read (required?_present rfl rfl) ?_
  refine then_read (required?_present rfl rfl) ?_
  rfl

end DocumentationItem

namespace Grouping

open Json

theorem fits_toJson {enclosing : Nat} (grouping : Grouping)
    (room : enclosing + 7 ≤ TypeNode.depthLimit) : Fits enclosing grouping.toJson ↔
      ∀ endpoint ∈ grouping.endpoints, endpoint.FitsTypes (enclosing + 2) := by
  simp (disch := omega) [toJson, fits_present, fits_string, fits_array, ↓List.forall_mem_map,
    DocumentationItem.fits_toJson, Endpoint.fits_toJson]

theorem numberFree_toJson (grouping : Grouping) : NumberFree grouping.toJson := by
  have hdocumentation : NumberFree (.array (grouping.documentation.map DocumentationItem.toJson)) :=
    .array (List.forall_mem_map.mpr fun item _ => item.numberFree_toJson)
  have hendpoints : NumberFree (.array (grouping.endpoints.map Endpoint.toJson)) :=
    .array (List.forall_mem_map.mpr fun endpoint _ => endpoint.numberFree_toJson)
  refine numberFree_present ?_
  simp [NumberFree.string, hdocumentation, hendpoints]

theorem ofSpelled?_toJson {enclosing : Nat} {grouping : Grouping}
    (fits : ∀ endpoint ∈ grouping.endpoints, endpoint.FitsTypes (enclosing + 2)) :
    ofSpelled? enclosing (spell grouping.toJson) = some grouping := by
  have hendpoints := list?_spell fun endpoint hendpoint =>
    Endpoint.ofSpelled?_toJson (fits endpoint hendpoint)
  rw [ofSpelled?, toJson]
  refine then_read (spelledRecord?_present rfl (by decide)) ?_
  refine then_read (optional?_present rfl rfl fun _ _ => rfl) ?_
  refine then_read (optional?_present rfl rfl fun _ _ => rfl) ?_
  refine then_read (optional?_present rfl rfl fun _ _ => rfl) ?_
  refine then_read (optional?_present rfl rfl fun _ _ => rfl) ?_
  refine then_read (defaulted?_present rfl (list?_spell fun item _ => item.ofSpelled?_toJson)) ?_
  refine then_read (defaulted?_present rfl hendpoints) ?_
  rfl

theorem fits_of_ofSpelled? {enclosing : Nat} {spelled : Spelled} {grouping : Grouping}
    (h : ofSpelled? enclosing spelled = some grouping) :
    ∀ endpoint ∈ grouping.endpoints, endpoint.FitsTypes (enclosing + 2) := by
  simp only [ofSpelled?, Option.bind_eq_bind, Option.bind_eq_some_iff, Option.pure_def,
    Option.some.injEq] at h
  obtain ⟨members, -, id, -, title, -, version, -, basePath, -, documentation, -, endpoints,
    hendpoints, rfl⟩ := h
  intro endpoint hendpoint
  obtain ⟨item, hread⟩ := exists_of_defaultedList? hendpoints endpoint hendpoint
  exact Endpoint.fits_of_ofSpelled? hread

end Grouping

namespace Fragment

open Json

/-- All types of a fragment are within the limit of its reader. -/
def FitsTypes (fragment : Fragment) : Prop :=
  ∀ grouping ∈ fragment.groupings, ∀ endpoint ∈ grouping.endpoints, endpoint.FitsTypes 4

theorem fits_toJson {enclosing : Nat} (fragment : Fragment)
    (room : enclosing + 9 ≤ TypeNode.depthLimit) : Fits enclosing fragment.toJson ↔
      ∀ grouping ∈ fragment.groupings, ∀ endpoint ∈ grouping.endpoints,
        endpoint.FitsTypes (enclosing + 4) := by
  simp (disch := omega) [toJson, fits_present, fits_string, fits_array, ↓List.forall_mem_map,
    Grouping.fits_toJson]

theorem depth_toJson_le_iff (fragment : Fragment) :
    fragment.toJson.depth ≤ TypeNode.depthLimit ↔ fragment.FitsTypes := by
  have hfits : Fits 0 fragment.toJson ↔ fragment.FitsTypes := fits_toJson fragment (by decide)
  rwa [Fits, Nat.zero_add] at hfits

theorem numberFree_toJson (fragment : Fragment) : NumberFree fragment.toJson := by
  have hgroupings : NumberFree (.array (fragment.groupings.map Grouping.toJson)) :=
    .array (List.forall_mem_map.mpr fun grouping _ => grouping.numberFree_toJson)
  refine numberFree_present ?_
  simp [NumberFree.string, hgroupings]

theorem ofText?_toText {fragment : Fragment} (fits : fragment.FitsTypes) :
    ofText? fragment.toText = some fragment := by
  rw [ofText?, toText, ofText?_prettyText (numberFree_toJson fragment)]
  change ofSpelled? (spell fragment.toJson) = _
  have hgroupings := list?_spell fun grouping hgrouping =>
    Grouping.ofSpelled?_toJson (fits grouping hgrouping)
  rw [ofSpelled?, toJson]
  refine then_read (spelledRecord?_present rfl (by decide)) ?_
  refine then_read (optional?_present rfl rfl fun _ _ => rfl) ?_
  refine then_read (defaulted?_present rfl hgroupings) ?_
  rfl

theorem fits_of_ofText? {text : String} {fragment : Fragment} (h : ofText? text = some fragment) :
    fragment.FitsTypes := by
  obtain ⟨spelled, -, h⟩ := Option.bind_eq_some_iff.mp h
  simp only [ofSpelled?, Option.bind_eq_bind, Option.bind_eq_some_iff, Option.pure_def,
    Option.some.injEq] at h
  obtain ⟨members, -, origin, -, groupings, hgroupings, rfl⟩ := h
  intro grouping hgrouping
  obtain ⟨item, hread⟩ := exists_of_defaultedList? hgroupings grouping hgrouping
  exact Grouping.fits_of_ofSpelled? hread

end Fragment

def Endpoint.scoped (endpoint : Endpoint) : Endpoint :=
  { endpoint with
    scopes := if endpoint.scopes = [] then [Scope.published] else endpoint.scopes }

def Grouping.scoped (grouping : Grouping) : Grouping :=
  { grouping with endpoints := grouping.endpoints.map Endpoint.scoped }

namespace Fragment

/-- Nothing is left out that a reader has to supply. -/
structure IsComplete (fragment : Fragment) : Prop where
  origin : fragment.origin.isSome
  groupings : fragment.groupings ≠ []
  scopes : ∀ grouping ∈ fragment.groupings, ∀ endpoint ∈ grouping.endpoints, endpoint.scopes ≠ []

theorem completed_eq (fragment : Fragment) (label : String) : fragment.completed label =
    { origin := some (fragment.origin.getD label)
      groupings := if fragment.groupings = [] then [{}]
        else fragment.groupings.map Grouping.scoped } := by
  have hscoped : (fun endpoint : Endpoint =>
      if endpoint.scopes.isEmpty then { endpoint with scopes := [Scope.published] }
      else endpoint) = Endpoint.scoped := by
    funext endpoint
    by_cases h : endpoint.scopes = [] <;> simp [Endpoint.scoped, h]
  simp only [completed, hscoped]
  simp only [List.isEmpty_map, List.isEmpty_iff]
  rfl

theorem isComplete_completed (fragment : Fragment) (label : String) :
    (fragment.completed label).IsComplete := by
  have hscopes : ∀ endpoint : Endpoint, endpoint.scoped.scopes ≠ [] := by
    intro endpoint
    rw [Endpoint.scoped]
    split
    · exact List.cons_ne_nil _ _
    · assumption
  rw [completed_eq]
  by_cases h : fragment.groupings = []
  · simp only [if_pos h]
    exact ⟨rfl, List.cons_ne_nil _ _, by simp⟩
  · simp only [if_neg h]
    refine ⟨rfl, by simpa using h, ?_⟩
    rw [List.forall_mem_map]
    intro grouping _
    rw [Grouping.scoped, List.forall_mem_map]
    exact fun endpoint _ => hscopes endpoint

theorem completed_eq_self {fragment : Fragment} (complete : fragment.IsComplete) (label : String) :
    fragment.completed label = fragment := by
  obtain ⟨horigin, hgroupings, hscopes⟩ := complete
  obtain ⟨origin, horigin⟩ := Option.isSome_iff_exists.mp horigin
  have hgrouping : ∀ grouping ∈ fragment.groupings, grouping.scoped = grouping := by
    intro grouping hgrouping
    have hendpoint : ∀ endpoint ∈ grouping.endpoints, endpoint.scoped = endpoint := by
      intro endpoint hendpoint
      rw [Endpoint.scoped, if_neg (hscopes grouping hgrouping endpoint hendpoint)]
    rw [Grouping.scoped, List.map_congr_left hendpoint, List.map_id']
  have hscoped : fragment.groupings.map Grouping.scoped = fragment.groupings := by
    rw [List.map_congr_left hgrouping, List.map_id']
  rw [completed_eq, if_neg hgroupings, hscoped, horigin, Option.getD_some, ← horigin]

theorem fitsTypes_completed {fragment : Fragment} (fits : fragment.FitsTypes) (label : String) :
    (fragment.completed label).FitsTypes := by
  rw [completed_eq, FitsTypes]
  split
  · simp
  · rw [List.forall_mem_map]
    intro grouping hgrouping
    rw [Grouping.scoped, List.forall_mem_map]
    exact fun endpoint hendpoint => fits grouping hgrouping endpoint hendpoint

theorem load_toText_of_fits {fragment : Fragment} (fits : fragment.FitsTypes) (label : String) :
    load fragment.toText label = .ok (fragment.completed label) := by
  rw [load, ofText?_toText fits]

theorem load_toText (label : String) :
    (∀ fragment : Fragment, fragment.toJson.depth ≤ 127 → load fragment.toText label =
      .ok { origin := some (fragment.origin.getD label)
            groupings := if fragment.groupings = [] then [{}]
              else fragment.groupings.map Grouping.scoped }) ∧
    (∀ fragment : Fragment, fragment.toJson.depth ≤ 127 → fragment.IsComplete →
      load fragment.toText label = .ok fragment) ∧
    ∀ text fragment, load text label = .ok fragment →
      ∀ label', load fragment.toText label' = .ok fragment := by
  refine ⟨?_, ?_, ?_⟩
  · intro fragment hdepth
    rw [load_toText_of_fits ((depth_toJson_le_iff fragment).mp hdepth), completed_eq]
  · intro fragment hdepth complete
    rw [load_toText_of_fits ((depth_toJson_le_iff fragment).mp hdepth), completed_eq_self complete]
  · intro text fragment hload label'
    rw [load] at hload
    split at hload
    · rename_i read hread
      cases hload
      have hfits := fitsTypes_completed (fits_of_ofText? hread) label
      rw [load_toText_of_fits hfits, completed_eq_self (isComplete_completed read label)]
    · cases hload

/-- No origin, an endpoint without scopes, and texts that have to be escaped. -/
def orchardFragment : Fragment :=
  { groupings := [{
      id := some "orchard"
      documentation := [⟨"The \"old\" trees", "C:\\trees\n\u0001"⟩]
      endpoints := [{
        method := .get
        paths := ["/trees/\x7bid\x7d"]
        scopes := []
        pathParameters := [{ name := "id", type := some (.enumeration "Tree" ["apple", "pear"]) }]
        response := some (.object "Tree" [("next", .reference "Tree" [])]) }] }] }

theorem load_toText_orchard : load orchardFragment.toText "orchard.json" =
    .ok { origin := some "orchard.json"
          groupings := orchardFragment.groupings.map Grouping.scoped } :=
  (load_toText "orchard.json").1 orchardFragment (by decide)

end Fragment

end ApiManual
