import ApiManual.Proofs.Merge.Views
import ApiManual.Proofs.View.Methods
import Mathlib.Algebra.GroupWithZero.Nat

/-!
Every endpoint that is in scope is documented at each path that is kept for it, once, in the one
view of its grouping's id, and the views hold no other methods.
-/
namespace ApiManual

namespace Occurrence

variable (options : MergeOptions) (occurrence : Occurrence)

def method : ResourceMethod where
  endpoint := { occurrence.sourced.endpoint with paths := occurrence.keptPaths options }
  traits := distinct occurrence.sourced.endpoint.traits
  origin := occurrence.sourced.origin

def placements : List (String × ResourceMethod) :=
  if occurrence.isInScope options then
    (occurrence.keptPaths options).map (·, occurrence.method options)
  else []

variable {options occurrence}

theorem map_mounts : (occurrence.mounts options).map (fun mount => (mount.path, mount.method)) =
    occurrence.placements options := by
  unfold mounts placements
  split
  · rw [List.map_map]
    rfl
  · rfl

theorem mem_placements {path : String} {method : ResourceMethod} :
    (path, method) ∈ occurrence.placements options ↔ occurrence.isInScope options = true ∧
      path ∈ occurrence.keptPaths options ∧ occurrence.method options = method := by
  unfold placements
  split
  · rename_i hscope
    simp [hscope]
  · rename_i hscope
    simp [hscope]

theorem of_method_mem_placements {other : Occurrence} {path : String}
    (h : (path, occurrence.method options) ∈ other.placements options) :
    occurrence.isInScope options = true ∧ path ∈ occurrence.keptPaths options := by
  obtain ⟨hscope, hpath, hsame⟩ := mem_placements.mp h
  -- equal methods have the same scopes and the same paths
  have hscopes : other.isInScope options = occurrence.isInScope options :=
    congrArg (·.endpoint.isInScope options.scope) hsame
  have hpaths : other.keptPaths options = occurrence.keptPaths options :=
    congrArg (·.endpoint.paths) hsame
  exact ⟨hscopes ▸ hscope, hpaths ▸ hpath⟩

end Occurrence

/-- The views hold exactly the methods of these occurrences. -/
structure Documented (options : MergeOptions) (filled : List Occurrence) (views : List ApiView) :
    Prop where
  nodup : (views.map (·.id)).Nodup
  placed : ∀ view ∈ views, view.placed.Perm
    ((filled.filter (·.id = view.id)).flatMap (Occurrence.placements options))
  once : ∀ occurrence ∈ filled, ∃ view ∈ views, view.id = occurrence.id ∧
    (occurrence.isInScope options = true → ∀ path ∈ occurrence.keptPaths options,
      view.placed.count (path, occurrence.method options) = 1 ∧
        ∃ resource ∈ view.walk, resource.path = path ∧
          resource.methods.count (occurrence.method options) = 1)
  absent : ∀ occurrence ∈ filled,
    occurrence.isInScope options = false ∨ occurrence.keptPaths options = [] →
      ∀ view ∈ views, ∀ resource ∈ view.walk,
        occurrence.method options ∉ resource.methods
  count : (views.map (·.methodCount)).sum =
    ((filled.filter (·.isInScope options)).map fun occurrence =>
      (occurrence.keptPaths options).length).sum

variable {options : MergeOptions} {filled : List Occurrence} {views : List ApiView}

theorem placed_perm {drafts : List Draft} (hselected : Selected options filled drafts)
    (hviews : List.Forall₂ Draft.Resolved drafts views) {view : ApiView} (hview : view ∈ views) :
    view.placed.Perm
      ((filled.filter (·.id = view.id)).flatMap (Occurrence.placements options)) := by
  obtain ⟨draft, hdraft, hresolved⟩ := hviews.exists_left hview
  have hmounts := (hselected.mounts draft hdraft).map fun mount => (mount.path, mount.method)
  simp only [List.map_flatMap, Occurrence.map_mounts] at hmounts
  rw [hresolved.id_eq]
  refine List.Perm.trans ?_ hmounts
  rw [hresolved.view_eq]
  exact Draft.placed_view _ hresolved.normal.wellSlashed

theorem Draft.Resolved.nodup_placed {draft : Draft} {view : ApiView}
    (resolved : draft.Resolved view) : view.placed.Nodup := by
  rw [resolved.view_eq]
  exact nodup_placed_view _ resolved.normal.wellSlashed resolved.unrepeated

theorem length_flatMap_placements (filled : List Occurrence) :
    (filled.flatMap (Occurrence.placements options)).length =
      ((filled.filter (·.isInScope options)).map fun occurrence =>
        (occurrence.keptPaths options).length).sum := by
  induction filled with
  | nil => rfl
  | cons occurrence rest ih =>
    rw [List.flatMap_cons, List.length_append, ih, List.filter_cons, Occurrence.placements]
    split
    · simp only [List.length_map, List.map_cons, List.sum_cons]
    · rw [List.length_nil, Nat.zero_add]

/-- Each occurrence is counted in the one view with its id. -/
theorem sum_methodCount (nodup : (views.map (·.id)).Nodup)
    (covered : ∀ occurrence ∈ filled, occurrence.id ∈ views.map (·.id))
    (placed : ∀ view ∈ views, view.placed.Perm
      ((filled.filter (·.id = view.id)).flatMap (Occurrence.placements options))) :
    (views.map (·.methodCount)).sum =
      ((filled.filter (·.isInScope options)).map fun occurrence =>
        (occurrence.keptPaths options).length).sum := by
  have hparts : ∀ view ∈ views, view.methodCount =
      ((filled.filter (·.id = view.id)).flatMap (Occurrence.placements options)).length := by
    intro view hview
    rw [ApiView.methodCount_eq, (placed view hview).length_eq]
  have hperm := perm_flatMap_filter Occurrence.id nodup covered
  calc (views.map (·.methodCount)).sum
      = (((views.map (·.id)).flatMap fun id => filled.filter (·.id = id)).flatMap
          (Occurrence.placements options)).length := by
        rw [List.map_congr_left hparts, List.flatMap_map, List.flatMap_assoc, List.length_flatMap]
    _ = (filled.flatMap (Occurrence.placements options)).length :=
        (hperm.flatMap_right _).length_eq
    _ = _ := length_flatMap_placements filled

theorem documented_of_resolved {drafts : List Draft} (hselected : Selected options filled drafts)
    (hviews : List.Forall₂ Draft.Resolved drafts views) : Documented options filled views := by
  have hplaced : ∀ view ∈ views, view.placed.Perm
      ((filled.filter (·.id = view.id)).flatMap (Occurrence.placements options)) :=
    fun _ => placed_perm hselected hviews
  have hids := ids_eq hviews
  have hcovered : ∀ occurrence ∈ filled, occurrence.id ∈ views.map (·.id) :=
    hids ▸ hselected.covered
  have hnodup : (views.map (·.id)).Nodup := hids ▸ hselected.nodup
  refine ⟨hnodup, hplaced, ?_, ?_, sum_methodCount hnodup hcovered hplaced⟩
  · intro occurrence hmem
    obtain ⟨view, hview, hid⟩ := List.mem_map.mp (hcovered occurrence hmem)
    refine ⟨view, hview, hid, fun hscope path hpath => ?_⟩
    have hplacement : (path, occurrence.method options) ∈ view.placed := by
      rw [(hplaced view hview).mem_iff, List.mem_flatMap]
      exact ⟨occurrence, List.mem_filter.mpr ⟨hmem, decide_eq_true hid.symm⟩,
        Occurrence.mem_placements.mpr ⟨hscope, hpath, rfl⟩⟩
    obtain ⟨draft, -, hresolved⟩ := hviews.exists_left hview
    exact ApiView.count_placed hresolved.nodup_placed hplacement
  · intro occurrence _ hnone view hview resource hresource hmethod
    have hplacement := (hplaced view hview).mem_iff.mp
      (ApiView.mem_placed.mpr ⟨resource, hresource, rfl, hmethod⟩)
    obtain ⟨other, -, hother⟩ := List.mem_flatMap.mp hplacement
    obtain ⟨hscope, hpath⟩ := Occurrence.of_method_mem_placements hother
    rcases hnone with hout | hempty
    · rw [hscope] at hout
      cases hout
    · rw [hempty] at hpath
      exact List.not_mem_nil hpath

/-- Every endpoint that is written somewhere is documented where it is in scope and kept, and
nothing else is. -/
theorem merge_documented {fragments : List Fragment} (h : merge fragments options = .ok views) :
    ∃ filled,
      (fragments.flatMap Fragment.occurrences).mapM (Occurrence.fill options.templates) =
        .ok filled ∧ Documented options filled views := by
  obtain ⟨filled, drafts, hfilled, -, hselected, hviews⟩ := exists_resolved h
  exact ⟨filled, hfilled, documented_of_resolved hselected hviews⟩

theorem merge_documented_shops :
    ∃ views filled, merge shopFragments shopOptions = .ok views ∧
      Documented shopOptions filled views ∧ (views.map (·.methodCount)).sum = 3 := by
  have hmerge : (merge shopFragments shopOptions).isOk = true := by decide +kernel
  have hcount : ((shopFragments.flatMap Fragment.occurrences).mapM
      (Occurrence.fill shopOptions.templates)).map (fun filled =>
        ((filled.filter (·.isInScope shopOptions)).map fun occurrence =>
          (occurrence.keptPaths shopOptions).length).sum) = .ok 3 := by decide +kernel
  obtain ⟨views, hviews⟩ := Except.isOk_iff.mp hmerge
  obtain ⟨filled, hfilled, hdocumented⟩ := merge_documented hviews
  rw [hfilled] at hcount
  exact ⟨views, filled, hviews, hdocumented, hdocumented.count.trans (Except.ok.inj hcount)⟩

end ApiManual
