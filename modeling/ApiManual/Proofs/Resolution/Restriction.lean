import ApiManual.Proofs.Resolution.Outcome
import Mathlib.Data.List.Perm.Subperm

/-!
A draft that has a view still has one when mounts are left out or come in another order. What was
one declaration may fall apart into several, and none of them is shared by more endpoints than it.
-/
namespace ApiManual

open Outline UriPath Resolution

namespace Mount

/-- What a resolution checks of a mount: its operation, and what it says about parameters. -/
def checked (mount : Mount) : (String × HttpMethod) × List Parameter :=
  (mount.operation, mount.sourced.endpoint.pathParameters)

theorem Lists.of_checked_eq {mount other : Mount} (h : mount.checked = other.checked)
    {name : String} {values : List String} (hlists : mount.Lists name values) :
    other.Lists name values := by
  obtain ⟨parameter, hparameter, hname, hvalues⟩ := hlists
  have hparameters : mount.sourced.endpoint.pathParameters =
      other.sourced.endpoint.pathParameters := congrArg (·.2) h
  exact ⟨parameter, hparameters ▸ hparameter, hname, hvalues⟩

theorem Agree.of_subset {paths paths' : List String} {mounts mounts' : List Mount}
    (slashed : ∀ path ∈ paths, WellSlashed path) (agree : Agree paths mounts)
    (hpaths : paths' ⊆ paths) (hmounts : mounts'.map checked ⊆ mounts.map checked) :
    Agree paths' mounts' := by
  have hold : ∀ mount ∈ mounts', ∃ other ∈ mounts, other.checked = mount.checked :=
    fun mount hmount => List.mem_map.mp (hmounts (List.mem_map_of_mem hmount))
  intro path name hintroduces mount hmount hcovers mount' hmount' hcovers' values hlists values'
    hlists'
  obtain ⟨upper, hupper, howner⟩ :=
    exists_introduces slashed (hpaths hintroduces.mem) hintroduces.holds
  obtain ⟨other, hother, hsame⟩ := hold mount hmount
  obtain ⟨other', hother', hsame'⟩ := hold mount' hmount'
  have hpath : other.path = mount.path := congrArg (·.1.1) hsame
  have hpath' : other'.path = mount'.path := congrArg (·.1.1) hsame'
  exact agree upper name howner other hother (hpath ▸ hupper.trans hcovers) other' hother'
    (hpath' ▸ hupper.trans hcovers') values (hlists.of_checked_eq hsame.symm) values'
    (hlists'.of_checked_eq hsame'.symm)

end Mount

namespace Draft

variable {draft inner : Draft}
  (within : (inner.mounts.map Mount.checked).Subperm (draft.mounts.map Mount.checked))

include within

theorem mountPaths_subset : inner.mountPaths ⊆ draft.mountPaths := by
  have hpaths : ∀ mounts : List Mount,
      mounts.map (·.path) = (mounts.map Mount.checked).map (·.1.1) := by
    intro mounts
    rw [List.map_map]
    rfl
  unfold mountPaths
  rw [hpaths, hpaths]
  exact List.map_subset _ within.subset

/-- No check fails that did not fail before. -/
theorem exists_resolve_of_subperm (normal : draft.Normal)
    (h : ∃ view, draft.resolve = .ok view) :
    inner.Normal ∧ ∃ view, inner.resolve = .ok view := by
  obtain ⟨once, unrepeated, agree⟩ := (exists_resolve_eq_ok_iff normal).mp h
  have hpaths := mountPaths_subset within
  have hnormal : inner.Normal := fun path hpath => normal path (hpaths hpath)
  have hunrepeated : Mount.Unrepeated inner.mounts := by
    have hoperation : Mount.operation = (·.1) ∘ Mount.checked := rfl
    rw [Mount.Unrepeated, hoperation, ← List.map_map] at unrepeated ⊢
    obtain ⟨middle, hperm, hsublist⟩ := within
    rw [← (hperm.map (·.1)).nodup_iff]
    exact unrepeated.sublist (hsublist.map _)
  refine ⟨hnormal, (exists_resolve_eq_ok_iff hnormal).mpr
    ⟨fun path hpath => once path (hpaths hpath), hunrepeated, ?_⟩⟩
  exact agree.of_subset normal.wellSlashed hpaths within.subset

end Draft

end ApiManual
