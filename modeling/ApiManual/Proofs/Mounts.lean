import ApiManual.Proofs.UriPath.Segments
import ApiManual.View.Resolution
import Mathlib.Data.List.Nodup

/-! The mounts of a draft: their paths, the operations that they document, and their methods. -/
namespace ApiManual

open UriPath

namespace Mount

def operation (mount : Mount) : String × HttpMethod :=
  (mount.path, mount.sourced.endpoint.method)

/-- No operation comes twice. -/
def Unrepeated (mounts : List Mount) : Prop := (mounts.map operation).Nodup

theorem unrepeated_append_singleton_iff {earlier : List Mount} {mount : Mount}
    (h : Unrepeated earlier) :
    Unrepeated (earlier ++ [mount]) ↔ ∀ other ∈ earlier, other.operation ≠ mount.operation := by
  unfold Unrepeated at *
  rw [List.map_append, List.map_singleton, List.nodup_append']
  simp [h, List.disjoint_singleton]

def method (mount : Mount) : ResourceMethod where
  endpoint := mount.sourced.endpoint
  traits := distinct mount.sourced.endpoint.traits
  origin := mount.sourced.origin

end Mount

namespace Draft

def mountPaths (draft : Draft) : List String := draft.mounts.map (·.path)

theorem path_mem_mountPaths {draft : Draft} {mount : Mount} (h : mount ∈ draft.mounts) :
    mount.path ∈ draft.mountPaths := List.mem_map_of_mem h

/-- The paths of all endpoints are in normal form. -/
def Normal (draft : Draft) : Prop :=
  ∀ path ∈ draft.mountPaths, ∃ written, normalize written = path

theorem Normal.wellSlashed {draft : Draft} (h : draft.Normal) :
    ∀ path ∈ draft.mountPaths, WellSlashed path := by
  intro path hpath
  obtain ⟨written, rfl⟩ := h path hpath
  exact wellSlashed_normalize written

end Draft

end ApiManual
