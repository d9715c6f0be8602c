import ApiManual.Yaml
import Mathlib.Data.List.Nodup

/-! A mapping that entries with distinct keys are put into holds exactly these, in order. -/
namespace ApiManual.Yaml

theorem put_of_not_mem {key : Key} {entries : List (Key × Yaml)} (h : key ∉ entries.map Prod.fst)
    (value : Yaml) : put key value entries = entries ++ [(key, value)] := by
  induction entries with
  | nil => rfl
  | cons entry rest ih =>
    obtain ⟨other, old⟩ := entry
    rw [List.map_cons, List.mem_cons, not_or] at h
    rw [put, if_neg (Ne.symm h.1), ih h.2, List.cons_append]

theorem foldl_put_of_nodup {done entries : List (Key × Yaml)}
    (nodup : ((done ++ entries).map Prod.fst).Nodup) :
    entries.foldl (fun done (key, value) => put key value done) done = done ++ entries := by
  induction entries generalizing done with
  | nil => exact (List.append_nil done).symm
  | cons entry rest ih =>
    have hnew : entry.1 ∉ done.map Prod.fst := by
      rw [List.map_append, List.map_cons] at nodup
      exact fun hmem => (List.nodup_append'.mp nodup).2.2 hmem List.mem_cons_self
    rw [List.append_cons] at nodup ⊢
    rw [List.foldl_cons]
    change rest.foldl _ (put entry.1 entry.2 done) = _
    rw [put_of_not_mem hnew]
    exact ih nodup

theorem collect_of_nodup {entries : List (Key × Yaml)} (nodup : (entries.map Prod.fst).Nodup) :
    collect entries = entries :=
  foldl_put_of_nodup nodup

theorem ofEntries_of_nodup {entries : List (Key × Yaml)} (nodup : (entries.map Prod.fst).Nodup) :
    ofEntries entries = mapping entries := by
  rw [ofEntries, collect_of_nodup nodup]

end ApiManual.Yaml
