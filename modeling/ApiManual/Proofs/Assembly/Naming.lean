import ApiManual.Assembly
import ApiManual.Proofs.Except
import ApiManual.Proofs.Resolution.Checks

/-!
Names of artifacts. A check passes if no name is given twice, and else it reports the first naming
whose name was given before. Whether the names of one format are distinct does not depend on the
format.
-/
namespace ApiManual.Assembly

variable {earlier namings : List Naming} {first later : Naming}

/-- The later one is the first naming whose name was given before, and it was given to the first. -/
def FirstRepeat (namings : List Naming) (first later : Naming) : Prop :=
  ∃ before after, namings = before ++ later :: after ∧ (before.map (·.name)).Nodup ∧
    first ∈ before ∧ first.name = later.name

theorem checkDistinct_append (earlier front back : List Naming) :
    checkDistinct earlier (front ++ back) =
      checkDistinct earlier front >>= fun _ => checkDistinct (front.reverse ++ earlier) back := by
  induction front generalizing earlier with
  | nil => rfl
  | cons naming rest ih =>
    rw [List.cons_append, checkDistinct, checkDistinct, List.reverse_cons, List.append_assoc,
      List.singleton_append]
    cases earlier.find? (·.name = naming.name) with
    | some first => rfl
    | none => exact ih (naming :: earlier)

theorem checkDistinct_of_nodup (nodup : ((namings.reverse ++ earlier).map (·.name)).Nodup) :
    checkDistinct earlier namings = .ok () := by
  induction namings generalizing earlier with
  | nil => rfl
  | cons naming rest ih =>
    rw [List.reverse_cons, List.append_assoc, List.singleton_append] at nodup
    have hnew : earlier.find? (·.name = naming.name) = none := by
      rw [List.map_append, List.map_cons] at nodup
      have hnot := (List.nodup_cons.mp nodup.of_append_right).1
      rw [List.find?_eq_none]
      intro other hother hsame
      exact hnot (of_decide_eq_true hsame ▸ List.mem_map_of_mem hother)
    rw [checkDistinct, hnew]
    exact ih nodup

theorem checkDistinct_nil_of_nodup (nodup : (namings.map (·.name)).Nodup) :
    checkDistinct [] namings = .ok () := by
  apply checkDistinct_of_nodup
  rw [List.append_nil, List.map_reverse]
  exact List.nodup_reverse.mpr nodup

theorem checkDistinct_of_firstRepeat (h : FirstRepeat namings first later) :
    checkDistinct [] namings = .error (.duplicateName later.name first.label later.label) := by
  obtain ⟨before, after, rfl, hnodup, hmem, hsame⟩ := h
  have hfound : before.reverse.find? (·.name = later.name) = some first := by
    -- of namings with distinct names only the first has the name
    have hsome : (before.reverse.find? (·.name = later.name)).isSome :=
      List.find?_isSome.mpr ⟨first, List.mem_reverse.mpr hmem, decide_eq_true hsame⟩
    obtain ⟨found, hfound⟩ := Option.isSome_iff_exists.mp hsome
    have hname : found.name = later.name := of_decide_eq_true (List.find?_some hfound :)
    have hequal : found = first := List.inj_on_of_nodup_map hnodup
      (List.mem_reverse.mp (List.mem_of_find?_eq_some hfound)) hmem (hname.trans hsame.symm)
    rw [hfound, hequal]
  rw [checkDistinct_append, checkDistinct_nil_of_nodup hnodup, List.append_nil]
  change checkDistinct before.reverse (later :: after) = _
  rw [checkDistinct, hfound]

theorem nodup_or_firstRepeat (namings : List Naming) :
    (namings.map (·.name)).Nodup ∨ ∃ first later, FirstRepeat namings first later := by
  refine (exists_first_failure (fun namings => (namings.map (·.name)).Nodup) List.nodup_nil
    namings).imp_right ?_
  rintro ⟨before, later, after, rfl, hnodup, hrepeat⟩
  have hmem : later.name ∈ before.map (·.name) := by
    by_contra hnew
    apply hrepeat
    rw [List.map_append, List.map_singleton, List.nodup_append']
    exact ⟨hnodup, List.nodup_singleton _, List.disjoint_singleton.mpr hnew⟩
  obtain ⟨first, hfirst, hsame⟩ := List.mem_map.mp hmem
  exact ⟨first, later, before, after, rfl, hnodup, hfirst, hsame⟩

theorem artifactName_eq_iff {baseName extension : String} {id id' : Option String} :
    artifactName baseName id extension = artifactName baseName id' extension ↔
      id.map fileSafe = id'.map fileSafe := by
  cases id with
  | none => cases id' <;> simp [artifactName, ← String.toList_inj]
  | some id => cases id' <;> simp [artifactName, ← String.toList_inj]

theorem nodup_artifactNames_iff (baseName extension : String) (views : List ApiView) :
    (views.map fun view => artifactName baseName view.id extension).Nodup ↔
      (views.map fun view => view.id.map fileSafe).Nodup := by
  unfold List.Nodup
  rw [List.pairwise_map, List.pairwise_map]
  simp only [ne_eq, artifactName_eq_iff]

end ApiManual.Assembly
