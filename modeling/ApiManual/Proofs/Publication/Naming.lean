import ApiManual.Proofs.Assembly.Naming
import ApiManual.Proofs.FilePath.LastName
import ApiManual.Publication

/-!
Where artifacts are written. All artifacts of one run have a common base name, and what follows it
holds no slash, so that paths of distinct artifacts end in distinct names.
-/
namespace ApiManual

namespace Assembly

def nameSuffix (extension : String) : Option String → String
  | none => "." ++ extension
  | some id => "-" ++ fileSafe id ++ "." ++ extension

theorem artifactName_eq (baseName extension : String) (id : Option String) :
    artifactName baseName id extension = baseName ++ nameSuffix extension id := by
  cases id <;> simp [artifactName, nameSuffix, String.append_assoc]

/-- An extension that stays within one name and is more than full stops. -/
def PlainExtension (extension : String) : Prop :=
  '/' ∉ extension.toList ∧ ∃ c ∈ extension.toList, c ≠ '.'

instance (extension : String) : Decidable (PlainExtension extension) :=
  have := List.decidableBEx (· ≠ '.') extension.toList
  inferInstanceAs (Decidable ('/' ∉ extension.toList ∧ ∃ c ∈ extension.toList, c ≠ '.'))

theorem slash_not_mem_fileSafe (id : String) : '/' ∉ (fileSafe id).toList := by
  rw [fileSafe, String.toList_map, List.mem_map]
  rintro ⟨c, -, hc⟩
  split at hc
  · rename_i hsafe
    rw [hc] at hsafe
    exact absurd hsafe (by decide)
  · exact absurd hc (by decide)

theorem slash_not_mem_nameSuffix {extension : String} (plain : PlainExtension extension)
    (id : Option String) : '/' ∉ (nameSuffix extension id).toList := by
  cases id <;> simp [nameSuffix, plain.1, slash_not_mem_fileSafe]

theorem exists_mem_nameSuffix {extension : String} (plain : PlainExtension extension)
    (id : Option String) : ∃ c ∈ (nameSuffix extension id).toList, c ≠ '.' := by
  obtain ⟨c, hc, hne⟩ := plain.2
  refine ⟨c, ?_, hne⟩
  cases id <;> simp [nameSuffix, hc]

def lastName (directory baseName suffix : String) : String :=
  String.ofList ((FilePath.join directory baseName).toList.rtakeWhile (· ≠ '/') ++ suffix.toList)

variable {directory baseName : String}

theorem lastName_injective : Function.Injective (lastName directory baseName) := by
  intro suffix suffix' h
  rw [lastName, lastName, String.ofList_inj, List.append_cancel_left_eq, String.toList_inj] at h
  exact h

theorem getLast?_trail_join {suffix : String} (hslash : '/' ∉ suffix.toList)
    (hdot : ∃ c ∈ suffix.toList, c ≠ '.') :
    (FileTree.trail (FilePath.join directory (baseName ++ suffix))).getLast? =
      some (lastName directory baseName suffix) := by
  obtain ⟨c, hc, -⟩ := hdot
  rw [FilePath.join_append directory hslash]
  exact FilePath.getLast?_trail hslash (List.ne_nil_of_mem hc)

theorem lastName_ne {suffix dots : String} (hdot : ∃ c ∈ suffix.toList, c ≠ '.')
    (hdots : ∀ c ∈ dots.toList, c = '.') : lastName directory baseName suffix ≠ dots := by
  obtain ⟨c, hc, hne⟩ := hdot
  rintro rfl
  refine hne (hdots c ?_)
  rw [lastName, String.toList_ofList]
  exact List.mem_append_right _ hc

end Assembly

end ApiManual
