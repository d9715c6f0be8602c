import ApiManual.FileTree.Lookup
import ApiManual.Proofs.UriPath.Segments
import Mathlib.Data.List.DropRight

/-! The name after the last slash of a path. -/
namespace ApiManual

theorem Text.getLast?_fields {separator : Char} (left : List Char) {right : List Char}
    (h : separator ∉ right) :
    (fields separator (left ++ right)).getLast? =
      some (left.rtakeWhile (· ≠ separator) ++ right) := by
  induction left using List.reverseRecOn generalizing right with
  | nil => rw [List.nil_append, fields_of_not_mem h]; rfl
  | append_singleton left c ih =>
    rw [List.append_assoc, List.singleton_append]
    by_cases hc : c = separator
    · subst hc
      rw [fields_append_cons, fields_of_not_mem h, List.getLast?_concat,
        List.rtakeWhile_concat_neg _ _ _ (by simp), List.nil_append]
    · rw [ih (List.not_mem_cons_of_ne_of_not_mem (Ne.symm hc) h),
        List.rtakeWhile_concat_pos _ _ _ (by simpa using hc), List.append_assoc,
        List.singleton_append]

namespace FilePath

variable {base suffix : String}

theorem getLast?_pieces (hslash : '/' ∉ suffix.toList) (hne : suffix.toList ≠ []) :
    (pieces (base ++ suffix)).getLast? =
      some (String.ofList (base.toList.rtakeWhile (· ≠ '/') ++ suffix.toList)) := by
  obtain ⟨front, hfields⟩ := List.getLast?_eq_some_iff.mp
    (Text.getLast?_fields base.toList hslash)
  rw [pieces, String.toList_append, hfields, List.filter_append, List.filter_cons_of_pos,
    List.filter_nil, List.map_append, List.map_singleton, List.getLast?_concat]
  simp [hne]

theorem isDirectoryPath_append (hslash : '/' ∉ suffix.toList) (hne : suffix.toList ≠ []) :
    isDirectoryPath (base ++ suffix) = false := by
  rw [isDirectoryPath, String.toList_append, List.getLast?_append_of_ne_nil _ hne,
    decide_eq_false_iff_not]
  exact fun hlast => hslash (List.mem_of_getLast? hlast)

theorem getLast?_trail (hslash : '/' ∉ suffix.toList) (hne : suffix.toList ≠ []) :
    (FileTree.trail (base ++ suffix)).getLast? =
      some (String.ofList (base.toList.rtakeWhile (· ≠ '/') ++ suffix.toList)) := by
  rw [FileTree.trail, isDirectoryPath_append hslash hne]
  exact getLast?_pieces hslash hne

theorem isAbsolute_append (hslash : '/' ∉ suffix.toList) :
    isAbsolute (base ++ suffix) = isAbsolute base := by
  rw [isAbsolute, isAbsolute, String.toList_append]
  cases base.toList with
  | nil =>
    have hfirst : ¬ suffix.toList.head? = some '/' := fun hfirst =>
      hslash (List.mem_of_mem_head? hfirst)
    rw [List.nil_append, decide_eq_false hfirst]
    rfl
  | cons c rest => rfl

theorem join_append (directory : String) (hslash : '/' ∉ suffix.toList) :
    join directory (base ++ suffix) = join directory base ++ suffix := by
  rw [join, join, isAbsolute_append hslash]
  split_ifs <;> simp [String.append_assoc]

end FilePath

end ApiManual
