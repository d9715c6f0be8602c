import ApiManual.Proofs.FilePath.LastName

/-!
Paths that go on with the names of entries. The steps of such a path are those of its beginning and
one for each name.
-/
namespace ApiManual.FilePath

/-- A name that an entry of a directory can have. -/
structure IsEntryName (name : String) : Prop where
  ne_empty : name ≠ ""
  ne_current : name ≠ "."
  ne_parent : name ≠ ".."
  slash_not_mem : '/' ∉ name.toList

instance (name : String) : Decidable (IsEntryName name) :=
  decidable_of_iff (name ≠ "" ∧ name ≠ "." ∧ name ≠ ".." ∧ '/' ∉ name.toList)
    ⟨fun h => ⟨h.1, h.2.1, h.2.2.1, h.2.2.2⟩,
      fun h => ⟨h.ne_empty, h.ne_current, h.ne_parent, h.slash_not_mem⟩⟩

/-- A path that leads on from another one along names. -/
def joinAll (path : String) (names : List String) : String := names.foldl join path

variable {path name : String}

theorem pieces_of_slash_not_mem (hne : name ≠ "") (hslash : '/' ∉ name.toList) :
    pieces name = [name] := by
  have hchars : name.toList ≠ [] := fun h => hne (String.toList_inj.mp h)
  rw [pieces, Text.fields_of_not_mem hslash, List.filter_cons_of_pos (by simpa using hchars)]
  simp

theorem pieces_append_slash (path rest : String) :
    pieces (path ++ "/" ++ rest) = pieces path ++ pieces rest := by
  have hchars : (path ++ "/" ++ rest).toList = path.toList ++ '/' :: rest.toList := by simp
  rw [pieces, hchars, Text.fields_append_cons, List.filter_append, List.map_append, pieces, pieces]

theorem exists_of_isDirectoryPath (h : isDirectoryPath path = true) :
    ∃ front, path = front ++ "/" := by
  obtain ⟨front, hfront⟩ := List.getLast?_eq_some_iff.mp (of_decide_eq_true h)
  refine ⟨String.ofList front, String.toList_inj.mp ?_⟩
  rw [hfront, String.toList_append, String.toList_ofList]
  rfl

theorem isAbsolute_append_of_ne (hne : path ≠ "") (rest : String) :
    isAbsolute (path ++ rest) = isAbsolute path := by
  obtain ⟨c, chars, hchars⟩ := List.exists_cons_of_ne_nil
    (fun h => hne (String.toList_inj.mp h) : path.toList ≠ [])
  rw [isAbsolute, isAbsolute, String.toList_append, hchars]
  rfl

namespace IsEntryName

variable (entry : IsEntryName name)

include entry

theorem isAbsolute_eq : isAbsolute name = false :=
  decide_eq_false fun hfirst => entry.slash_not_mem (List.mem_of_mem_head? hfirst)

theorem pieces_eq : pieces name = [name] :=
  pieces_of_slash_not_mem entry.ne_empty entry.slash_not_mem

theorem pieces_join : pieces (join path name) = pieces path ++ [name] := by
  rw [join, if_neg (by simp [entry.isAbsolute_eq])]
  split
  · rename_i hfront
    rcases (Bool.or_eq_true _ _).mp hfront with hempty | hdirectory
    · rw [of_decide_eq_true hempty, String.empty_append, entry.pieces_eq]
      rfl
    · obtain ⟨front, rfl⟩ := exists_of_isDirectoryPath hdirectory
      have hend := pieces_append_slash front ""
      rw [String.append_empty] at hend
      rw [pieces_append_slash, entry.pieces_eq, hend]
      exact congrArg (· ++ [name]) (List.append_nil _).symm
  · rw [pieces_append_slash, entry.pieces_eq]

theorem isAbsolute_join : isAbsolute (join path name) = isAbsolute path := by
  by_cases hempty : path = ""
  · subst hempty
    rw [join, if_neg (by simp [entry.isAbsolute_eq]), if_pos (by simp), String.empty_append,
      entry.isAbsolute_eq]
    rfl
  · rw [join, if_neg (by simp [entry.isAbsolute_eq])]
    split
    · exact isAbsolute_append_of_ne hempty name
    · rw [String.append_assoc, isAbsolute_append_of_ne hempty]

theorem steps_join : steps (join path name) = steps path ++ [.name name] := by
  have hnamed : ((pieces (join path name)).filter (· ≠ ".")).map stepOf =
      ((pieces path).filter (· ≠ ".")).map stepOf ++ [.name name] := by
    rw [entry.pieces_join, List.filter_append, List.map_append,
      List.filter_cons_of_pos (by simpa using entry.ne_current)]
    simp [stepOf, entry.ne_parent]
  have hfirst : (pieces (join path name)).head? = some "." ↔ (pieces path).head? = some "." := by
    rw [entry.pieces_join]
    cases pieces path with
    | nil => simp [entry.ne_current]
    | cons piece rest => rfl
  rw [steps, steps, hnamed, entry.isAbsolute_join]
  simp only [hfirst]
  split_ifs <;> rfl

theorem isDirectoryPath_join : isDirectoryPath (join path name) = false := by
  have hname : name.toList ≠ [] := fun h => entry.ne_empty (String.toList_inj.mp h)
  rw [join, if_neg (by simp [entry.isAbsolute_eq])]
  split
  · exact isDirectoryPath_append entry.slash_not_mem hname
  · exact isDirectoryPath_append entry.slash_not_mem hname

theorem fileName?_join : fileName? (join path name) = some name := by
  rw [fileName?, entry.steps_join, List.getLast?_concat]

end IsEntryName

theorem joinAll_append (path : String) (names rest : List String) :
    joinAll path (names ++ rest) = joinAll (joinAll path names) rest :=
  List.foldl_append

section Names

variable {names : List String}

theorem steps_joinAll (h : ∀ name ∈ names, IsEntryName name) :
    steps (joinAll path names) = steps path ++ names.map .name := by
  induction names generalizing path with
  | nil => exact (List.append_nil _).symm
  | cons name rest ih =>
    obtain ⟨hname, hrest⟩ := List.forall_mem_cons.mp h
    have hjoin : joinAll path (name :: rest) = joinAll (join path name) rest := rfl
    rw [hjoin, ih hrest, hname.steps_join, List.append_assoc]
    rfl

theorem pieces_joinAll (h : ∀ name ∈ names, IsEntryName name) :
    pieces (joinAll path names) = pieces path ++ names := by
  induction names generalizing path with
  | nil => exact (List.append_nil _).symm
  | cons name rest ih =>
    obtain ⟨hname, hrest⟩ := List.forall_mem_cons.mp h
    have hjoin : joinAll path (name :: rest) = joinAll (join path name) rest := rfl
    rw [hjoin, ih hrest, hname.pieces_join, List.append_assoc]
    rfl

theorem isAbsolute_joinAll (h : ∀ name ∈ names, IsEntryName name) :
    isAbsolute (joinAll path names) = isAbsolute path := by
  induction names generalizing path with
  | nil => rfl
  | cons name rest ih =>
    obtain ⟨hname, hrest⟩ := List.forall_mem_cons.mp h
    exact (ih hrest).trans hname.isAbsolute_join

theorem trail_joinAll (h : ∀ name ∈ names, IsEntryName name) (hne : names ≠ []) :
    FileTree.trail (joinAll path names) = pieces path ++ names := by
  have hdirectory : isDirectoryPath (joinAll path names) = false := by
    obtain ⟨front, last, rfl⟩ := List.eq_nil_or_concat' names |>.resolve_left hne
    rw [joinAll_append]
    exact (h last (by simp)).isDirectoryPath_join
  rw [FileTree.trail, hdirectory]
  exact pieces_joinAll h

end Names

end ApiManual.FilePath
