import ApiManual.Proofs.FileTree.Ordinary

/-!
Trees that directories and files are put into. Directories are made one after the other, each in one
that is there, so that no file comes or goes and a tree without links has none afterwards.
-/
namespace ApiManual

open FileTree

namespace FileNode

variable {root new : FileNode} {parent : Place} {name : String}
  {entries : List (String × FileNode)}

theorem mem_putEntry {entry : String × FileNode} (h : entry ∈ putEntry name new entries) :
    entry = (name, new) ∨ entry ∈ entries := by
  induction entries with
  | nil => exact .inl (List.mem_singleton.mp h)
  | cons first rest ih =>
    rw [putEntry] at h
    split at h
    · exact (List.mem_cons.mp h).imp_right (List.mem_cons_of_mem _)
    · rcases List.mem_cons.mp h with rfl | h
      · exact .inr List.mem_cons_self
      · exact (ih h).imp_right (List.mem_cons_of_mem _)

theorem nodup_putEntry (h : (entries.map (·.1)).Nodup) :
    ((putEntry name new entries).map (·.1)).Nodup := by
  induction entries with
  | nil => exact List.nodup_singleton _
  | cons first rest ih =>
    obtain ⟨hfirst, hrest⟩ := List.nodup_cons.mp h
    rw [putEntry]
    split
    · rename_i hname
      exact List.nodup_cons.mpr ⟨hname ▸ hfirst, hrest⟩
    · rename_i hname
      refine List.nodup_cons.mpr ⟨fun hmem => ?_, ih hrest⟩
      obtain ⟨entry, hentry, heq⟩ := List.mem_map.mp hmem
      rcases mem_putEntry hentry with rfl | hentry
      · exact hname heq.symm
      · exact hfirst (heq ▸ List.mem_map_of_mem hentry)

theorem Ordinary.putEntry (h : (FileNode.directory entries).Ordinary)
    (hname : FilePath.IsEntryName name) (hlength : ¬ nameLimit < name.utf8ByteSize)
    (hnew : new.Ordinary) :
    (FileNode.directory (FileNode.putEntry name new entries)).Ordinary := by
  cases h with
  | directory nodup names lengths children =>
    refine .directory (nodup_putEntry nodup) ?_ ?_ ?_
    all_goals
      intro entry hentry
      rcases mem_putEntry hentry with rfl | hentry
    · exact hname
    · exact names entry hentry
    · exact hlength
    · exact lengths entry hentry
    · exact hnew
    · exact children entry hentry

theorem Ordinary.put (h : root.Ordinary) (hparent : root.labelAt? parent = some .directory)
    (hname : FilePath.IsEntryName name) (hlength : ¬ nameLimit < name.utf8ByteSize)
    (hnew : new.Ordinary) : (root.put (parent ++ [name]) new).Ordinary := by
  induction parent generalizing root with
  | nil =>
    obtain ⟨entries, hentries⟩ := labelAt?_eq_directory.mp hparent
    cases hentries
    rw [List.nil_append, put_singleton]
    exact h.putEntry hname hlength hnew
  | cons upper parent ih =>
    obtain ⟨below, hbelow⟩ := labelAt?_eq_directory.mp hparent
    cases root with
    | directory entries =>
      obtain ⟨child, hchild, hrest⟩ := Option.bind_eq_some_iff.mp hbelow
      have hmem := h.lookup_eq_some_iff.mp hchild
      have hput : (FileNode.directory entries).put (upper :: parent ++ [name]) new =
          FileNode.directory
            (FileNode.putEntry upper (child.put (parent ++ [name]) new) entries) := by
        rw [List.cons_append, FileNode.put]
        simp only [hchild]
      rw [hput]
      have hget : (FileNode.directory entries).get? [upper] = some child := by
        simp [FileNode.get?, hchild]
      have hchildPut := ih (h.get? hget) (labelAt?_eq_directory.mpr ⟨below, hrest⟩)
      cases h with
      | directory nodup names lengths children =>
        exact (Ordinary.directory nodup names lengths children).putEntry (names _ hmem)
          (lengths _ hmem) hchildPut
    | _ => cases hbelow

end FileNode

namespace FileTree

open FileNode

variable {tree after : FileTree} {origin parent : Place} {name : String} {names : List String}

/-- Empty directories are put where nothing is, one after the other. -/
inductive Builds : FileTree → FileTree → Prop
  | done (tree : FileTree) : Builds tree tree
  | made {tree after : FileTree} {parent : Place} {name : String} :
    tree.root.labelAt? parent = some .directory → tree.root.get? (parent ++ [name]) = none →
    IsName name → FilePath.IsEntryName name →
    Builds (tree.put (parent ++ [name]) (.directory [])) after → Builds tree after

namespace Builds

theorem trans {between : FileTree} (h : Builds tree between) (h' : Builds between after) :
    Builds tree after := by
  induction h with
  | done => exact h'
  | made hparent hnone hname hentry _ ih => exact .made hparent hnone hname hentry (ih h')

theorem grows (h : Builds tree after) : Grows tree after := by
  induction h with
  | done tree => exact .refl tree
  | made hparent hnone _ _ _ ih =>
    exact ⟨(keeps_put_of_vacant hparent hnone isLeaf_empty).trans ih.keeps, ih.current⟩

theorem labelAt?_eq_file_iff (h : Builds tree after) {place : Place} {content : ByteArray} :
    after.root.labelAt? place = some (.file content) ↔
      tree.root.labelAt? place = some (.file content) := by
  induction h with
  | done => rfl
  | @made tree after parent name hparent hnone _ _ _ ih =>
    have hput : (tree.put (parent ++ [name]) (.directory [])).root.labelAt? place = _ :=
      labelAt?_put hparent (by simp [hnone]) isLeaf_empty place
    rw [ih, hput]
    split
    · rename_i hplace
      rw [hplace, labelAt?_eq_none.mpr hnone]
      simp [label]
    · rfl

theorem ordinary (h : Builds tree after) (ordinary : tree.root.Ordinary) : after.root.Ordinary := by
  induction h with
  | done => exact ordinary
  | made hparent _ hname hentry _ ih =>
    exact ih (ordinary.put hparent hentry hname.2.2 (.directory .nil nofun nofun nofun))

end Builds

/-- A part of a path between its slashes. -/
def IsPiece (name : String) : Prop := name ≠ "" ∧ '/' ∉ name.toList

theorem isPiece_of_mem_pieces {path : String} (h : name ∈ FilePath.pieces path) : IsPiece name := by
  obtain ⟨piece, hpiece, rfl⟩ := List.mem_map.mp h
  obtain ⟨hfield, hne⟩ := List.mem_filter.mp hpiece
  rw [IsPiece, String.toList_ofList]
  refine ⟨fun hempty => ?_, Text.not_mem_of_mem_fields hfield⟩
  rw [← String.toList_inj, String.toList_ofList] at hempty
  simp [hempty] at hne

theorem isPiece_of_mem_trail {path : String} (h : name ∈ trail path) : IsPiece name := by
  rw [trail] at h
  split at h
  · rcases List.mem_append.mp h with h | h
    · exact isPiece_of_mem_pieces h
    · rw [List.mem_singleton.mp h]
      exact ⟨by decide, by decide⟩
  · exact isPiece_of_mem_pieces h

theorem IsPiece.isEntryName (h : IsPiece name) (hname : IsName name) : FilePath.IsEntryName name :=
  ⟨h.1, hname.1, hname.2.1, h.2⟩

theorem Leads.vacant_name {root : FileNode} {through : Bool} {links : Nat} {place : Place}
    (h : Leads root through links origin names (.vacant place))
    (hnames : ∀ name ∈ names, IsPiece name) :
    ∀ name ∈ place.getLast?, IsName name ∧ FilePath.IsEntryName name := by
  generalize hend : Lookup.vacant place = result at h
  induction h with
  | here => cases hend
  | current _ ih => exact ih (List.forall_mem_cons.mp hnames).2 hend
  | parent _ ih => exact ih (List.forall_mem_cons.mp hnames).2 hend
  | vacant hname =>
    cases hend
    intro name hlast
    rw [List.getLast?_concat] at hlast
    cases hlast
    exact ⟨hname, (hnames _ List.mem_cons_self).isEntryName hname⟩
  | file => cases hend
  | directory _ _ _ ih => exact ih (List.forall_mem_cons.mp hnames).2 hend
  | link => cases hend
  | follow _ _ _ _ ih =>
    refine ih (fun name hname => ?_) hend
    rcases List.mem_append.mp hname with hname | hname
    · exact isPiece_of_mem_trail hname
    · exact hnames name (List.mem_cons_of_mem _ hname)

theorem builds_makeOne (horigin : tree.root.labelAt? origin = some .directory)
    (hnames : ∀ name ∈ names, IsPiece name) (h : tree.makeOne origin names = .made after) :
    Builds tree after := by
  rw [makeOne] at h
  split at h
  · rename_i place hwalk
    cases h
    have hleads := leads_of_walk_eq hwalk (by simp) (by simp)
    obtain ⟨parent, name, rfl, hparent, hnone⟩ := hleads.exists_parent horigin rfl
    obtain ⟨hname, hentry⟩ := hleads.vacant_name hnames name (List.getLast?_concat ..)
    exact .made hparent (labelAt?_eq_none.mp hnone) hname hentry (.done _)
  · cases h
  · cases h

theorem builds_again (horigin : tree.root.labelAt? origin = some .directory)
    (hnames : ∀ name ∈ names, IsPiece name) {between : FileTree} (hbetween : Builds tree between)
    (done : Bool) :
    Builds tree (if !done then (between, false)
      else
        match between.makeOne origin names with
        | .made after => (after, true)
        | _ => (between, between.isDirectoryAt origin names)).1 := by
  split
  · exact hbetween
  · split
    · rename_i after hmade
      exact hbetween.trans
        (builds_makeOne (hbetween.grows.keeps.directory horigin) hnames hmade)
    · exact hbetween

theorem builds_makeAll (horigin : tree.root.labelAt? origin = some .directory)
    (hnames : ∀ name ∈ names, IsPiece name) {above : List String}
    (habove : ∀ name ∈ above, IsPiece name) : Builds tree (tree.makeAll origin names above).1 := by
  induction above generalizing names with
  | nil =>
    unfold makeAll
    cases hone : tree.makeOne origin names with
    | made after => exact builds_makeOne horigin hnames hone
    | refused => exact .done tree
    | missing => exact builds_again horigin hnames (.done tree) true
  | cons last rest ih =>
    unfold makeAll
    cases hone : tree.makeOne origin names with
    | made after => exact builds_makeOne horigin hnames hone
    | refused => exact .done tree
    | missing =>
      have hupper : ∀ name ∈ (last :: rest).reverse, IsPiece name := fun name hname =>
        habove name (List.mem_reverse.mp hname)
      exact builds_again horigin hnames (ih hupper (List.forall_mem_cons.mp habove).2) _

theorem builds_makeDirectories (settled : tree.Settled) (path : String) :
    Builds tree (tree.makeDirectories path).1 := by
  unfold makeDirectories
  split
  · exact .done tree
  · split
    · exact .done tree
    · refine builds_makeAll (settled.labelAt?_start path) (fun _ => isPiece_of_mem_pieces) ?_
      intro name hname
      exact isPiece_of_mem_pieces (List.mem_filter.mp
        ((List.dropLast_sublist _).subset (List.mem_reverse.mp hname))).1

theorem ordinary_of_write? (settled : tree.Settled) (ordinary : tree.root.Ordinary) {path : String}
    {content : ByteArray} (h : tree.write? path content = some after) : after.root.Ordinary := by
  obtain ⟨parent, name, hopen, rfl, hlookup⟩ := write?_eq_some settled h
  have hname : IsName name ∧ FilePath.IsEntryName name := by
    rcases hlookup with hlookup | hlookup
    · rw [write?, hlookup] at h
      dsimp only at h
      split at h
      · rename_i old hold
        exact (ordinary.names_below hold name List.mem_cons_self).symm
      · cases h
    · have usable := usable_of_lookup hlookup (by simp) (by simp)
      rw [lookup_of_usable usable] at hlookup
      have hleads := leads_of_walk_eq hlookup (by simp) (by simp)
      exact hleads.vacant_name (fun _ => isPiece_of_mem_trail) name (List.getLast?_concat ..)
  exact ordinary.put hopen.1 hname.2 hname.1.2.2 (.file content)

end FileTree

end ApiManual
