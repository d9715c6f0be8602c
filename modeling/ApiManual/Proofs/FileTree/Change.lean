import ApiManual.Proofs.FileTree.Walk

/-!
What making directories and writing a file changes. A tree only gains nodes by it, and where a file
was written nothing but its own place is different.
-/
namespace ApiManual.FileTree

open FileNode

variable {tree tree' : FileTree} {origin : Place} {names : List String}

/-- The directory that relative paths begin in exists. -/
def Settled (tree : FileTree) : Prop := tree.root.labelAt? tree.current = some .directory

structure Grows (tree tree' : FileTree) : Prop where
  keeps : Keeps tree.root tree'.root
  current : tree'.current = tree.current

theorem Grows.refl (tree : FileTree) : Grows tree tree := ⟨.refl _, rfl⟩

theorem Grows.trans {first second third : FileTree} (h : Grows first second)
    (h' : Grows second third) : Grows first third :=
  ⟨h.keeps.trans h'.keeps, h'.current.trans h.current⟩

theorem Grows.settled (h : Grows tree tree') (settled : tree.Settled) : tree'.Settled := by
  rw [Settled, h.current]
  exact h.keeps.directory settled

theorem Grows.start_eq (h : Grows tree tree') (path : String) :
    tree'.start path = tree.start path := by
  rw [FileTree.start, FileTree.start, h.current]

theorem Settled.labelAt?_start (settled : tree.Settled) (path : String) :
    tree.root.labelAt? (tree.start path) = some .directory := by
  rw [FileTree.start]
  split
  · exact labelAt?_nil settled
  · exact settled

/-- A path that is not empty and neither too long nor barred by a null character. -/
def Usable (path : String) : Prop := path ≠ "" ∧ isWithinLimits path = true

theorem lookup_of_usable {path : String} (usable : Usable path) (through : Bool) :
    tree.lookup path through = walk tree.root through linkLimit (tree.start path) (trail path) := by
  rw [lookup, if_neg usable.1, if_neg (by simp [usable.2])]

theorem usable_of_lookup {path : String} {through : Bool} {result : Lookup}
    (h : tree.lookup path through = result) (hmissing : result ≠ .missing)
    (hbarred : result ≠ .barred) : Usable path := by
  have hempty : path ≠ "" := by
    rintro rfl
    exact hmissing h.symm
  refine ⟨hempty, ?_⟩
  by_contra hlimits
  rw [lookup, if_neg hempty, if_pos (by simpa using hlimits)] at h
  exact hbarred h.symm

def IsLink (tree : FileTree) (path : String) : Prop :=
  ∃ place target, tree.lookup path false = .present place ∧
    tree.root.get? place = some (.link target)

theorem notLink_of_not_isLink {path : String} (usable : Usable path) (h : ¬ tree.IsLink path) :
    Leads.NotLink tree.root (walk tree.root false linkLimit (tree.start path) (trail path)) := by
  intro place target hplace hlabel
  exact h ⟨place, target, (lookup_of_usable usable false).trans hplace, labelAt?_eq_link.mp hlabel⟩

theorem isDirectoryAt_iff :
    tree.isDirectoryAt origin names = true ↔
      ∃ place, Leads tree.root true linkLimit origin names (.present place) ∧
        tree.root.labelAt? place = some .directory := by
  constructor
  · intro h
    rw [isDirectoryAt] at h
    split at h
    · rename_i place hwalk
      split at h
      · rename_i entries hget
        exact ⟨place, leads_of_walk_eq hwalk nofun nofun, labelAt?_eq_directory.mpr ⟨entries, hget⟩⟩
      · cases h
    · cases h
  · rintro ⟨place, hleads, hlabel⟩
    obtain ⟨entries, hget⟩ := labelAt?_eq_directory.mp hlabel
    simp [isDirectoryAt, walk_eq_of_leads hleads, hget]

theorem Grows.isDirectoryAt (h : Grows tree tree')
    (there : tree.isDirectoryAt origin names = true) : tree'.isDirectoryAt origin names = true := by
  obtain ⟨place, hleads, hlabel⟩ := isDirectoryAt_iff.mp there
  exact isDirectoryAt_iff.mpr
    ⟨place, hleads.of_keeps h.keeps (.inl rfl), h.keeps.directory hlabel⟩

theorem makeOne_eq_made (horigin : tree.root.labelAt? origin = some .directory)
    (h : tree.makeOne origin names = .made tree') :
    Grows tree tree' ∧ tree'.isDirectoryAt origin names = true := by
  rw [makeOne] at h
  split at h
  · rename_i place hwalk
    cases h
    have hleads := leads_of_walk_eq hwalk nofun nofun
    obtain ⟨parent, name, rfl, hparent, hnone⟩ := hleads.exists_parent horigin rfl
    have hkeeps : Keeps tree.root (tree.root.put (parent ++ [name]) (.directory [])) :=
      keeps_put_of_vacant hparent (labelAt?_eq_none.mp hnone) isLeaf_empty
    have hlabel : (tree.root.put (parent ++ [name]) (.directory [])).labelAt? (parent ++ [name]) =
        some .directory := by
      rw [labelAt?_put hparent (by simp [labelAt?_eq_none.mp hnone]) isLeaf_empty, if_pos rfl]
      rfl
    have hthrough := hleads.through_of_notLink (fun _ _ hend => nomatch hend)
    exact ⟨⟨hkeeps, rfl⟩, isDirectoryAt_iff.mpr
      ⟨_, hthrough.of_keeps hkeeps (.inr ⟨rfl, .inl hlabel⟩), hlabel⟩⟩
  · cases h
  · cases h

theorem makeOne_of_isDirectoryAt (there : tree.isDirectoryAt origin names = true) :
    tree.makeOne origin names = .refused := by
  obtain ⟨place, hleads, hlabel⟩ := isDirectoryAt_iff.mp there
  obtain ⟨result, hstop⟩ := hleads.exists_stopping
  rw [makeOne, walk_eq_of_leads hstop]
  cases result with
  | present => rfl
  | barred => rfl
  | vacant place' =>
    -- the walk that follows a link at the end would end there as well
    cases hleads.unique (hstop.through_of_notLink fun _ _ hend => nomatch hend)
  | missing =>
    cases hleads.unique (hstop.through_of_notLink fun _ _ hend => nomatch hend)

theorem makeAll_of_isDirectoryAt (there : tree.isDirectoryAt origin names = true)
    (above : List String) : tree.makeAll origin names above = (tree, true) := by
  unfold makeAll
  rw [makeOne_of_isDirectoryAt there, there]

/-- The tree only gains nodes, and the directory is there if the answer says so. -/
def Made (tree : FileTree) (origin : Place) (names : List String) (result : FileTree × Bool) :
    Prop :=
  Grows tree result.1 ∧ (result.2 = true → result.1.isDirectoryAt origin names = true)

theorem made_of_made {after : FileTree} (horigin : tree.root.labelAt? origin = some .directory)
    (h : tree.makeOne origin names = .made after) : Made tree origin names (after, true) :=
  (makeOne_eq_made horigin h).imp_right fun hthere _ => hthere

theorem made_again (horigin : tree.root.labelAt? origin = some .directory) {between : FileTree}
    (hbetween : Grows tree between) (done : Bool) :
    Made tree origin names
      (if !done then (between, false)
      else
        match between.makeOne origin names with
        | .made after => (after, true)
        | _ => (between, between.isDirectoryAt origin names)) := by
  split
  · exact ⟨hbetween, nofun⟩
  · split
    · rename_i after hmade
      obtain ⟨hafter, hthere⟩ := makeOne_eq_made (hbetween.keeps.directory horigin) hmade
      exact ⟨hbetween.trans hafter, fun _ => hthere⟩
    · exact ⟨hbetween, id⟩

theorem made_makeAll (horigin : tree.root.labelAt? origin = some .directory)
    (above : List String) : Made tree origin names (tree.makeAll origin names above) := by
  induction above generalizing names with
  | nil =>
    unfold makeAll
    cases hone : tree.makeOne origin names with
    | made after => exact made_of_made horigin hone
    | refused => exact ⟨.refl tree, id⟩
    | missing => exact made_again horigin (.refl tree) true
  | cons last rest ih =>
    unfold makeAll
    cases hone : tree.makeOne origin names with
    | made after => exact made_of_made horigin hone
    | refused => exact ⟨.refl tree, id⟩
    | missing => exact made_again horigin ih.1 _

/-- There is a directory at the path. The empty path stands for the one that paths begin in. -/
def IsThere (tree : FileTree) (path : String) : Prop :=
  path = "" ∨ isWithinLimits path = true ∧
    tree.isDirectoryAt (tree.start path) (FilePath.pieces path) = true

theorem Grows.isThere {path : String} (h : Grows tree tree') (there : tree.IsThere path) :
    tree'.IsThere path := by
  refine there.imp_right fun hthere => ⟨hthere.1, ?_⟩
  rw [h.start_eq]
  exact h.isDirectoryAt hthere.2

theorem grows_makeDirectories (settled : tree.Settled) (path : String) :
    Grows tree (tree.makeDirectories path).1 := by
  unfold makeDirectories
  split
  · exact .refl tree
  · split
    · exact .refl tree
    · exact (made_makeAll (settled.labelAt?_start path) _).1

theorem isThere_of_makeDirectories (settled : tree.Settled) {path : String}
    (h : tree.makeDirectories path = (tree', true)) : tree'.IsThere path := by
  unfold makeDirectories at h
  split at h
  · rename_i hempty
    exact .inl hempty
  · split at h
    · cases h
    · rename_i hlimits
      have hmade : Made tree (tree.start path) (FilePath.pieces path) (tree', true) :=
        h ▸ made_makeAll (settled.labelAt?_start path) _
      refine .inr ⟨by simpa using hlimits, ?_⟩
      rw [hmade.1.start_eq]
      exact hmade.2 rfl

theorem makeDirectories_of_isThere {path : String} (there : tree.IsThere path) :
    tree.makeDirectories path = (tree, true) := by
  unfold makeDirectories
  rcases there with hempty | ⟨hlimits, hthere⟩
  · rw [if_pos hempty]
  · split
    · rfl
    · rw [if_neg (by simp [hlimits]), makeAll_of_isDirectoryAt hthere]

theorem write?_eq_some (settled : tree.Settled) {path : String} {content : ByteArray}
    (h : tree.write? path content = some tree') :
    ∃ parent name, tree.root.Open parent name ∧
      tree' = tree.put (parent ++ [name]) (.file content) ∧
      (tree.lookup path = .present (parent ++ [name]) ∨
        tree.lookup path = .vacant (parent ++ [name])) := by
  rw [write?] at h
  cases hlookup : tree.lookup path with
  | present place =>
    rw [hlookup] at h
    dsimp only at h
    split at h
    · rename_i old hold
      cases h
      rcases List.eq_nil_or_concat place with rfl | ⟨parent, name, rfl⟩
      · have hroot := labelAt?_nil settled
        rw [labelAt?_eq_file.mpr hold] at hroot
        cases hroot
      · rw [List.concat_eq_append] at hold ⊢
        refine ⟨parent, name, ⟨labelAt?_above hold, ?_⟩, rfl, .inl rfl⟩
        intro node hnode
        exact ⟨old, Option.some.inj (hnode.symm.trans hold)⟩
    · cases h
  | vacant place =>
    rw [hlookup] at h
    cases h
    have usable := usable_of_lookup hlookup nofun nofun
    rw [lookup_of_usable usable] at hlookup
    obtain ⟨parent, name, rfl, hparent, hnone⟩ :=
      (leads_of_walk_eq hlookup nofun nofun).exists_parent (settled.labelAt?_start path) rfl
    refine ⟨parent, name, ⟨hparent, ?_⟩, rfl, .inr rfl⟩
    simp [labelAt?_eq_none.mp hnone]
  | missing => simp [hlookup] at h
  | barred => simp [hlookup] at h

/-- A file with this content is at a place where there was room for one, the path leads to it, and
all other places are as before. -/
structure WrittenAt (tree tree' : FileTree) (path : String) (content : ByteArray) (place : Place) :
    Prop where
  grows : Grows tree tree'
  lookup : tree'.lookup path = .present place
  labelAt? (other : Place) : tree'.root.labelAt? other =
    if other = place then some (.file content) else tree.root.labelAt? other
  /-- Where the path itself is no link, the place has its last name. -/
  getLast? {last : String} : ¬ tree.IsLink path → (trail path).getLast? = some last →
    last ≠ "." → last ≠ ".." → place.getLast? = some last

theorem exists_writtenAt (settled : tree.Settled) {path : String} {content : ByteArray}
    (h : tree.write? path content = some tree') :
    ∃ place, WrittenAt tree tree' path content place := by
  obtain ⟨parent, name, hopen, rfl, hlookup⟩ := write?_eq_some settled h
  have hput := labelAt?_put_of_open hopen (isLeaf_file content)
  have hkeeps := keeps_put_file hopen content
  have usable : Usable path :=
    hlookup.elim (usable_of_lookup · nofun nofun) (usable_of_lookup · nofun nofun)
  rw [lookup_of_usable usable] at hlookup
  have hleads : Leads tree.root true linkLimit (tree.start path) (trail path)
      (walk tree.root true linkLimit (tree.start path) (trail path)) := by
    rcases hlookup with hlookup | hlookup <;> exact hlookup ▸ leads_of_walk_eq hlookup nofun nofun
  have hfile : (tree.root.put (parent ++ [name]) (.file content)).labelAt? (parent ++ [name]) =
      some (.file content) := by
    rw [hput, if_pos rfl]
    rfl
  refine ⟨parent ++ [name], ⟨hkeeps, rfl⟩, ?_, hput, ?_⟩
  · rw [lookup_of_usable usable]
    exact walk_eq_of_leads (hleads.of_keeps hkeeps
      (hlookup.imp_right fun hvacant => ⟨hvacant, .inr ⟨content, hfile⟩⟩))
  · intro last hlink hlast hdot hdots
    exact (hleads.stopping_of_notLink (notLink_of_not_isLink usable hlink)).getLast?_eq hlast hdot
      hdots hlookup

theorem WrittenAt.isLink {path other : String} {content : ByteArray} {place : Place}
    (written : WrittenAt tree tree' path content place) (h : tree'.IsLink other) :
    tree.IsLink other := by
  obtain ⟨linked, target, hlookup, hget⟩ := h
  have hback : ∀ {place : Place} {label : Label}, tree'.root.labelAt? place = some label →
      (∀ content, label ≠ .file content) → tree.root.labelAt? place = some label := by
    intro place label hlabel hne
    rw [written.labelAt?] at hlabel
    split at hlabel
    · cases hlabel
      exact absurd rfl (hne content)
    · exact hlabel
  have usable := usable_of_lookup hlookup nofun nofun
  rw [lookup_of_usable usable, written.grows.start_eq] at hlookup
  have hlabel := labelAt?_eq_link.mpr hget
  have hleads : Leads tree.root false linkLimit (tree.start other) (trail other)
      (.present linked) :=
    (leads_of_walk_eq hlookup nofun nofun).of_link hlabel (fun hlabel => hback hlabel nofun)
      (fun hlabel => hback hlabel nofun)
  refine ⟨linked, target, ?_, labelAt?_eq_link.mp (hback hlabel nofun)⟩
  rw [lookup_of_usable usable, walk_eq_of_leads hleads]

theorem content?_eq {path : String} {place : Place} {content : ByteArray}
    (hlookup : tree.lookup path = .present place)
    (hlabel : tree.root.labelAt? place = some (.file content)) :
    tree.content? path = some content := by
  rw [content?, node?, hlookup]
  simp [labelAt?_eq_file.mp hlabel]

theorem text?_eq {path : String} {place : Place} {text : String}
    (hlookup : tree.lookup path = .present place)
    (hlabel : tree.root.labelAt? place = some (.file text.toUTF8)) :
    tree.text? path = some text := by
  have hvalid : text.toUTF8.IsValidUTF8 := text.isValidUTF8
  rw [text?, content?_eq hlookup hlabel, Option.bind_some]
  exact dif_pos hvalid

theorem Grows.lookup_eq {path : String} {through : Bool} {place : Place} (h : Grows tree tree')
    (hlookup : tree.lookup path through = .present place) :
    tree'.lookup path through = .present place := by
  have usable := usable_of_lookup hlookup nofun nofun
  rw [lookup_of_usable usable] at hlookup
  rw [lookup_of_usable usable, h.start_eq]
  exact walk_eq_of_leads ((leads_of_walk_eq hlookup nofun nofun).of_keeps h.keeps (.inl rfl))

theorem Grows.isLink {path : String} (h : Grows tree tree') (hlink : tree.IsLink path) :
    tree'.IsLink path := by
  obtain ⟨place, target, hlookup, hget⟩ := hlink
  exact ⟨place, target, h.lookup_eq hlookup,
    labelAt?_eq_link.mp (h.keeps.link (labelAt?_eq_link.mpr hget))⟩

end ApiManual.FileTree
