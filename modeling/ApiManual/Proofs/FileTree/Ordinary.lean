import ApiManual.Proofs.FilePath.Join
import ApiManual.Proofs.FileTree.Change

/-!
Trees of files and directories alone. Without links a path leads where its steps do, one after the
other, so that the place of a file below a directory is the directory's and the names on the way.
-/
namespace ApiManual

open FileTree

/-- A node without links. The entries of a directory have distinct names that a lookup can
follow. -/
inductive FileNode.Ordinary : FileNode → Prop
  | file (content : ByteArray) : Ordinary (.file content)
  | directory {entries : List (String × FileNode)} (nodup : (entries.map (·.1)).Nodup)
      (names : ∀ entry ∈ entries, FilePath.IsEntryName entry.1)
      (lengths : ∀ entry ∈ entries, ¬ nameLimit < entry.1.utf8ByteSize)
      (children : ∀ entry ∈ entries, Ordinary entry.2) : Ordinary (.directory entries)

theorem FileNode.mem_filesAmong_iff {place : Place} {entries : List (String × FileNode)}
    {file : Place × ByteArray} :
    file ∈ filesAmong place entries ↔
      ∃ entry ∈ entries, file ∈ entry.2.files (place ++ [entry.1]) := by
  induction entries with
  | nil => simp [filesAmong]
  | cons entry rest ih =>
    rw [filesAmong, List.mem_append, ih]
    simp

namespace FileNode.Ordinary

variable {root node : FileNode} {place below : Place}

theorem lookup_eq_some_iff {entries : List (String × FileNode)} {name : String}
    (h : (FileNode.directory entries).Ordinary) :
    entries.lookup name = some node ↔ (name, node) ∈ entries := by
  cases h with
  | directory nodup =>
    refine ⟨fun hnode => ?_, List.lookup_eq_some_of_mem nodup⟩
    obtain ⟨before, after, rfl, -⟩ := List.lookup_eq_some_iff.mp hnode
    exact List.mem_append_right _ List.mem_cons_self

theorem get? (h : root.Ordinary) (hnode : root.get? place = some node) : node.Ordinary := by
  induction place generalizing root with
  | nil =>
    rw [FileNode.get?] at hnode
    exact Option.some.inj hnode ▸ h
  | cons name rest ih =>
    cases root with
    | directory entries =>
      obtain ⟨child, hchild, hrest⟩ := Option.bind_eq_some_iff.mp hnode
      have hmem := h.lookup_eq_some_iff.mp hchild
      cases h with
      | directory nodup names lengths children => exact ih (children _ hmem) hrest
    | _ => cases hnode

theorem labelAt?_ne_link (h : root.Ordinary) (target : String) :
    root.labelAt? place ≠ some (.link target) :=
  fun hlink => nomatch h.get? (labelAt?_eq_link.mp hlink)

theorem names_of_get? (h : root.Ordinary) (hnode : root.get? place = some node) :
    ∀ name ∈ place, FilePath.IsEntryName name ∧ IsName name := by
  induction place generalizing root with
  | nil => exact nofun
  | cons first rest ih =>
    cases root with
    | directory entries =>
      obtain ⟨child, hchild, hrest⟩ := Option.bind_eq_some_iff.mp hnode
      have hmem := h.lookup_eq_some_iff.mp hchild
      cases h with
      | directory nodup names lengths children =>
        have hfirst := names _ hmem
        exact List.forall_mem_cons.mpr
          ⟨⟨hfirst, hfirst.ne_current, hfirst.ne_parent, lengths _ hmem⟩,
            ih (children _ hmem) hrest⟩
    | _ => cases hnode

theorem names_below (h : root.Ordinary) (hnode : root.get? (place ++ below) = some node) :
    ∀ name ∈ below, FilePath.IsEntryName name ∧ IsName name := by
  rw [get?_append] at hnode
  obtain ⟨upper, hupper, hbelow⟩ := Option.bind_eq_some_iff.mp hnode
  exact (h.get? hupper).names_of_get? hbelow

theorem mem_files_iff (h : node.Ordinary) {file : Place × ByteArray} :
    file ∈ node.files place ↔
      ∃ below, file.1 = place ++ below ∧ node.get? below = some (.file file.2) := by
  induction h generalizing place with
  | file content =>
    rw [files, List.mem_singleton]
    constructor
    · rintro rfl
      exact ⟨[], (List.append_nil place).symm, rfl⟩
    · rintro ⟨below, hplace, hfile⟩
      cases below with
      | nil =>
        cases hfile
        exact Prod.ext (hplace.trans (List.append_nil place)) rfl
      | cons name rest => cases hfile
  | @directory entries nodup names lengths children ih =>
    have hordinary := FileNode.Ordinary.directory nodup names lengths children
    rw [files, mem_filesAmong_iff]
    constructor
    · rintro ⟨entry, hentry, hfile⟩
      obtain ⟨below, hplace, hbelow⟩ := (ih entry hentry).mp hfile
      refine ⟨entry.1 :: below, by rw [hplace, List.append_assoc]; rfl, ?_⟩
      rw [FileNode.get?, hordinary.lookup_eq_some_iff.mpr hentry]
      exact hbelow
    · rintro ⟨below, hplace, hfile⟩
      cases below with
      | nil => cases hfile
      | cons name rest =>
        obtain ⟨child, hchild, hrest⟩ := Option.bind_eq_some_iff.mp hfile
        have hmem := hordinary.lookup_eq_some_iff.mp hchild
        exact ⟨(name, child), hmem, (ih _ hmem).mpr
          ⟨rest, by rw [hplace, List.append_assoc]; rfl, hrest⟩⟩

end FileNode.Ordinary

def FilePath.Step.follow (place : Place) : FilePath.Step → Place
  | root => []
  | current => place
  | parent => place.dropLast
  | name text => place ++ [text]

theorem FilePath.foldl_follow_name (place : Place) (names : List String) :
    (names.map Step.name).foldl Step.follow place = place ++ names := by
  induction names generalizing place with
  | nil => exact (List.append_nil place).symm
  | cons name rest ih =>
    rw [List.map_cons, List.foldl_cons, ih, Step.follow, List.append_assoc]
    rfl

namespace FileTree

open FilePath (steps stepOf pieces joinAll IsEntryName)

def placeOf (tree : FileTree) (path : String) : Place :=
  (steps path).foldl FilePath.Step.follow tree.current

theorem placeOf_joinAll (tree : FileTree) (path : String) {names : List String}
    (h : ∀ name ∈ names, IsEntryName name) :
    tree.placeOf (joinAll path names) = tree.placeOf path ++ names := by
  rw [placeOf, FilePath.steps_joinAll h, List.foldl_append, FilePath.foldl_follow_name]
  rfl

theorem placeOf_eq_trail (tree : FileTree) (path : String) :
    tree.placeOf path =
      (((trail path).filter (· ≠ ".")).map stepOf).foldl FilePath.Step.follow
        (tree.start path) := by
  have htrail : (trail path).filter (· ≠ ".") = (pieces path).filter (· ≠ ".") := by
    rw [trail]
    split
    · rw [List.filter_append]
      exact List.append_nil _
    · rfl
  rw [htrail, placeOf, steps, start]
  split_ifs <;> rfl

variable {tree : FileTree} {place mid : Place} {names rest : List String} {links : Nat}
  {result : Lookup}

namespace Leads

variable {root : FileNode} {through : Bool}

/-- Without links a walk takes one step for each name. -/
theorem eq_foldl (h : Leads root through links place names (.present mid))
    (ordinary : root.Ordinary) :
    mid = ((names.filter (· ≠ ".")).map stepOf).foldl FilePath.Step.follow place := by
  generalize hend : Lookup.present mid = result at h
  have hname : ∀ {place : Place} {name : String}, IsName name →
      (([name].filter (· ≠ ".")).map stepOf).foldl FilePath.Step.follow place =
        place ++ [name] := by
    intro place name h
    rw [List.filter_cons_of_pos (by simpa using h.1), List.filter_nil, List.map_singleton, stepOf,
      if_neg h.2.1]
    rfl
  induction h with
  | here => exact Lookup.present.inj hend
  | current _ ih => exact ih hend
  | parent _ ih => exact ih hend
  | vacant => cases hend
  | file h => exact (Lookup.present.inj hend).trans (hname h).symm
  | @directory links place name rest result h _ _ ih =>
    rw [← List.singleton_append, List.filter_append, List.map_append, List.foldl_append, hname h]
    exact ih hend
  | link _ hlabel _ => exact absurd hlabel (ordinary.labelAt?_ne_link _)
  | follow _ hlabel _ _ _ => exact absurd hlabel (ordinary.labelAt?_ne_link _)

theorem append (h : Leads root through links place names (.present mid)) (ordinary : root.Ordinary)
    (hmid : root.labelAt? mid = some .directory)
    (hrest : Leads root through links mid rest result) :
    Leads root through links place (names ++ rest) result := by
  generalize hend : Lookup.present mid = found at h
  induction h with
  | here => exact Lookup.present.inj hend ▸ hrest
  | current _ ih => exact .current (ih hrest hend)
  | parent _ ih => exact .parent (ih hrest hend)
  | vacant => cases hend
  | file _ hlabel =>
    cases hend
    rw [hlabel] at hmid
    cases hmid
  | directory hname hlabel _ ih => exact .directory hname hlabel (ih hrest hend)
  | link _ hlabel _ => exact absurd hlabel (ordinary.labelAt?_ne_link _)
  | follow _ hlabel _ _ _ => exact absurd hlabel (ordinary.labelAt?_ne_link _)

theorem of_current {front : List String}
    (h : Leads root through links place (front ++ "." :: rest) result) (ordinary : root.Ordinary)
    (hrest : rest ≠ []) : Leads root through links place (front ++ rest) result := by
  generalize hnames : front ++ "." :: rest = names at h
  induction front generalizing place names with
  | nil =>
    subst hnames
    generalize hfirst : "." = first at h
    generalize hall : first :: rest = names at h
    cases h with
    | here => cases hall
    | current h => cases hall; exact h
    | parent => cases hall; exact absurd hfirst (by decide)
    | vacant hname | file hname | directory hname | link hname | follow hname =>
      cases hall
      exact absurd hfirst.symm hname.1
  | cons name front ih =>
    have hne : front ++ "." :: rest ≠ [] := by simp
    cases h with
    | here => cases hnames
    | current h => cases hnames; exact .current (ih _ rfl h)
    | parent h => cases hnames; exact .parent (ih _ rfl h)
    | vacant => exact absurd (List.cons.inj hnames).2 hne
    | file => exact absurd (List.cons.inj hnames).2 hne
    | directory hname hlabel h => cases hnames; exact .directory hname hlabel (ih _ rfl h)
    | link => exact absurd (List.cons.inj hnames).2 hne
    | follow _ hlabel => exact absurd hlabel (ordinary.labelAt?_ne_link _)

theorem of_get? {node : FileNode} (hnode : root.get? (place ++ names) = some node)
    (hnames : ∀ name ∈ names, IsName name) (ordinary : root.Ordinary) :
    Leads root through links place names (.present (place ++ names)) := by
  induction names generalizing place with
  | nil => exact (List.append_nil place).symm ▸ .here links place
  | cons name rest ih =>
    obtain ⟨hname, hrest⟩ := List.forall_mem_cons.mp hnames
    rw [← List.singleton_append, ← List.append_assoc] at hnode ⊢
    obtain ⟨upper, hupper, hbelow⟩ :=
      Option.bind_eq_some_iff.mp ((root.get?_append _ rest).symm.trans hnode)
    cases upper with
    | file content =>
      cases rest with
      | nil =>
        rw [List.append_nil, List.append_nil]
        exact .file hname (FileNode.labelAt?_eq_file.mpr hupper)
      | cons next rest => cases hbelow
    | link target =>
      exact absurd (FileNode.labelAt?_eq_link.mpr hupper) (ordinary.labelAt?_ne_link _)
    | directory entries =>
      exact .directory hname (FileNode.labelAt?_eq_directory.mpr ⟨entries, hupper⟩) (ih hnode hrest)

end Leads

variable {path : String}

theorem lookup_eq_placeOf (ordinary : tree.root.Ordinary) {through : Bool}
    (h : tree.lookup path through = .present place) : place = tree.placeOf path := by
  have usable := usable_of_lookup h nofun nofun
  rw [lookup_of_usable usable] at h
  rw [placeOf_eq_trail]
  exact (leads_of_walk_eq h nofun nofun).eq_foldl ordinary

theorem lookup_joinAll (ordinary : tree.root.Ordinary) (h : tree.lookup path = .present place)
    {below : Place} {node : FileNode} (hnode : tree.root.get? (place ++ below) = some node)
    (hlimits : isWithinLimits (joinAll path below) = true) :
    tree.lookup (joinAll path below) = .present (place ++ below) := by
  by_cases hbelow : below = []
  · subst hbelow
    rw [List.append_nil]
    exact h
  have hnames := ordinary.names_below hnode
  have hentries : ∀ name ∈ below, IsEntryName name := fun name hname => (hnames name hname).1
  have usable := usable_of_lookup h nofun nofun
  have hplace : tree.root.labelAt? place = some .directory := by
    obtain ⟨upper, hupper, hrest⟩ :=
      Option.bind_eq_some_iff.mp ((tree.root.get?_append place below).symm.trans hnode)
    obtain ⟨name, rest, rfl⟩ := List.exists_cons_of_ne_nil hbelow
    cases upper with
    | directory entries => exact FileNode.labelAt?_eq_directory.mpr ⟨entries, hupper⟩
    | _ => cases hrest
  rw [lookup_of_usable usable] at h
  have hleads := (leads_of_walk_eq h nofun nofun).append ordinary hplace
    (.of_get? hnode (fun name hname => (hnames name hname).2) ordinary)
  have husable : Usable (joinAll path below) := by
    refine ⟨fun hempty => ?_, hlimits⟩
    have hpieces : pieces (joinAll path below) = pieces path ++ below :=
      FilePath.pieces_joinAll hentries
    rw [hempty] at hpieces
    exact hbelow (List.append_eq_nil_iff.mp hpieces.symm).2
  rw [lookup_of_usable husable, FilePath.trail_joinAll hentries hbelow, start,
    FilePath.isAbsolute_joinAll hentries]
  apply walk_eq_of_leads
  rw [trail] at hleads
  split at hleads
  · rw [List.append_assoc] at hleads
    exact hleads.of_current ordinary hbelow
  · exact hleads

theorem lookup_stopping (ordinary : tree.root.Ordinary) (h : tree.lookup path = .present place) :
    tree.lookup path false = .present place := by
  have usable := usable_of_lookup h nofun nofun
  rw [lookup_of_usable usable] at h ⊢
  exact walk_eq_of_leads ((leads_of_walk_eq h nofun nofun).stopping_of_notLink
    fun _ target _ => ordinary.labelAt?_ne_link target)

end FileTree

end ApiManual
