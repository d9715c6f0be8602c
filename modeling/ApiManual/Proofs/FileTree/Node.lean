import ApiManual.FileTree
import ApiManual.Proofs.Lookup

/-!
What is at the places of a tree, and what putting a node without entries at one of them changes. A
label says what is at a place and leaves out the entries of a directory.
-/
namespace ApiManual.FileNode

inductive Label where
  | file (content : ByteArray)
  | link (target : String)
  | directory

def label : FileNode → Label
  | file content => .file content
  | link target => .link target
  | directory _ => .directory

def IsLeaf (node : FileNode) : Prop := ∀ name rest, node.get? (name :: rest) = none

def labelAt? (root : FileNode) (place : Place) : Option Label := (root.get? place).map label

variable {root : FileNode} {parent place : Place} {name : String}

theorem isLeaf_file (content : ByteArray) : (file content).IsLeaf := fun _ _ => rfl

theorem isLeaf_empty : (directory []).IsLeaf := fun _ _ => rfl

theorem labelAt?_eq_none : root.labelAt? place = none ↔ root.get? place = none := by
  rw [labelAt?, Option.map_eq_none_iff]

theorem labelAt?_eq_file {content : ByteArray} :
    root.labelAt? place = some (.file content) ↔ root.get? place = some (file content) := by
  rw [labelAt?, Option.map_eq_some_iff]
  constructor
  · rintro ⟨node, hnode, hlabel⟩
    cases node <;> cases hlabel
    exact hnode
  · exact fun h => ⟨_, h, rfl⟩

theorem labelAt?_eq_link {target : String} :
    root.labelAt? place = some (.link target) ↔ root.get? place = some (link target) := by
  rw [labelAt?, Option.map_eq_some_iff]
  constructor
  · rintro ⟨node, hnode, hlabel⟩
    cases node <;> cases hlabel
    exact hnode
  · exact fun h => ⟨_, h, rfl⟩

theorem labelAt?_eq_directory :
    root.labelAt? place = some .directory ↔
      ∃ entries, root.get? place = some (directory entries) := by
  rw [labelAt?, Option.map_eq_some_iff]
  constructor
  · rintro ⟨node, hnode, hlabel⟩
    cases node <;> cases hlabel
    exact ⟨_, hnode⟩
  · exact fun ⟨_, h⟩ => ⟨_, h, rfl⟩

theorem get?_append (root : FileNode) (place below : Place) :
    root.get? (place ++ below) = (root.get? place).bind (get? · below) := by
  induction place generalizing root with
  | nil => cases below <;> simp [get?]
  | cons name rest ih =>
    cases root with
    | directory entries =>
      rw [List.cons_append, get?, get?, Option.bind_assoc]
      exact congrArg _ (funext ih)
    | _ => rfl

theorem labelAt?_above {node : FileNode} (h : root.get? (parent ++ [name]) = some node) :
    root.labelAt? parent = some .directory := by
  rw [get?_append] at h
  obtain ⟨upper, hupper, hnode⟩ := Option.bind_eq_some_iff.mp h
  cases upper with
  | directory entries => exact labelAt?_eq_directory.mpr ⟨entries, hupper⟩
  | _ => cases hnode

theorem labelAt?_dropLast (h : root.labelAt? place = some .directory) :
    root.labelAt? place.dropLast = some .directory := by
  rcases List.eq_nil_or_concat' place with rfl | ⟨parent, name, rfl⟩
  · exact h
  · obtain ⟨entries, hentries⟩ := labelAt?_eq_directory.mp h
    rw [List.dropLast_concat]
    exact labelAt?_above hentries

theorem labelAt?_nil (h : root.labelAt? place = some .directory) :
    root.labelAt? [] = some .directory := by
  cases root with
  | directory entries => rfl
  | _ =>
    cases place with
    | nil => cases h
    | cons name rest => cases h

theorem lookup_putEntry (name other : String) (node : FileNode)
    (entries : List (String × FileNode)) :
    (putEntry name node entries).lookup other =
      if other = name then some node else entries.lookup other := by
  induction entries with
  | nil => exact List.lookup_cons_eq_ite name other node []
  | cons entry rest ih =>
    obtain ⟨first, old⟩ := entry
    rw [putEntry, List.lookup_cons_eq_ite first]
    by_cases hfirst : first = name
    · rw [if_pos hfirst, List.lookup_cons_eq_ite, hfirst]
      split_ifs <;> rfl
    · rw [if_neg hfirst, List.lookup_cons_eq_ite, ih]
      by_cases hother : other = name
      · rw [if_pos hother, if_neg (hother ▸ Ne.symm hfirst), if_pos hother]
      · rw [if_neg hother, if_neg hother]

theorem put_singleton (entries : List (String × FileNode)) (name : String) (new : FileNode) :
    (directory entries).put [name] new = directory (putEntry name new entries) := by
  rw [put]
  cases entries.lookup name <;> rfl

/-- A leaf that is put into a directory where there is nothing or a leaf changes no other place. -/
theorem labelAt?_put {new : FileNode} (hparent : root.labelAt? parent = some .directory)
    (hold : ∀ old, root.get? (parent ++ [name]) = some old → old.IsLeaf) (hnew : new.IsLeaf)
    (other : Place) :
    (root.put (parent ++ [name]) new).labelAt? other =
      if other = parent ++ [name] then some new.label else root.labelAt? other := by
  induction parent generalizing root other with
  | nil =>
    obtain ⟨entries, hentries⟩ := labelAt?_eq_directory.mp hparent
    cases hentries
    rw [List.nil_append, put_singleton]
    match other with
    | [] => rfl
    | [first] =>
      simp only [labelAt?, get?, lookup_putEntry, List.cons.injEq, and_true]
      split_ifs <;> simp
    | first :: second :: rest =>
      simp only [labelAt?, get?, lookup_putEntry, List.cons.injEq, reduceCtorEq, and_false,
        if_false]
      by_cases hfirst : first = name
      · subst hfirst
        rw [if_pos rfl, Option.bind_some, hnew second rest]
        cases hold' : entries.lookup first with
        | none => rfl
        | some old =>
          rw [Option.bind_some, hold old (by simp [get?, hold']) second rest]
      · rw [if_neg hfirst]
  | cons upper parent ih =>
    obtain ⟨entries, rfl⟩ : ∃ entries, root = directory entries :=
      match root, hparent with
      | directory entries, _ => ⟨entries, rfl⟩
    cases hchild : entries.lookup upper with
    | none => simp [labelAt?, get?, hchild] at hparent
    | some child =>
      have hput : (directory entries).put (upper :: parent ++ [name]) new =
          directory (putEntry upper (child.put (parent ++ [name]) new) entries) := by
        rw [List.cons_append, put]
        simp only [hchild]
      rw [hput]
      match other with
      | [] => rfl
      | first :: rest =>
        simp only [labelAt?, get?, lookup_putEntry, List.cons_append, List.cons.injEq]
        by_cases hfirst : first = upper
        · subst hfirst
          simp only [hchild, if_true, Option.bind_some, true_and]
          apply ih
          · simpa [labelAt?, get?, hchild] using hparent
          · intro old h
            exact hold old (by simpa [get?, hchild] using h)
        · simp only [hfirst, if_false, false_and]

/-- Directories and links stay what they are, and a file stays a file. -/
structure Keeps (root root' : FileNode) : Prop where
  directory {place : Place} :
    root.labelAt? place = some .directory → root'.labelAt? place = some .directory
  link {place : Place} {target : String} :
    root.labelAt? place = some (.link target) → root'.labelAt? place = some (.link target)
  file {place : Place} {content : ByteArray} :
    root.labelAt? place = some (.file content) →
      ∃ content', root'.labelAt? place = some (.file content')

theorem Keeps.refl (root : FileNode) : Keeps root root := ⟨id, id, fun h => ⟨_, h⟩⟩

theorem Keeps.trans {first second third : FileNode} (h : Keeps first second)
    (h' : Keeps second third) : Keeps first third where
  directory hlabel := h'.directory (h.directory hlabel)
  link hlabel := h'.link (h.link hlabel)
  file hlabel := (h.file hlabel).elim fun _ hlabel' => h'.file hlabel'

/-- A place where a file can be put: in a directory, and free or taken by a file. -/
def Open (root : FileNode) (parent : Place) (name : String) : Prop :=
  root.labelAt? parent = some .directory ∧
    ∀ old, root.get? (parent ++ [name]) = some old → ∃ content, old = file content

theorem labelAt?_put_of_open (h : root.Open parent name) {new : FileNode} (hnew : new.IsLeaf)
    (other : Place) :
    (root.put (parent ++ [name]) new).labelAt? other =
      if other = parent ++ [name] then some new.label else root.labelAt? other := by
  refine labelAt?_put h.1 (fun old hold => ?_) hnew other
  obtain ⟨content, rfl⟩ := h.2 old hold
  exact isLeaf_file content

theorem Open.label_eq (h : root.Open parent name) {label : Label}
    (hlabel : root.labelAt? (parent ++ [name]) = some label) :
    ∃ content, label = .file content := by
  obtain ⟨node, hnode, rfl⟩ := Option.map_eq_some_iff.mp hlabel
  obtain ⟨content, rfl⟩ := h.2 node hnode
  exact ⟨content, rfl⟩

theorem keeps_put_file (h : root.Open parent name) (content : ByteArray) :
    Keeps root (root.put (parent ++ [name]) (.file content)) := by
  have hput := labelAt?_put_of_open h (isLeaf_file content)
  have hother : ∀ {place : Place} {label : Label}, root.labelAt? place = some label →
      (∀ content, label ≠ .file content) → place ≠ parent ++ [name] := by
    rintro place label hlabel hne rfl
    obtain ⟨content, rfl⟩ := h.label_eq hlabel
    exact hne content rfl
  constructor
  · intro place hlabel
    rw [hput, if_neg (hother hlabel nofun), hlabel]
  · intro place target hlabel
    rw [hput, if_neg (hother hlabel nofun), hlabel]
  · intro place content' hlabel
    rw [hput]
    split
    · exact ⟨content, rfl⟩
    · exact ⟨content', hlabel⟩

theorem keeps_put_of_vacant {new : FileNode} (hparent : root.labelAt? parent = some .directory)
    (hnone : root.get? (parent ++ [name]) = none) (hnew : new.IsLeaf) :
    Keeps root (root.put (parent ++ [name]) new) := by
  have hold : ∀ old, root.get? (parent ++ [name]) = some old → ∃ content, old = file content := by
    simp [hnone]
  have hput := labelAt?_put_of_open ⟨hparent, hold⟩ hnew
  have hsame : ∀ {place : Place} {label : Label}, root.labelAt? place = some label →
      (root.put (parent ++ [name]) new).labelAt? place = some label := by
    intro place label hlabel
    have hne : place ≠ parent ++ [name] := by
      rintro rfl
      rw [labelAt?_eq_none.mpr hnone] at hlabel
      cases hlabel
    rw [hput, if_neg hne, hlabel]
  exact ⟨hsame, hsame, fun hlabel => ⟨_, hsame hlabel⟩⟩

end ApiManual.FileNode
