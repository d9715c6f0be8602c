import ApiManual.FragmentStore.Discovery
import ApiManual.Proofs.FileTree.Ordinary

/-!
What the search below a root finds. In a tree without links it is all files whose name is that of a
fragment file, each under the root's path and the names on the way to it.
-/
namespace ApiManual.FragmentStore

open FileTree
open FilePath (joinAll IsEntryName)

variable {tree : FileTree} {root : String} {below : Place}

def IsFragmentName (name : String) : Prop := suffix.toList.isSuffixOf name.toList = true

instance (name : String) : Decidable (IsFragmentName name) :=
  inferInstanceAs (Decidable (_ = true))

theorem isFragmentPath_joinAll (path : String) (hbelow : ∀ name ∈ below, IsEntryName name)
    (hne : below ≠ []) :
    isFragmentPath (joinAll path below) = true ↔ ∀ name ∈ below.getLast?, IsFragmentName name := by
  obtain ⟨above, last, rfl⟩ := (List.eq_nil_or_concat' below).resolve_left hne
  have hname : FilePath.fileName? (joinAll path (above ++ [last])) = some last := by
    rw [FilePath.joinAll_append]
    exact (hbelow last (by simp)).fileName?_join
  simp only [isFragmentPath, hname, List.getLast?_concat, Option.mem_some_iff, forall_eq']
  rfl

def fragmentsOf (root : String) (files : List (Place × ByteArray)) : List String :=
  (files.map fun file => joinAll root file.1).filter isFragmentPath

theorem fragmentsOf_append (root : String) (files files' : List (Place × ByteArray)) :
    fragmentsOf root (files ++ files') = fragmentsOf root files ++ fragmentsOf root files' := by
  rw [fragmentsOf, List.map_append, List.filter_append]
  rfl

theorem searchEntries_eq {entries : List (String × FileNode)}
    (h : ∀ entry ∈ entries, ∀ (below : Place) (closed : List Place) (place : Place),
      searchNode tree closed (joinAll root below) place entry.2 =
        .ok (fragmentsOf root (entry.2.files below)))
    (below : Place) (closed : List Place) (place : Place) :
    searchEntries tree closed (joinAll root below) place entries =
      .ok (fragmentsOf root (FileNode.filesAmong below entries)) := by
  induction entries with
  | nil => rw [searchEntries]; rfl
  | cons entry rest ih =>
    obtain ⟨name, node⟩ := entry
    obtain ⟨hnode, hrest⟩ := List.forall_mem_cons.mp h
    have hjoin : FilePath.join (joinAll root below) name = joinAll root (below ++ [name]) :=
      (FilePath.joinAll_append root below [name]).symm
    rw [searchEntries, hjoin, hnode, ih hrest, FileNode.filesAmong, fragmentsOf_append]
    rfl

theorem searchNode_eq {node : FileNode} (ordinary : node.Ordinary) (below : Place)
    (closed : List Place) (place : Place) :
    searchNode tree closed (joinAll root below) place node =
      .ok (fragmentsOf root (node.files below)) := by
  induction ordinary generalizing below closed place with
  | file content =>
    rw [searchNode, asFragment, FileNode.files, fragmentsOf, List.map_singleton]
    cases hpath : isFragmentPath (joinAll root below) <;> simp [hpath]
  | directory _ _ _ _ ih =>
    rw [searchNode, FileNode.files]
    exact searchEntries_eq ih below _ _

/-- The names lead from a root to a fragment file. A root that is a file counts itself, whatever its
name is. -/
def Holds (tree : FileTree) (root : String) (below : Place) : Prop :=
  ∃ place content, tree.lookup root = .present place ∧
    tree.root.labelAt? (place ++ below) = some (.file content) ∧
    ∀ name ∈ below.getLast?, IsFragmentName name

theorem holds_iff {place : Place} {node : FileNode} (hlookup : tree.lookup root = .present place)
    (hnode : tree.root.get? place = some node) :
    Holds tree root below ↔
      ∃ content, node.get? below = some (.file content) ∧
        ∀ name ∈ below.getLast?, IsFragmentName name := by
  have hget : tree.root.get? (place ++ below) = node.get? below := by
    rw [FileNode.get?_append, hnode]
    rfl
  constructor
  · rintro ⟨place', content, hlookup', hfile, hname⟩
    cases hlookup.symm.trans hlookup'
    exact ⟨content, hget ▸ FileNode.labelAt?_eq_file.mp hfile, hname⟩
  · rintro ⟨content, hfile, hname⟩
    exact ⟨place, content, hlookup, FileNode.labelAt?_eq_file.mpr (hget.trans hfile), hname⟩

theorem exists_searchRoot (ordinary : tree.root.Ordinary) (there : (tree.node? root).isSome) :
    ∃ found, searchRoot tree root = .ok found ∧
      ∀ path, path ∈ found ↔ ∃ below, Holds tree root below ∧ path = joinAll root below := by
  obtain ⟨place, node, hlookup, hnode⟩ : ∃ place node, tree.lookup root = .present place ∧
      tree.root.get? place = some node := by
    obtain ⟨node, hnode⟩ := Option.isSome_iff_exists.mp there
    rw [node?] at hnode
    split at hnode
    · exact ⟨_, node, ‹_›, hnode⟩
    · cases hnode
  have hfile : tree.isFile root = true ↔ ∃ content, node = .file content := by
    rw [isFile, content?, node?, hlookup]
    simp only [hnode]
    cases node <;> simp
  have hholds : ∀ below, Holds tree root below ↔ _ := fun below => holds_iff hlookup hnode
  rw [searchRoot]
  simp only [hholds]
  cases node with
  | file content =>
    refine ⟨[root], if_pos (hfile.mpr ⟨content, rfl⟩), fun path => ?_⟩
    rw [List.mem_singleton]
    constructor
    · rintro rfl
      exact ⟨[], ⟨content, rfl, nofun⟩, rfl⟩
    · rintro ⟨below, ⟨content', hbelow, -⟩, rfl⟩
      cases below with
      | nil => rfl
      | cons name rest => cases hbelow
  | link target =>
    exact absurd (FileNode.labelAt?_eq_link.mpr hnode) (ordinary.labelAt?_ne_link target)
  | directory entries =>
    have hordinary := ordinary.get? hnode
    rw [if_neg (by simp [hfile])]
    simp only [lookup_stopping ordinary hlookup, hnode]
    refine ⟨_, searchNode_eq hordinary [] _ _, fun path => ?_⟩
    rw [fragmentsOf, List.mem_filter, List.mem_map]
    have hfragment : ∀ {below content}, (FileNode.directory entries).get? below =
        some (.file content) → (isFragmentPath (joinAll root below) = true ↔
          ∀ name ∈ below.getLast?, IsFragmentName name) := by
      intro below content hget
      apply isFragmentPath_joinAll root
      · exact fun name hname => (hordinary.names_of_get? hget name hname).1
      · rintro rfl
        cases hget
    constructor
    · rintro ⟨⟨file, hmem, rfl⟩, hpath⟩
      obtain ⟨below, hbelow, hget⟩ := hordinary.mem_files_iff.mp hmem
      rw [hbelow, List.nil_append] at hpath ⊢
      exact ⟨below, ⟨file.2, hget, (hfragment hget).mp hpath⟩, rfl⟩
    · rintro ⟨below, ⟨content, hget, hname⟩, rfl⟩
      exact ⟨⟨(below, content), hordinary.mem_files_iff.mpr ⟨below, rfl, hget⟩, rfl⟩,
        (hfragment hget).mpr hname⟩

end ApiManual.FragmentStore
