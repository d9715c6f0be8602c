import ApiManual.Proofs.Except
import ApiManual.Proofs.FilePath.Order
import ApiManual.Proofs.FragmentStore.Search

/-!
What is discovered below a list of roots: each way to spell a fragment file once, in an order of its
own. A file is discovered once exactly where all roots that lead to it spell it alike.
-/
namespace ApiManual.FragmentStore

open FileTree
open FilePath (joinAll steps Step)

variable {tree : FileTree} {roots found : List String}

theorem exists_discover (ordinary : tree.root.Ordinary)
    (there : ∀ root ∈ roots, (tree.node? root).isSome) :
    ∃ paths, discover tree roots = .ok (FilePath.inOrder paths) ∧
      ∀ path, path ∈ paths ↔ ∃ root ∈ roots, ∃ below, Holds tree root below ∧
        path = joinAll root below := by
  choose! results hresults hmem using fun root hroot =>
    exists_searchRoot ordinary (there root hroot)
  refine ⟨(roots.map results).flatten, ?_, fun path => ?_⟩
  · rw [discover, Except.mapM_eq_ok_map hresults]
    rfl
  · rw [List.mem_flatten]
    constructor
    · rintro ⟨paths, hpaths, hpath⟩
      obtain ⟨root, hroot, rfl⟩ := List.mem_map.mp hpaths
      exact ⟨root, hroot, (hmem root hroot path).mp hpath⟩
    · rintro ⟨root, hroot, hpath⟩
      exact ⟨_, List.mem_map_of_mem hroot, (hmem root hroot path).mpr hpath⟩

/-- What a list of discovered paths holds, and how it is ordered. -/
structure Listing (tree : FileTree) (roots found : List String) : Prop where
  sound : ∀ path ∈ found, ∃ root ∈ roots, ∃ below, Holds tree root below ∧ path = joinAll root below
  complete : ∀ root ∈ roots, ∀ below, Holds tree root below →
    ∃ path ∈ found, steps path = steps root ++ below.map .name
  leads : ∀ path ∈ found, ∃ content, tree.root.get? (tree.placeOf path) = some (.file content) ∧
    (isWithinLimits path = true → tree.lookup path = .present (tree.placeOf path))
  sorted : found.Pairwise fun earlier later => FilePath.key earlier < FilePath.key later

variable {root : String} {below : Place}

namespace Holds

theorem exists_file (h : Holds tree root below) (ordinary : tree.root.Ordinary) :
    ∃ content, tree.root.get? (tree.placeOf root ++ below) = some (.file content) := by
  obtain ⟨place, content, hlookup, hfile, -⟩ := h
  rw [← lookup_eq_placeOf ordinary hlookup]
  exact ⟨content, FileNode.labelAt?_eq_file.mp hfile⟩

theorem isEntryName (h : Holds tree root below) (ordinary : tree.root.Ordinary) :
    ∀ name ∈ below, FilePath.IsEntryName name := by
  obtain ⟨content, hfile⟩ := h.exists_file ordinary
  exact fun name hname => (ordinary.names_below hfile name hname).1

theorem steps_eq (h : Holds tree root below) (ordinary : tree.root.Ordinary) :
    steps (joinAll root below) = steps root ++ below.map .name :=
  FilePath.steps_joinAll (h.isEntryName ordinary)

theorem placeOf_eq (h : Holds tree root below) (ordinary : tree.root.Ordinary) :
    tree.placeOf (joinAll root below) = tree.placeOf root ++ below :=
  tree.placeOf_joinAll root (h.isEntryName ordinary)

end Holds

theorem listing_inOrder (ordinary : tree.root.Ordinary) {paths : List String}
    (hpaths : ∀ path, path ∈ paths ↔ ∃ root ∈ roots, ∃ below, Holds tree root below ∧
      path = joinAll root below) : Listing tree roots (FilePath.inOrder paths) where
  sound path hpath := (hpaths path).mp (FilePath.mem_of_mem_inOrder hpath)
  complete root hroot below h := by
    have hpath : joinAll root below ∈ paths := (hpaths _).mpr ⟨root, hroot, below, h, rfl⟩
    obtain ⟨path, hfound, hsteps⟩ :=
      List.mem_map.mp (FilePath.mem_steps_inOrder.mpr (List.mem_map_of_mem hpath))
    exact ⟨path, hfound, hsteps.trans (h.steps_eq ordinary)⟩
  leads path hpath := by
    obtain ⟨root, -, below, h, rfl⟩ := (hpaths path).mp (FilePath.mem_of_mem_inOrder hpath)
    obtain ⟨content, hfile⟩ := h.exists_file ordinary
    rw [h.placeOf_eq ordinary]
    refine ⟨content, hfile, fun hlimits => ?_⟩
    obtain ⟨place, -, hlookup, -⟩ := h
    rw [← lookup_eq_placeOf ordinary hlookup] at hfile ⊢
    exact lookup_joinAll ordinary hlookup hfile hlimits
  sorted := FilePath.pairwise_lt_inOrder paths

namespace Listing

theorem nodup_steps (listing : Listing tree roots found) : (found.map steps).Nodup :=
  List.pairwise_map.mpr (listing.sorted.imp fun hlt heq =>
    hlt.ne (FilePath.key_eq_iff.mpr heq))

theorem mem_steps_iff (listing : Listing tree roots found) (ordinary : tree.root.Ordinary)
    {taken : List Step} :
    taken ∈ found.map steps ↔
      ∃ root ∈ roots, ∃ below, Holds tree root below ∧ taken = steps root ++ below.map .name := by
  rw [List.mem_map]
  constructor
  · rintro ⟨path, hpath, rfl⟩
    obtain ⟨root, hroot, below, h, rfl⟩ := listing.sound path hpath
    exact ⟨root, hroot, below, h, h.steps_eq ordinary⟩
  · rintro ⟨root, hroot, below, h, rfl⟩
    exact listing.complete root hroot below h

end Listing

/-- Roots that lead to one fragment file spell it alike. -/
def SpelledOnce (tree : FileTree) (roots : List String) : Prop :=
  ∀ root ∈ roots, ∀ below, Holds tree root below →
    ∀ other ∈ roots, ∀ below', Holds tree other below' →
      tree.placeOf root ++ below = tree.placeOf other ++ below' →
        steps root ++ below.map .name = steps other ++ below'.map .name

/-- All roots begin with the same steps and go on with names. -/
def BeginAlike (roots : List String) : Prop :=
  ∃ front, ∀ root ∈ roots, ∃ names : List String, steps root = front ++ names.map .name

theorem spelledOnce_of_beginAlike (h : BeginAlike roots) : SpelledOnce tree roots := by
  obtain ⟨front, hfront⟩ := h
  have hplace : ∀ {root names}, steps root = front ++ names.map .name →
      tree.placeOf root = front.foldl Step.follow tree.current ++ names := by
    intro root names hsteps
    rw [placeOf, hsteps, List.foldl_append, FilePath.foldl_follow_name]
  intro root hroot below _ other hother below' _ heq
  obtain ⟨names, hnames⟩ := hfront root hroot
  obtain ⟨names', hnames'⟩ := hfront other hother
  rw [hplace hnames, hplace hnames', List.append_assoc, List.append_assoc] at heq
  rw [hnames, hnames', List.append_assoc, List.append_assoc, ← List.map_append, ← List.map_append,
    List.append_cancel_left heq]

theorem map_placeOf (found : List String) :
    found.map tree.placeOf = (found.map steps).map (List.foldl Step.follow tree.current) := by
  rw [List.map_map]
  rfl

theorem foldl_follow_steps (root : String) (below : Place) :
    (steps root ++ below.map Step.name).foldl Step.follow tree.current =
      tree.placeOf root ++ below := by
  rw [List.foldl_append, FilePath.foldl_follow_name]
  rfl

theorem Listing.mem_placeOf_iff (listing : Listing tree roots found)
    (ordinary : tree.root.Ordinary) {place : Place} :
    place ∈ found.map tree.placeOf ↔
      ∃ root ∈ roots, ∃ below, Holds tree root below ∧ place = tree.placeOf root ++ below := by
  rw [map_placeOf, List.mem_map]
  simp only [listing.mem_steps_iff ordinary]
  constructor
  · rintro ⟨_, ⟨root, hroot, below, h, rfl⟩, rfl⟩
    exact ⟨root, hroot, below, h, foldl_follow_steps root below⟩
  · rintro ⟨root, hroot, below, h, rfl⟩
    exact ⟨_, ⟨root, hroot, below, h, rfl⟩, foldl_follow_steps root below⟩

theorem Listing.nodup_placeOf_iff (listing : Listing tree roots found)
    (ordinary : tree.root.Ordinary) :
    (found.map tree.placeOf).Nodup ↔ SpelledOnce tree roots := by
  rw [map_placeOf, List.nodup_map_iff_inj_on listing.nodup_steps]
  simp only [listing.mem_steps_iff ordinary]
  constructor
  · intro h root hroot below hholds other hother below' hholds' heq
    exact h _ ⟨root, hroot, below, hholds, rfl⟩ _ ⟨other, hother, below', hholds', rfl⟩
      (by rw [foldl_follow_steps, foldl_follow_steps, heq])
  · rintro h _ ⟨root, hroot, below, hholds, rfl⟩ _ ⟨other, hother, below', hholds', rfl⟩ heq
    rw [foldl_follow_steps, foldl_follow_steps] at heq
    exact h root hroot below hholds other hother below' hholds' heq

theorem spelledOnce_singleton (tree : FileTree) (root : String) : SpelledOnce tree [root] := by
  intro first hfirst below _ second hsecond below' _ heq
  rw [List.mem_singleton.mp hfirst, List.mem_singleton.mp hsecond] at heq ⊢
  rw [List.append_cancel_left heq]

/-- The same files in the same places. The entries of a directory may come in another order. -/
structure Rearranged (tree other : FileTree) : Prop where
  ordinary : other.root.Ordinary
  current : other.current = tree.current
  labelAt? (place : Place) : other.root.labelAt? place = tree.root.labelAt? place

theorem grows_of_labelAt? {tree other : FileTree} (hcurrent : other.current = tree.current)
    (hlabel : ∀ place, other.root.labelAt? place = tree.root.labelAt? place) : Grows tree other :=
  ⟨⟨fun h => (hlabel _).trans h, fun h => (hlabel _).trans h, fun h => ⟨_, (hlabel _).trans h⟩⟩,
    hcurrent⟩

namespace Rearranged

variable {other : FileTree}

theorem lookup_eq_iff (h : Rearranged tree other) {place : Place} :
    other.lookup root = .present place ↔ tree.lookup root = .present place :=
  ⟨(grows_of_labelAt? h.current.symm fun place => (h.labelAt? place).symm).lookup_eq,
    (grows_of_labelAt? h.current h.labelAt?).lookup_eq⟩

theorem holds_iff (h : Rearranged tree other) : Holds other root below ↔ Holds tree root below := by
  simp only [Holds, h.lookup_eq_iff, h.labelAt?]

theorem isSome_node? (h : Rearranged tree other) (there : (tree.node? root).isSome) :
    (other.node? root).isSome := by
  rw [node?] at there
  split at there
  · rename_i place hlookup
    rw [node?, h.lookup_eq_iff.mpr hlookup]
    have hsame := congrArg Option.isSome (h.labelAt? place)
    rw [FileNode.labelAt?, FileNode.labelAt?, Option.isSome_map, Option.isSome_map] at hsame
    exact hsame.trans there
  · cases there

end Rearranged

/-- What is discovered in a tree without links is each fragment file below the roots, in an order
that the roots and the tree determine. No file is listed twice exactly if all roots that lead to it
spell it with the same steps, which they do if they begin alike. -/
theorem discover_listing (ordinary : tree.root.Ordinary)
    (there : ∀ root ∈ roots, (tree.node? root).isSome) :
    ∃ found, discover tree roots = .ok found ∧ load tree roots = found.mapM (read tree) ∧
      Listing tree roots found ∧
      ((found.map tree.placeOf).Nodup ↔ SpelledOnce tree roots) ∧
      (BeginAlike roots → (found.map tree.placeOf).Nodup) ∧
      ∀ other roots', Rearranged tree other → (∀ root, root ∈ roots' ↔ root ∈ roots) →
        ∃ found', discover other roots' = .ok found' ∧ found'.map steps = found.map steps := by
  obtain ⟨paths, hfound, hpaths⟩ := exists_discover ordinary there
  have listing := listing_inOrder ordinary hpaths
  have honce := listing.nodup_placeOf_iff ordinary
  refine ⟨FilePath.inOrder paths, hfound, ?_, listing, honce,
    fun h => honce.mpr (spelledOnce_of_beginAlike h), fun other roots' rearranged hroots => ?_⟩
  · rw [load, hfound]
    rfl
  · obtain ⟨paths', hfound', hpaths'⟩ := exists_discover rearranged.ordinary fun root hroot =>
      rearranged.isSome_node? (there root ((hroots root).mp hroot))
    refine ⟨_, hfound', FilePath.steps_inOrder_congr fun taken => ?_⟩
    simp only [List.mem_map, hpaths, hpaths', hroots, rearranged.holds_iff]

def shopFiles : FileTree :=
  ⟨.directory [("build", .directory [("shops.restdoc.json", .file .empty)])], []⟩

theorem ordinary_shopFiles : shopFiles.root.Ordinary := by
  refine .directory (by decide) (by decide) (by decide) (List.forall_mem_singleton.mpr ?_)
  refine .directory (by decide) (by decide) (by decide) (List.forall_mem_singleton.mpr ?_)
  exact .file .empty

theorem leads_shopFiles (links : Nat) :
    Leads shopFiles.root true links [] ["build"] (.present ["build"]) :=
  .directory ⟨by decide, by decide, by decide⟩ rfl (.here links _)

theorem lookup_build : shopFiles.lookup "build" = .present ["build"] := by
  have htrail : trail "build" = ["build"] := rfl
  rw [lookup_of_usable ⟨by decide, rfl⟩, htrail]
  exact walk_eq_of_leads (leads_shopFiles linkLimit)

theorem lookup_current_build : shopFiles.lookup "./build" = .present ["build"] := by
  have htrail : trail "./build" = [".", "build"] := rfl
  rw [lookup_of_usable ⟨by decide, rfl⟩, htrail]
  exact walk_eq_of_leads (.current (leads_shopFiles linkLimit))

theorem isSome_node?_shopFiles {root : String} (h : shopFiles.lookup root = .present ["build"]) :
    (shopFiles.node? root).isSome := by
  rw [node?, h]
  rfl

theorem holds_shopFiles {root : String} (h : shopFiles.lookup root = .present ["build"]) :
    Holds shopFiles root ["shops.restdoc.json"] := by
  refine ⟨["build"], .empty, h, rfl, fun name hname => ?_⟩
  cases hname
  decide

theorem discover_listing_build :
    ∃ found, discover shopFiles ["build", "build"] = .ok found ∧
      Listing shopFiles ["build", "build"] found ∧ (found.map shopFiles.placeOf).Nodup := by
  have hthere : ∀ root ∈ ["build", "build"], (shopFiles.node? root).isSome := by
    simpa using isSome_node?_shopFiles lookup_build
  obtain ⟨found, hfound, -, listing, -, honce, -⟩ := discover_listing ordinary_shopFiles hthere
  exact ⟨found, hfound, listing, honce ⟨[], by simpa using ⟨["build"], rfl⟩⟩⟩

/-- The roots `build` and `./build` list a file below them twice. -/
theorem not_nodup_placeOf :
    ¬ ∀ (tree : FileTree) (roots : List String), tree.root.Ordinary →
      (∀ root ∈ roots, (tree.node? root).isSome) →
        ∃ found, discover tree roots = .ok found ∧ (found.map tree.placeOf).Nodup := by
  intro h
  have hthere : ∀ root ∈ ["build", "./build"], (shopFiles.node? root).isSome := by
    simpa using ⟨isSome_node?_shopFiles lookup_build, isSome_node?_shopFiles lookup_current_build⟩
  obtain ⟨found, hfound, hnodup⟩ := h shopFiles _ ordinary_shopFiles hthere
  obtain ⟨paths, hpaths, hmem⟩ := exists_discover ordinary_shopFiles hthere
  cases hfound.symm.trans hpaths
  have hspelled := ((listing_inOrder ordinary_shopFiles hmem).nodup_placeOf_iff
    ordinary_shopFiles).mp hnodup
  have hsteps := hspelled "build" (by simp) _ (holds_shopFiles lookup_build) "./build" (by simp) _
    (holds_shopFiles lookup_current_build) rfl
  exact absurd hsteps (by decide)

end ApiManual.FragmentStore
