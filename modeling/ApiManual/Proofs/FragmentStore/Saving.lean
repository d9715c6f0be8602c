import ApiManual.Proofs.FileTree.Building
import ApiManual.Proofs.FragmentStore.Discovery
import Mathlib.Data.Finset.Card

/-!
Fragments that are saved one after the other. Units whose names are flattened alike share a file,
which holds what was saved last for any of them; all other files are left alone.
-/
namespace ApiManual.FragmentStore

open FileTree
open FilePath (joinAll)

def fileName (unit : String) : String := flatName unit ++ suffix

theorem path_eq (build unit : String) :
    path build unit = joinAll (directory build) [fileName unit] := rfl

theorem isEntryName_fileName (unit : String) : FilePath.IsEntryName (fileName unit) := by
  have hlong : 1 + 1 < (fileName unit).toList.length := by
    rw [fileName, String.toList_append, List.length_append]
    have hsuffix : 1 + 1 < suffix.toList.length := by decide
    omega
  have hne : ∀ short : String, short.toList.length ≤ 1 + 1 → fileName unit ≠ short := by
    rintro short hshort rfl
    omega
  refine ⟨hne "" (by decide), hne "." (by decide), hne ".." (by decide), fun hslash => ?_⟩
  rw [fileName, String.toList_append, List.mem_append] at hslash
  rcases hslash with hslash | hslash
  · rw [flatName, String.toList_map, List.mem_map] at hslash
    obtain ⟨c, -, hc⟩ := hslash
    split at hc
    · exact absurd hc (by decide)
    · rename_i hother
      simp [hc] at hother
  · exact absurd hslash (by decide)

theorem fileName_inj {unit other : String} :
    fileName unit = fileName other ↔ flatName unit = flatName other := by
  rw [fileName, fileName, String.append_left_inj]

theorem isFragmentName_fileName (unit : String) : IsFragmentName (fileName unit) := by
  rw [IsFragmentName, List.isSuffixOf_iff_suffix, fileName, String.toList_append]
  exact List.suffix_append _ _

theorem getLast?_trail_path (build unit : String) :
    (trail (path build unit)).getLast? = some (fileName unit) := by
  rw [path_eq, FilePath.trail_joinAll (List.forall_mem_singleton.mpr (isEntryName_fileName unit))
    (List.cons_ne_nil _ _), List.getLast?_concat]

structure Call where
  unit : String
  fragment : Fragment

variable {tree after : FileTree} {build : String} {calls : List Call}

theorem save_eq_ok {unit saved : String} {fragment : Fragment}
    (h : save tree build unit fragment = (after, .ok saved)) :
    ∃ made, tree.makeDirectories (directory build) = (made, true) ∧
      made.write? (path build unit) fragment.toText.toUTF8 = some after := by
  rw [save] at h
  rcases hmade : tree.makeDirectories (directory build) with ⟨made, done⟩
  cases done with
  | false => simp [hmade] at h
  | true =>
    refine ⟨made, rfl, ?_⟩
    simp only [hmade] at h
    cases hwrite : made.write? (path build unit) fragment.toText.toUTF8 with
    | none =>
      rw [hwrite] at h
      cases h
    | some written =>
      rw [hwrite] at h
      cases h
      rfl

/-- Fragments are saved one after the other, without a failure. -/
inductive Saves (build : String) : FileTree → List Call → FileTree → Prop
  | nil (tree : FileTree) : Saves build tree [] tree
  | concat {tree between after : FileTree} {calls : List Call} {call : Call} {saved : String} :
    Saves build tree calls between →
    save between build call.unit call.fragment = (after, .ok saved) →
    Saves build tree (calls ++ [call]) after

def lastWhere (p : String → Prop) [DecidablePred p] (calls : List Call) : Option Call :=
  (calls.filter fun call => p call.unit).getLast?

section LastWhere

variable {p q : String → Prop} [DecidablePred p] [DecidablePred q]

theorem lastWhere_concat_of_pos {call : Call} (h : p call.unit) (calls : List Call) :
    lastWhere p (calls ++ [call]) = some call := by
  rw [lastWhere, List.filter_append, List.filter_cons_of_pos (by simpa using h)]
  exact List.getLast?_concat ..

theorem lastWhere_concat_of_neg {call : Call} (h : ¬ p call.unit) (calls : List Call) :
    lastWhere p (calls ++ [call]) = lastWhere p calls := by
  rw [lastWhere, List.filter_append, List.filter_cons_of_neg (by simpa using h), List.filter_nil,
    List.append_nil, lastWhere]

theorem lastWhere_congr (h : ∀ call ∈ calls, p call.unit ↔ q call.unit) :
    lastWhere p calls = lastWhere q calls := by
  have hfilter : (calls.filter fun call => p call.unit) = calls.filter fun call => q call.unit :=
    List.filter_congr fun call hcall => decide_eq_decide.mpr (h call hcall)
  rw [lastWhere, lastWhere, hfilter]

end LastWhere

/-- A file that has been saved: the path of the unit leads to it, and it holds what was saved last
by a path that leads there. -/
structure SavedAt (build : String) (calls : List Call) (after : FileTree) (unit : String)
    (place : Place) (last : Call) : Prop where
  lookup : after.lookup (path build unit) = .present place
  last_eq : lastWhere (fun other => after.lookup (path build other) = .present place) calls =
    some last
  labelAt? : after.root.labelAt? place = some (.file last.fragment.toText.toUTF8)

theorem exists_written {unit saved : String} {fragment : Fragment} (settled : tree.Settled)
    (h : save tree build unit fragment = (after, .ok saved)) :
    ∃ made place, tree.makeDirectories (directory build) = (made, true) ∧ Builds tree made ∧
      made.write? (path build unit) fragment.toText.toUTF8 = some after ∧
      WrittenAt made after (path build unit) fragment.toText.toUTF8 place := by
  obtain ⟨made, hmade, hwrite⟩ := save_eq_ok h
  have hbuilds := builds_makeDirectories settled (directory build)
  rw [hmade] at hbuilds
  obtain ⟨place, written⟩ := exists_writtenAt (hbuilds.grows.settled settled) hwrite
  exact ⟨made, place, hmade, hbuilds, hwrite, written⟩

theorem grows_of_save {unit saved : String} {fragment : Fragment} (settled : tree.Settled)
    (h : save tree build unit fragment = (after, .ok saved)) : Grows tree after := by
  obtain ⟨made, place, -, hbuilds, -, written⟩ := exists_written settled h
  exact hbuilds.grows.trans written.grows

namespace Saves

theorem grows (h : Saves build tree calls after) (settled : tree.Settled) : Grows tree after := by
  induction h with
  | nil => exact .refl tree
  | concat _ hsave ih => exact ih.trans (grows_of_save (ih.settled settled) hsave)

theorem makeDirectories_eq {made : FileTree} (h : Saves build tree calls after)
    (settled : tree.Settled) (hmade : after.makeDirectories (directory build) = (made, true)) :
    calls = [] ∧ after = tree ∨ made = after := by
  cases h with
  | nil => exact .inl ⟨rfl, rfl⟩
  | concat h hsave =>
    obtain ⟨before, place, hbefore, -, -, written⟩ :=
      exists_written ((h.grows settled).settled settled) hsave
    have there := isThere_of_makeDirectories ((h.grows settled).settled settled) hbefore
    rw [makeDirectories_of_isThere (written.grows.isThere there)] at hmade
    exact .inr (Prod.mk.inj hmade).1.symm

theorem exists_savedAt (h : Saves build tree calls after) (settled : tree.Settled) :
    ∀ call ∈ calls, ∃ place last, SavedAt build calls after call.unit place last := by
  induction h with
  | nil => exact nofun
  | @concat between after calls call saved h hsave ih =>
    obtain ⟨made, place, hmade, -, -, written⟩ :=
      exists_written ((h.grows settled).settled settled) hsave
    have hown : SavedAt build (calls ++ [call]) after call.unit place call :=
      ⟨written.lookup, lastWhere_concat_of_pos written.lookup calls,
        (written.labelAt? place).trans (if_pos rfl)⟩
    intro other hother
    rcases List.mem_append.mp hother with hother | hother
    · rcases h.makeDirectories_eq settled hmade with ⟨rfl, -⟩ | rfl
      · cases hother
      · obtain ⟨place', last, hsaved⟩ := ih other hother
        have hlookup := written.grows.lookup_eq hsaved.lookup
        by_cases hplace : place' = place
        · subst hplace
          exact ⟨place', call, hlookup, hown.last_eq, hown.labelAt?⟩
        · refine ⟨place', last, hlookup, ?_, ?_⟩
          · have hcall : ¬ after.lookup (path build call.unit) = .present place' := by
              rw [written.lookup, Lookup.present.injEq]
              exact Ne.symm hplace
            rw [lastWhere_concat_of_neg hcall, ← hsaved.last_eq]
            apply lastWhere_congr
            intro earlier hearlier
            obtain ⟨place'', last', hsaved'⟩ := ih earlier hearlier
            rw [written.grows.lookup_eq hsaved'.lookup, hsaved'.lookup]
          · rw [written.labelAt?, if_neg hplace, hsaved.labelAt?]
    · rw [List.mem_singleton.mp hother]
      exact ⟨place, call, hown⟩

theorem isLink (h : Saves build tree calls after) (settled : tree.Settled) {path : String}
    (hlink : after.IsLink path) : (tree.makeDirectories (directory build)).1.IsLink path := by
  induction h with
  | nil => exact (grows_makeDirectories settled _).isLink hlink
  | concat h hsave ih =>
    obtain ⟨made, place, hmade, -, -, written⟩ :=
      exists_written ((h.grows settled).settled settled) hsave
    have hbefore := written.isLink hlink
    rcases h.makeDirectories_eq settled hmade with ⟨-, rfl⟩ | rfl
    · rwa [hmade]
    · exact ih hbefore

theorem getLast?_place (h : Saves build tree calls after) (settled : tree.Settled)
    (unlinked : ∀ call ∈ calls,
      ¬ (tree.makeDirectories (directory build)).1.IsLink (path build call.unit)) :
    ∀ call ∈ calls, ∀ place, after.lookup (path build call.unit) = .present place →
      place.getLast? = some (fileName call.unit) := by
  induction h with
  | nil => exact nofun
  | @concat between after calls call saved h hsave ih =>
    obtain ⟨hcalls, hcall⟩ := List.forall_mem_append.mp unlinked
    obtain ⟨made, place, hmade, -, -, written⟩ :=
      exists_written ((h.grows settled).settled settled) hsave
    intro other hother place' hplace'
    rcases List.mem_append.mp hother with hother | hother
    · obtain ⟨place'', last, hsaved⟩ := h.exists_savedAt settled other hother
      have hgrows := grows_of_save ((h.grows settled).settled settled) hsave
      cases (hgrows.lookup_eq hsaved.lookup).symm.trans hplace'
      exact ih hcalls other hother place' hsaved.lookup
    · rw [List.mem_singleton.mp hother] at hplace' ⊢
      cases written.lookup.symm.trans hplace'
      have hunlinked : ¬ made.IsLink (path build call.unit) := fun hlink => by
        rcases h.makeDirectories_eq settled hmade with ⟨-, rfl⟩ | rfl
        · exact hcall call List.mem_cons_self (by rwa [hmade])
        · exact hcall call List.mem_cons_self (h.isLink settled hlink)
      exact written.getLast? hunlinked (getLast?_trail_path build call.unit)
        (isEntryName_fileName _).ne_current (isEntryName_fileName _).ne_parent

/-- Paths lead to one file exactly where the names of the units are flattened alike. -/
theorem lookup_eq_iff (h : Saves build tree calls after) (settled : tree.Settled)
    (unlinked : ∀ call ∈ calls,
      ¬ (tree.makeDirectories (directory build)).1.IsLink (path build call.unit))
    {call : Call} (hcall : call ∈ calls) {place : Place}
    (hplace : after.lookup (path build call.unit) = .present place) :
    ∀ other ∈ calls, after.lookup (path build other.unit) = .present place ↔
      flatName other.unit = flatName call.unit := by
  have hnames := h.getLast?_place settled unlinked
  intro other hother
  constructor
  · intro hother'
    have hlast := hnames call hcall place hplace
    rw [hnames other hother place hother'] at hlast
    exact fileName_inj.mp (Option.some.inj hlast)
  · intro hflat
    rw [path, hflat]
    exact hplace

theorem ordinary (h : Saves build tree calls after) (settled : tree.Settled)
    (ordinary : tree.root.Ordinary) : after.root.Ordinary := by
  induction h with
  | nil => exact ordinary
  | concat h hsave ih =>
    have hbetween := (h.grows settled).settled settled
    obtain ⟨made, place, -, hbuilds, hwrite, -⟩ := exists_written hbetween hsave
    exact ordinary_of_write? (hbuilds.grows.settled hbetween) (hbuilds.ordinary ih) hwrite

theorem file_cases (h : Saves build tree calls after) (settled : tree.Settled) {place : Place}
    {content : ByteArray} (hfile : after.root.labelAt? place = some (.file content)) :
    (∃ call ∈ calls, after.lookup (path build call.unit) = .present place) ∨
      tree.root.labelAt? place = some (.file content) := by
  induction h with
  | nil => exact .inr hfile
  | @concat between after calls call saved h hsave ih =>
    have hbetween := (h.grows settled).settled settled
    obtain ⟨made, place', -, hbuilds, -, written⟩ := exists_written hbetween hsave
    rw [written.labelAt?] at hfile
    split at hfile
    · rename_i hplace
      exact .inl ⟨call, by simp, hplace ▸ written.lookup⟩
    · refine (ih (hbuilds.labelAt?_eq_file_iff.mp hfile)).imp_left ?_
      rintro ⟨other, hother, hlookup⟩
      exact ⟨other, List.mem_append_left _ hother,
        (grows_of_save hbetween hsave).lookup_eq hlookup⟩

end Saves

/-- No file below a root has the name of a fragment file. -/
def Unused (tree : FileTree) (root : String) : Prop :=
  ∀ below name content,
    tree.root.get? (tree.placeOf root ++ (below ++ [name])) = some (.file content) →
      ¬ IsFragmentName name

theorem placeOf_path (tree : FileTree) (build unit : String) :
    tree.placeOf (path build unit) = tree.placeOf (directory build) ++ [fileName unit] := by
  rw [path_eq]
  exact tree.placeOf_joinAll _ (List.forall_mem_singleton.mpr (isEntryName_fileName unit))

theorem exists_of_isDirectory {root : String} (h : tree.isDirectory root = true) :
    ∃ place entries, tree.lookup root = .present place ∧
      tree.root.get? place = some (.directory entries) := by
  rw [isDirectory, node?] at h
  cases hlookup : tree.lookup root with
  | present place =>
    rw [hlookup] at h
    dsimp only at h
    split at h
    · rename_i entries hentries
      exact ⟨place, entries, rfl, hentries⟩
    · cases h
  | _ =>
    rw [hlookup] at h
    cases h

namespace Saves

variable {root : String} {below : Place}

theorem placeOf_eq (h : Saves build tree calls after) (settled : tree.Settled) (path : String) :
    after.placeOf path = tree.placeOf path := by
  rw [placeOf, placeOf, (h.grows settled).current]

theorem holds_iff (h : Saves build tree calls after) (settled : tree.Settled)
    (ordinary : tree.root.Ordinary) (there : after.isDirectory root = true)
    (above : tree.placeOf root <+: tree.placeOf (directory build)) (unused : Unused tree root) :
    Holds after root below ↔
      ∃ call ∈ calls, tree.placeOf root ++ below = tree.placeOf (path build call.unit) := by
  have hordinary := h.ordinary settled ordinary
  obtain ⟨place, entries, hlookup, hentries⟩ := exists_of_isDirectory there
  have hplace : place = tree.placeOf root :=
    (lookup_eq_placeOf hordinary hlookup).trans (h.placeOf_eq settled root)
  subst hplace
  constructor
  · rintro ⟨place, content, hlookup', hfile, hname⟩
    cases hlookup.symm.trans hlookup'
    rcases h.file_cases settled hfile with ⟨call, hcall, hsaved⟩ | hbefore
    · exact ⟨call, hcall,
        (lookup_eq_placeOf hordinary hsaved).trans (h.placeOf_eq settled _)⟩
    · rcases List.eq_nil_or_concat' below with rfl | ⟨upper, name, rfl⟩
      · rw [List.append_nil, FileNode.labelAt?_eq_file, hentries] at hfile
        cases hfile
      · exact absurd (hname name (List.getLast?_concat ..))
          (unused upper name content (FileNode.labelAt?_eq_file.mp hbefore))
  · rintro ⟨call, hcall, hbelow⟩
    obtain ⟨place, last, hsaved⟩ := h.exists_savedAt settled call hcall
    have hplace : place = tree.placeOf root ++ below :=
      (lookup_eq_placeOf hordinary hsaved.lookup).trans
        ((h.placeOf_eq settled _).trans hbelow.symm)
    refine ⟨_, _, hlookup, hplace ▸ hsaved.labelAt?, fun name hname => ?_⟩
    obtain ⟨middle, hmiddle⟩ := above
    rw [placeOf_path, ← hmiddle, List.append_assoc, List.append_cancel_left_eq] at hbelow
    rw [hbelow, List.getLast?_concat] at hname
    cases hname
    exact isFragmentName_fileName call.unit

theorem exists_discover (h : Saves build tree calls after) (settled : tree.Settled)
    (ordinary : tree.root.Ordinary) (there : after.isDirectory root = true)
    (above : tree.placeOf root <+: tree.placeOf (directory build)) (unused : Unused tree root) :
    ∃ found, discover after [root] = .ok found ∧
      found.length = (calls.map (flatName ·.unit)).dedup.length := by
  have hordinary := h.ordinary settled ordinary
  have hthere : ∀ root' ∈ [root], (after.node? root').isSome := by
    obtain ⟨place, entries, hlookup, hentries⟩ := exists_of_isDirectory there
    rw [List.forall_mem_singleton, node?, hlookup]
    exact Option.isSome_of_eq_some hentries
  obtain ⟨paths, hfound, hpaths⟩ := FragmentStore.exists_discover hordinary hthere
  have listing := listing_inOrder hordinary hpaths
  refine ⟨_, hfound, ?_⟩
  have hplaces := (listing.nodup_placeOf_iff hordinary).mpr (spelledOnce_singleton after root)
  have hnames : ((calls.map (flatName ·.unit)).dedup.map fun flat =>
      tree.placeOf (directory build) ++ [flat ++ suffix]).Nodup := by
    refine (List.nodup_dedup _).map fun flat flat' heq => ?_
    simpa [String.append_left_inj] using heq
  have hmem : ∀ place, place ∈ (FilePath.inOrder paths).map after.placeOf ↔
      place ∈ (calls.map (flatName ·.unit)).dedup.map fun flat =>
        tree.placeOf (directory build) ++ [flat ++ suffix] := by
    intro place
    rw [listing.mem_placeOf_iff hordinary, List.mem_map]
    simp only [List.mem_singleton, exists_eq_left, List.mem_dedup, List.mem_map,
      exists_exists_and_eq_and]
    constructor
    · rintro ⟨below, hholds, rfl⟩
      obtain ⟨call, hcall, hbelow⟩ := (h.holds_iff settled ordinary there above unused).mp hholds
      refine ⟨call, hcall, ?_⟩
      rw [h.placeOf_eq settled, hbelow, placeOf_path]
      rfl
    · rintro ⟨call, hcall, rfl⟩
      obtain ⟨middle, hmiddle⟩ := above
      refine ⟨middle ++ [fileName call.unit], ?_, ?_⟩
      · apply (h.holds_iff settled ordinary there ⟨middle, hmiddle⟩ unused).mpr
        exact ⟨call, hcall, by rw [placeOf_path, ← hmiddle, List.append_assoc]⟩
      · rw [h.placeOf_eq settled, ← List.append_assoc, hmiddle]
        rfl
  have hlength := ((List.perm_ext_iff_of_nodup hplaces hnames).mpr hmem).length_eq
  rwa [List.length_map, List.length_map] at hlength

end Saves

/-- Units with distinct names have distinct names when these are flattened. -/
def Apart (calls : List Call) : Prop :=
  ∀ call ∈ calls, ∀ other ∈ calls, flatName other.unit = flatName call.unit →
    other.unit = call.unit

theorem length_dedup_eq_iff :
    (calls.map (flatName ·.unit)).dedup.length = (calls.map (·.unit)).dedup.length ↔
      Apart calls := by
  have himage : (calls.map (flatName ·.unit)).toFinset =
      (calls.map (·.unit)).toFinset.image flatName := by
    ext flat
    simp
  rw [← List.card_toFinset, ← List.card_toFinset, himage, Finset.card_image_iff]
  constructor
  · intro h call hcall other hother hflat
    exact h (by simpa using ⟨other, hother, rfl⟩) (by simpa using ⟨call, hcall, rfl⟩) hflat
  · intro h unit hunit unit' hunit' hflat
    obtain ⟨call, hcall, rfl⟩ : ∃ call ∈ calls, call.unit = unit := by simpa using hunit
    obtain ⟨other, hother, rfl⟩ : ∃ call ∈ calls, call.unit = unit' := by simpa using hunit'
    exact h other hother call hcall hflat

/-- Each file that fragments are saved in holds the one that was saved last by a path that leads to
it. Where no path is a link these are the paths of the units whose names are flattened alike, so
that units keep apart, and as many fragments are discovered as there are units, exactly if their
flattened names are distinct. -/
theorem saves_last (settled : tree.Settled) (h : Saves build tree calls after) :
    (∀ call ∈ calls, ∃ place last, SavedAt build calls after call.unit place last ∧
      after.text? (path build call.unit) = some last.fragment.toText) ∧
    ((∀ call ∈ calls, ¬ (tree.makeDirectories (directory build)).1.IsLink (path build call.unit)) →
      ∀ call ∈ calls, ∃ last, lastWhere (flatName · = flatName call.unit) calls = some last ∧
        after.text? (path build call.unit) = some last.fragment.toText ∧
        (Apart calls → lastWhere (· = call.unit) calls = some last)) ∧
    (tree.root.Ordinary → ∀ root, after.isDirectory root = true →
      tree.placeOf root <+: tree.placeOf (directory build) → Unused tree root →
        ∃ found, discover after [root] = .ok found ∧
          found.length = (calls.map (flatName ·.unit)).dedup.length ∧
          (found.length = (calls.map (·.unit)).dedup.length ↔ Apart calls)) := by
  have htext : ∀ {unit place last}, SavedAt build calls after unit place last →
      after.text? (path build unit) = some last.fragment.toText := fun hsaved =>
    text?_eq hsaved.lookup hsaved.labelAt?
  refine ⟨fun call hcall => ?_, fun unlinked call hcall => ?_, ?_⟩
  · obtain ⟨place, last, hsaved⟩ := h.exists_savedAt settled call hcall
    exact ⟨place, last, hsaved, htext hsaved⟩
  · obtain ⟨place, last, hsaved⟩ := h.exists_savedAt settled call hcall
    have hlast : lastWhere (flatName · = flatName call.unit) calls = some last :=
      (lastWhere_congr fun other hother =>
        (h.lookup_eq_iff settled unlinked hcall hsaved.lookup other hother).symm).trans
        hsaved.last_eq
    refine ⟨last, hlast, htext hsaved, fun apart => ?_⟩
    rw [← hlast]
    exact lastWhere_congr fun other hother =>
      ⟨fun heq => congrArg flatName heq, apart call hcall other hother⟩
  · intro ordinary root there above unused
    obtain ⟨found, hfound, hlength⟩ := h.exists_discover settled ordinary there above unused
    refine ⟨found, hfound, hlength, ?_⟩
    rw [hlength]
    exact length_dedup_eq_iff

section Shops

def shopsName : String := "org.Shops.java.restdoc.json"

def buildTree (entries : List (String × FileNode)) : FileTree :=
  ⟨.directory [("build", .directory [("restdoc", .directory entries)])], []⟩

def shopsTree (fragment : Fragment) : FileTree :=
  buildTree [(shopsName, .file fragment.toText.toUTF8)]

theorem settled_buildTree (entries : List (String × FileNode)) : (buildTree entries).Settled := rfl

theorem leads_buildTree {entries : List (String × FileNode)} {through : Bool} {links : Nat}
    {rest : List String} {result : Lookup}
    (h : Leads (buildTree entries).root through links ["build", "restdoc"] rest result) :
    Leads (buildTree entries).root through links [] ("build" :: "restdoc" :: rest) result :=
  .directory ⟨by decide, by decide, by decide⟩ rfl
    (.directory ⟨by decide, by decide, by decide⟩ rfl h)

theorem makeDirectories_buildTree (entries : List (String × FileNode)) :
    (buildTree entries).makeDirectories (directory "build") = (buildTree entries, true) := by
  apply makeDirectories_of_isThere
  have hpieces : FilePath.pieces (directory "build") = ["build", "restdoc"] := rfl
  refine .inr ⟨rfl, isDirectoryAt_iff.mpr ⟨["build", "restdoc"], ?_, rfl⟩⟩
  rw [hpieces]
  exact leads_buildTree (.here _ _)

theorem lookup_shops {unit : String} (hname : flatName unit ++ suffix = shopsName)
    (entries : List (String × FileNode)) (through : Bool) {result : Lookup}
    (h : Leads (buildTree entries).root through linkLimit ["build", "restdoc"] [shopsName] result) :
    (buildTree entries).lookup (path "build" unit) through = result := by
  have husable : Usable (FilePath.join (directory "build") shopsName) :=
    ⟨by decide, rfl⟩
  have htrail : trail (FilePath.join (directory "build") shopsName) =
      ["build", "restdoc", shopsName] := rfl
  rw [path, hname, lookup_of_usable husable, htrail]
  exact walk_eq_of_leads (leads_buildTree h)

theorem isName_shopsName : IsName shopsName := ⟨by decide, by decide, by decide⟩

theorem lookup_shopsTree {unit : String} (hname : flatName unit ++ suffix = shopsName)
    (fragment : Fragment) (through : Bool) :
    (shopsTree fragment).lookup (path "build" unit) through =
      .present ["build", "restdoc", shopsName] :=
  lookup_shops hname _ through (.file isName_shopsName rfl)

theorem save_first {unit : String} (hname : flatName unit ++ suffix = shopsName)
    (fragment : Fragment) :
    save (buildTree []) "build" unit fragment = (shopsTree fragment, .ok (path "build" unit)) := by
  have hlookup : (buildTree []).lookup (path "build" unit) =
      .vacant ["build", "restdoc", shopsName] :=
    lookup_shops hname _ true (.vacant isName_shopsName rfl)
  rw [save, makeDirectories_buildTree]
  simp only [write?, hlookup]
  rfl

theorem save_again {unit : String} (hname : flatName unit ++ suffix = shopsName)
    (fragment other : Fragment) :
    save (shopsTree fragment) "build" unit other =
      (shopsTree other, .ok (path "build" unit)) := by
  have hget : (shopsTree fragment).root.get? ["build", "restdoc", shopsName] =
      some (.file fragment.toText.toUTF8) := rfl
  rw [save, shopsTree, makeDirectories_buildTree]
  simp only [write?, ← shopsTree.eq_def, lookup_shopsTree hname, hget]
  rfl

theorem saves_shops {unit unit' : String} (hname : flatName unit ++ suffix = shopsName)
    (hname' : flatName unit' ++ suffix = shopsName) (fragment fragment' : Fragment) :
    Saves "build" (buildTree []) [⟨unit, fragment⟩, ⟨unit', fragment'⟩] (shopsTree fragment') := by
  have hfirst : Saves "build" (buildTree []) ([] ++ [⟨unit, fragment⟩]) (shopsTree fragment) :=
    .concat (.nil _) (save_first hname fragment)
  have hboth : Saves "build" (buildTree []) (([] ++ [⟨unit, fragment⟩]) ++ [⟨unit', fragment'⟩])
      (shopsTree fragment') := .concat hfirst (save_again hname' fragment fragment')
  exact hboth

theorem flatName_slash : flatName "org/Shops.java" ++ suffix = shopsName := by cbv

theorem flatName_dot : flatName "org.Shops.java" ++ suffix = shopsName := by cbv

theorem ordinary_buildTree : (buildTree []).root.Ordinary := by
  refine .directory (by decide) (by decide) (by decide) (List.forall_mem_singleton.mpr ?_)
  refine .directory (by decide) (by decide) (by decide) (List.forall_mem_singleton.mpr ?_)
  exact .directory .nil nofun nofun nofun

theorem unused_buildTree (root : String) : Unused (buildTree []) root := by
  intro below name content hfile
  have hmem : (_, content) ∈ (buildTree []).root.files [] :=
    ordinary_buildTree.mem_files_iff.mpr ⟨_, rfl, hfile⟩
  cases hmem

theorem text?_shopsTree {unit : String} (hname : flatName unit ++ suffix = shopsName)
    (fragment : Fragment) :
    (shopsTree fragment).text? (path "build" unit) = some fragment.toText := by
  have hlabel : (shopsTree fragment).root.labelAt? ["build", "restdoc", shopsName] =
      some (.file fragment.toText.toUTF8) := rfl
  exact text?_eq (lookup_shopsTree hname fragment true) hlabel

theorem not_isLink_buildTree (path : String) :
    ¬ ((buildTree []).makeDirectories (directory "build")).1.IsLink path := by
  rintro ⟨place, target, -, hget⟩
  rw [makeDirectories_buildTree] at hget
  exact ordinary_buildTree.labelAt?_ne_link target (FileNode.labelAt?_eq_link.mpr hget)

theorem isDirectory_shopsTree (fragment : Fragment) :
    (shopsTree fragment).isDirectory "build" = true := by
  have hlookup : (shopsTree fragment).lookup "build" = .present ["build"] := by
    have htrail : trail "build" = ["build"] := rfl
    rw [lookup_of_usable ⟨by decide, rfl⟩, htrail]
    exact walk_eq_of_leads (.directory ⟨by decide, by decide, by decide⟩ rfl (.here _ _))
  rw [isDirectory, node?, hlookup]
  rfl

end Shops

def namedShops : Fragment := { origin := some "shops" }

theorem saves_last_shops :
    Saves "build" (buildTree []) [⟨"org/Shops.java", {}⟩, ⟨"org/Shops.java", namedShops⟩]
      (shopsTree namedShops) ∧
    (shopsTree namedShops).text? (path "build" "org/Shops.java") = some namedShops.toText ∧
    ∃ found, discover (shopsTree namedShops) ["build"] = .ok found ∧ found.length = 1 := by
  have h := saves_shops flatName_slash flatName_slash {} namedShops
  obtain ⟨-, hlast, hfound⟩ := saves_last (settled_buildTree []) h
  obtain ⟨last, heq, htext, -⟩ :=
    hlast (fun call _ => not_isLink_buildTree _) _ List.mem_cons_self
  have hcalls : lastWhere (flatName · = flatName "org/Shops.java")
      [⟨"org/Shops.java", {}⟩, ⟨"org/Shops.java", namedShops⟩] =
        some ⟨"org/Shops.java", namedShops⟩ := by simp [lastWhere]
  cases heq.symm.trans hcalls
  obtain ⟨found, hdiscover, hlength, -⟩ := hfound ordinary_buildTree "build"
    (isDirectory_shopsTree _) (by decide) (unused_buildTree "build")
  exact ⟨h, htext, found, hdiscover, hlength.trans (by cbv)⟩

/-- The units `org/Shops.java` and `org.Shops.java` have one file, so that the fragment of the first
one is lost. -/
theorem not_text?_of_saves :
    ¬ ∀ (tree after : FileTree) (build : String) (calls : List Call),
      tree.root.Ordinary → tree.Settled → Saves build tree calls after →
        ∀ call ∈ calls, ∃ last, lastWhere (· = call.unit) calls = some last ∧
          after.text? (path build call.unit) = some last.fragment.toText := by
  intro h
  have hsaves := saves_shops flatName_slash flatName_dot {} namedShops
  obtain ⟨last, hlast, htext⟩ := h _ _ _ _ ordinary_buildTree (settled_buildTree []) hsaves _
    List.mem_cons_self
  have hown : lastWhere (· = "org/Shops.java")
      [⟨"org/Shops.java", {}⟩, ⟨"org.Shops.java", namedShops⟩] = some ⟨"org/Shops.java", {}⟩ := by
    simp [lastWhere]
  cases hlast.symm.trans hown
  have hsame : ({} : Fragment).toText = namedShops.toText :=
    Option.some.inj (htext.symm.trans (text?_shopsTree flatName_slash namedShops))
  exact absurd hsame (by decide)

end ApiManual.FragmentStore
