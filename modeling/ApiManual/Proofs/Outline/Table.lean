import ApiManual.Proofs.Outline.Nesting
import ApiManual.Proofs.Traversal

/-!
The outline of some paths as a table: one row for each path, in the order in which the paths are
first given, and the rows linked by their numbers.
-/
namespace ApiManual.Outline

open UriPath

/-- A path, how it is written below the path that it lies below, the number of the row of that path,
and the numbers of the rows right below this one. -/
structure Table.Row where
  path : String
  relativePath : String
  parent : Option Nat
  children : List Nat
  deriving DecidableEq, Repr

/-- Rows, and the numbers of those that lie below none. -/
structure Table where
  rows : List Table.Row
  roots : List Nat
  deriving DecidableEq, Repr

namespace Table

/-- The longer one of two numbered paths, and the second one if both have as many segments. -/
def longer (best : Option (String × Nat)) (candidate : String × Nat) : Option (String × Nat) :=
  match best with
  | none => some candidate
  | some other =>
    if segmentCount other.1 ≤ segmentCount candidate.1 then some candidate else some other

/-- The number of the longest of some paths that is a proper initial part of a path. -/
def parentNumber (paths : List String) (path : String) : Option Nat :=
  ((paths.zipIdx.filter fun candidate => isProperPrefix candidate.1 path).foldl longer none).map
    (·.2)

def Row.ofPath (paths : List String) (path : String) : Row :=
  let parent := parentNumber paths path
  { path
    relativePath :=
      match parent.bind (paths[·]?) with
      | none => path
      | some upper => relativeTo upper path
    parent
    children := [] }

def Row.addChildren (row : Row) (numbers : List Nat) : Row :=
  { row with children := row.children ++ numbers }

@[simp] theorem Row.addChildren_relativePath (row : Row) (numbers : List Nat) :
    (row.addChildren numbers).relativePath = row.relativePath := rfl

@[simp] theorem Row.addChildren_parent (row : Row) (numbers : List Nat) :
    (row.addChildren numbers).parent = row.parent := rfl

/-- Enters the number of a row at the row that it lies below, or among the roots. -/
def enter (table : Table) : Option Nat × Nat → Table
  | (none, number) => { table with roots := table.roots ++ [number] }
  | (some parent, number) =>
    { table with rows := table.rows.modify parent (Row.addChildren · [number]) }

def ofPaths (paths : List String) : Table :=
  let paths := distinct paths
  let rows := paths.map (Row.ofPath paths)
  (rows.map (·.parent)).zipIdx.foldl enter ⟨rows, []⟩

def parent? (table : Table) (number : Nat) : Option Nat := table.rows[number]?.bind (·.parent)

def below (table : Table) (number : Nat) : List Nat :=
  (table.rows[number]?.map (·.children)).getD []

/-- The loop over a stack that starts with the roots meets the rows in this order. -/
def PreOrder (table : Table) (order : List Nat) : Prop :=
  Traversal.Finds table.below (fun _ => true) table.roots order

def entered (links : List (Option Nat × Nat)) (place : Option Nat) : List Nat :=
  (links.filter (·.1 = place)).map (·.2)

theorem Row.addChildren_addChildren (row : Row) (numbers numbers' : List Nat) :
    (row.addChildren numbers).addChildren numbers' = row.addChildren (numbers ++ numbers') := by
  simp only [Row.addChildren, List.append_assoc]

theorem roots_foldl_enter (links : List (Option Nat × Nat)) (table : Table) :
    (links.foldl enter table).roots = table.roots ++ entered links none := by
  induction links generalizing table with
  | nil => exact (List.append_nil _).symm
  | cons link rest ih =>
    rw [List.foldl_cons, ih]
    obtain ⟨_ | parent, number⟩ := link <;> simp [enter, entered]

theorem rows_foldl_enter (links : List (Option Nat × Nat)) (table : Table) (number : Nat) :
    (links.foldl enter table).rows[number]? =
      table.rows[number]?.map (Row.addChildren · (entered links (some number))) := by
  induction links generalizing table with
  | nil => simp [entered, Row.addChildren]
  | cons link rest ih =>
    rw [List.foldl_cons, ih]
    obtain ⟨_ | parent, added⟩ := link
    · simp [enter, entered]
    · by_cases heq : parent = number <;>
        simp [enter, entered, heq, Function.comp_def, Row.addChildren_addChildren]

theorem entered_zipIdx (links : List (Option Nat)) (place : Option Nat) :
    entered links.zipIdx place =
      (List.range links.length).filter fun number => links[number]? = some place := by
  rw [entered, List.range_eq_range', ← List.zipIdx_map_snd 0 links, List.filter_map]
  congr 1
  apply List.filter_congr
  rintro ⟨link, number⟩ hmem
  simp [List.mk_mem_zipIdx_iff_getElem?.mp hmem]

theorem map_foldl_longer (best : Option (String × Nat)) (candidates : List (String × Nat)) :
    (candidates.foldl longer best).map (·.1) =
      (candidates.map (·.1)).foldl Outline.longer (best.map (·.1)) := by
  induction candidates generalizing best with
  | nil => rfl
  | cons candidate rest ih =>
    rw [List.foldl_cons, ih, List.map_cons, List.foldl_cons]
    congr 1
    cases best with
    | none => rfl
    | some other =>
      simp only [longer, Outline.longer, Option.map_some]
      split <;> rfl

theorem mem_of_foldl_longer {best : Option (String × Nat)} {candidates : List (String × Nat)}
    {longest : String × Nat} (h : candidates.foldl longer best = some longest) :
    longest ∈ candidates ∨ best = some longest := by
  induction candidates generalizing best with
  | nil => exact Or.inr h
  | cons candidate rest ih =>
    rcases ih h with hmem | hbest
    · exact Or.inl (List.mem_cons_of_mem candidate hmem)
    · cases best with
      | none => exact Or.inl (by simp_all [longer])
      | some other =>
        simp only [longer] at hbest
        split at hbest
        · exact Or.inl (by simp_all)
        · exact Or.inr hbest

theorem parentNumber_cases (paths : List String) (path : String) :
    parentNumber paths path = none ∧ parentAmong paths path = none ∨
      ∃ number upper, parentNumber paths path = some number ∧
        parentAmong paths path = some upper ∧ paths[number]? = some upper ∧
        isProperPrefix upper path = true := by
  -- the search with the numbers goes along with the search for the path
  have hparent := map_foldl_longer none
    (paths.zipIdx.filter fun candidate => isProperPrefix candidate.1 path)
  have hcandidates : (paths.zipIdx.filter fun candidate => isProperPrefix candidate.1 path).map
      (·.1) = paths.filter (isProperPrefix · path) := by
    conv_rhs => rw [← List.zipIdx_map_fst 0 paths, List.filter_map]
    rfl
  rw [hcandidates, Option.map_none] at hparent
  unfold parentNumber parentAmong
  rw [← hparent]
  cases hlongest : (paths.zipIdx.filter fun candidate =>
    isProperPrefix candidate.1 path).foldl longer none with
  | none => exact Or.inl ⟨rfl, rfl⟩
  | some longest =>
    have hmem := (mem_of_foldl_longer hlongest).resolve_right nofun
    obtain ⟨hnumber, hprefix⟩ := List.mem_filter.mp hmem
    exact Or.inr ⟨longest.2, longest.1, rfl, rfl, List.mk_mem_zipIdx_iff_getElem?.mp hnumber,
      hprefix⟩

/-- The numbers of the rows right below a row, or of those below none. -/
def directlyBelow (table : Table) : Option Nat → List Nat
  | none => table.roots
  | some number => table.below number

/-- The numbers of the rows with these links say which row lies right below which one. -/
structure Linked (table : Table) : Prop where
  parent_lt : ∀ {number parent}, table.parent? number = some parent → parent < table.rows.length
  directlyBelow_eq : ∀ place, table.directlyBelow place =
    (List.range table.rows.length).filter (table.parent? · = place)

variable (paths : List String)

theorem getElem?_rows (number : Nat) : (ofPaths paths).rows[number]? =
    (distinct paths)[number]?.map fun path => (Row.ofPath (distinct paths) path).addChildren
      (entered ((distinct paths).map (parentNumber (distinct paths))).zipIdx (some number)) := by
  unfold ofPaths
  rw [rows_foldl_enter, List.getElem?_map, Option.map_map, List.map_map]
  rfl

theorem map_path_rows : (ofPaths paths).rows.map (·.path) = distinct paths := by
  apply List.ext_getElem?
  intro number
  rw [List.getElem?_map, getElem?_rows, Option.map_map]
  exact Option.map_id'

theorem length_rows : (ofPaths paths).rows.length = (distinct paths).length := by
  rw [← map_path_rows, List.length_map]

theorem parent?_ofPaths (number : Nat) : (ofPaths paths).parent? number =
    (distinct paths)[number]?.bind (parentNumber (distinct paths)) := by
  rw [parent?, getElem?_rows, Option.bind_map]
  rfl

theorem exists_of_parent? {number parent : Nat}
    (h : (ofPaths paths).parent? number = some parent) :
    ∃ path upper, (distinct paths)[number]? = some path ∧ (distinct paths)[parent]? = some upper ∧
      isProperPrefix upper path = true := by
  rw [parent?_ofPaths, Option.bind_eq_some_iff] at h
  obtain ⟨path, hpath, hparent⟩ := h
  rcases parentNumber_cases (distinct paths) path with
    ⟨hnone, -⟩ | ⟨number, upper, hnumber, -, hupper, hprefix⟩
  · exact absurd (hparent.symm.trans hnone) (Option.some_ne_none _)
  · obtain rfl := Option.some.inj (hparent.symm.trans hnumber)
    exact ⟨path, upper, hpath, hupper, hprefix⟩

theorem parent?_lt_length (table : Table) {number parent : Nat}
    (h : table.parent? number = some parent) : number < table.rows.length := by
  obtain ⟨row, hrow, -⟩ := Option.bind_eq_some_iff.mp h
  exact (List.getElem?_eq_some_iff.mp hrow).1

theorem entered_ofPaths (place : Option Nat) :
    entered ((distinct paths).map (parentNumber (distinct paths))).zipIdx place =
      (List.range (ofPaths paths).rows.length).filter ((ofPaths paths).parent? · = place) := by
  rw [entered_zipIdx, List.length_map, ← length_rows]
  apply List.filter_congr
  intro number hnumber
  rw [List.mem_range, length_rows] at hnumber
  simp [parent?_ofPaths, List.getElem?_eq_getElem hnumber]

theorem linked_ofPaths : (ofPaths paths).Linked where
  parent_lt h := by
    obtain ⟨path, upper, -, hupper, -⟩ := exists_of_parent? paths h
    rw [length_rows]
    exact (List.getElem?_eq_some_iff.mp hupper).1
  directlyBelow_eq place := by
    rw [← entered_ofPaths]
    cases place with
    | none =>
      unfold directlyBelow ofPaths
      rw [roots_foldl_enter, List.map_map]
      rfl
    | some number =>
      rw [directlyBelow, below, getElem?_rows]
      by_cases hnumber : number < (distinct paths).length
      · rw [List.getElem?_eq_getElem hnumber]
        rfl
      · -- no row lies below one that is not there
        rw [List.getElem?_eq_none (by omega), entered_ofPaths, Eq.comm, Option.map_none,
          Option.map_none, Option.getD_none, List.filter_eq_nil_iff]
        intro below _ hparent
        obtain ⟨_, _, -, hupper, -⟩ := exists_of_parent? paths (of_decide_eq_true hparent)
        exact hnumber (List.getElem?_eq_some_iff.mp hupper).1

example : (ofPaths ["/shops/{id}", "/", "/staff", "/shops"]).rows.map (·.children) =
    [[], [2, 3], [], [0]] := by decide +kernel

/-- A row says what an entry says, with a number in the place of the path of the parent. -/
structure Describes (table : Table) (row : Row) (entry : Entry) : Prop where
  path : row.path = entry.path
  relativePath : row.relativePath = entry.relativePath
  parent : (row.parent.bind fun number => table.rows[number]?.map (·.path)) = entry.parent

theorem describes_entryOf (path : String) (children : List Nat) :
    (ofPaths paths).Describes ((Row.ofPath (distinct paths) path).addChildren children)
      (entryOf paths path) := by
  have hpath : ∀ number : Nat,
      (ofPaths paths).rows[number]?.map Row.path = (distinct paths)[number]? := by
    intro number
    rw [← map_path_rows, List.getElem?_map]
  rcases parentNumber_cases (distinct paths) path with
    ⟨hnone, hparent⟩ | ⟨number, upper, hnumber, hparent, hupper, -⟩
  · refine ⟨(entryOf_path paths path).symm, ?_, ?_⟩
    · rw [entryOf, ofPath_relativePath_root hparent]
      simp [Row.ofPath, hnone]
    · rw [entryOf, Entry.ofPath_parent, hparent]
      simp [Row.ofPath, hnone]
  · refine ⟨(entryOf_path paths path).symm, ?_, ?_⟩
    · rw [entryOf, ofPath_relativePath_child hparent]
      simp [Row.ofPath, hnumber, hupper]
    · rw [entryOf, Entry.ofPath_parent, hparent]
      simp [Row.ofPath, hnumber, hpath, hupper]

theorem describes_ofPaths :
    List.Forall₂ (ofPaths paths).Describes (ofPaths paths).rows
      (Outline.ofPaths paths).entries := by
  refine List.forall₂_iff_get.mpr ⟨?_, fun number hrow hentry => ?_⟩
  · rw [entries_ofPaths, List.length_map, length_rows]
  · have hnumber : number < (distinct paths).length := by rwa [length_rows] at hrow
    have hget := getElem?_rows paths number
    rw [List.getElem?_eq_getElem hrow, List.getElem?_eq_getElem hnumber, Option.map_some,
      Option.some.injEq] at hget
    have hget' : (Outline.ofPaths paths).entries[number] =
        entryOf paths (distinct paths)[number] := List.getElem_map _
    rw [List.get_eq_getElem, List.get_eq_getElem, hget, hget']
    exact describes_entryOf paths _ _

end Table

end ApiManual.Outline
