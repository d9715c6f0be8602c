import ApiManual.Proofs.Outline.Table
import Mathlib.Data.List.Count

/-!
A loop over a stack meets each row of a table once, a row before those below it, and the rows right
below one place in their order. It does so for all tables but those that have the root and the empty
path both, each of which would lie below the other one.
-/
namespace ApiManual.Outline.Table

open UriPath

variable {table : Table}

/-- The numbers of all rows, none of them twice, each one before those of the rows below it, and the
numbers of the rows right below one place as the rows stand in the table. -/
structure Lists (table : Table) (order : List Nat) : Prop where
  perm : order.Perm (List.range table.rows.length)
  parent_first : ∀ {number parent}, table.parent? number = some parent →
    [parent, number].Sublist order
  siblings : ∀ place, order.filter (table.parent? · = place) =
    (List.range table.rows.length).filter (table.parent? · = place)

/-- Going from each row to the one above it comes to an end, as a rank shows that falls. -/
def Grounded (table : Table) : Prop :=
  ∃ rank : Nat → Nat, ∀ number parent, table.parent? number = some parent →
    rank parent < rank number

def countAbove (table : Table) (rank : Nat → Nat) (number : Nat) : Nat :=
  (List.range table.rows.length).countP (rank number < rank ·)

namespace Linked

variable (linked : table.Linked)

include linked

theorem mem_directlyBelow {number : Nat} {place : Option Nat} :
    number ∈ table.directlyBelow place ↔
      number < table.rows.length ∧ table.parent? number = place := by
  rw [linked.directlyBelow_eq, List.mem_filter, List.mem_range, decide_eq_true_eq]

theorem count_directlyBelow (number : Nat) (place : Option Nat) :
    (table.directlyBelow place).count number =
      if number < table.rows.length ∧ table.parent? number = place then 1 else 0 := by
  have hnodup : (table.directlyBelow place).Nodup := by
    rw [linked.directlyBelow_eq]
    exact List.nodup_range.filter _
  rw [hnodup.count]
  simp only [linked.mem_directlyBelow]

theorem count_roots {number : Nat} (hnumber : number < table.rows.length) :
    table.roots.count number = if table.parent? number = none then 1 else 0 := by
  have hcount := linked.count_directlyBelow number none
  simpa only [directlyBelow, hnumber, true_and] using hcount

theorem mem_below {number parent : Nat} :
    number ∈ table.below parent ↔ table.parent? number = some parent :=
  linked.mem_directlyBelow.trans (and_iff_right_of_imp table.parent?_lt_length)

theorem count_below (number parent : Nat) : (table.below parent).count number =
    if table.parent? number = some parent then 1 else 0 := by
  have hcount := linked.count_directlyBelow number (some parent)
  simpa only [directlyBelow, and_iff_right_of_imp table.parent?_lt_length] using hcount

theorem exists_unfolds (grounded : table.Grounded) :
    ∃ order, Traversal.Unfolds table.below order := by
  obtain ⟨rank, hrank⟩ := grounded
  refine ⟨_, Traversal.unfolds_orderFrom (table.countAbove rank) fun number next hnext => ?_⟩
  have hparent := linked.mem_below.mp hnext
  have hrises := hrank next number hparent
  apply countP_lt_countP next
  · intro other _ hother
    exact decide_eq_true (Nat.lt_trans hrises (of_decide_eq_true hother))
  · exact List.mem_range.mpr (table.parent?_lt_length hparent)
  · exact decide_eq_true hrises
  · exact decide_eq_false (Nat.lt_irrefl _)

theorem count_flatMap_below (numbers : List Nat) (number : Nat) :
    (numbers.flatMap table.below).count number =
      numbers.countP (table.parent? number = some ·) := by
  induction numbers with
  | nil => rfl
  | cons first rest ih =>
    rw [List.flatMap_cons, List.count_append, ih, List.countP_cons, Nat.add_comm,
      linked.count_below]
    simp only [decide_eq_true_eq]

variable {order : Nat → List Nat} (h : Traversal.Unfolds table.below order)

include h

theorem count_flatMap_order (number : Nat) : (table.roots.flatMap order).count number =
    table.roots.count number +
      (table.roots.flatMap order).countP (table.parent? number = some ·) := by
  rw [← linked.count_flatMap_below, ← List.count_append]
  exact (h.perm_append table.roots).count_eq number

/-- As a row below none is met once, so is by induction each row below one that is met once. -/
theorem count_eq_one (grounded : table.Grounded) {number : Nat}
    (hnumber : number < table.rows.length) : (table.roots.flatMap order).count number = 1 := by
  obtain ⟨rank, hrank⟩ := grounded
  generalize hrankn : rank number = height
  induction height using Nat.strongRecOn generalizing number with
  | ind height ih =>
    rw [linked.count_flatMap_order h, linked.count_roots hnumber]
    cases hparent : table.parent? number with
    | none => simp
    | some parent =>
      have hone := ih _ (hrankn ▸ hrank number parent hparent) (linked.parent_lt hparent) rfl
      have hcount : (table.roots.flatMap order).countP (some parent = some ·) =
          (table.roots.flatMap order).count parent :=
        List.countP_congr fun other _ => by
          rw [decide_eq_true_eq, Option.some.injEq, beq_iff_eq, eq_comm]
      rw [if_neg nofun, Nat.zero_add, hcount, hone]

theorem perm_range (grounded : table.Grounded) :
    (table.roots.flatMap order).Perm (List.range table.rows.length) := by
  rw [List.perm_iff_count]
  intro number
  rw [List.nodup_range.count]
  by_cases hnumber : number < table.rows.length
  · rw [if_pos (List.mem_range.mpr hnumber), linked.count_eq_one h grounded hnumber]
  · have hparent : table.parent? number = none := by
      rw [parent?, List.getElem?_eq_none (Nat.le_of_not_lt hnumber), Option.bind_none]
    have hroots := linked.count_directlyBelow number none
    rw [if_neg fun h => hnumber h.1] at hroots
    rw [if_neg (mt List.mem_range.mp hnumber), linked.count_flatMap_order h, hparent]
    simpa [directlyBelow] using hroots

theorem mem_order (grounded : table.Grounded) {number : Nat}
    (hnumber : number < table.rows.length) : number ∈ table.roots.flatMap order :=
  (linked.perm_range h grounded).mem_iff.mpr (List.mem_range.mpr hnumber)

theorem directlyBelow_sublist (grounded : table.Grounded) (place : Option Nat) :
    (table.directlyBelow place).Sublist (table.roots.flatMap order) := by
  cases place with
  | none => exact h.sublist_flatMap table.roots
  | some parent =>
    by_cases hparent : parent < table.rows.length
    · have hbelow := h.cons_sublist (linked.mem_order h grounded hparent)
      exact (List.sublist_cons_self parent _).trans hbelow
    · have hnil : table.below parent = [] := by
        rw [List.eq_nil_iff_forall_not_mem]
        exact fun number hnumber => hparent (linked.parent_lt (linked.mem_below.mp hnumber))
      rw [directlyBelow, hnil]
      exact List.nil_sublist _

theorem lists (grounded : table.Grounded) : table.Lists (table.roots.flatMap order) where
  perm := linked.perm_range h grounded
  parent_first := by
    intro number parent hparent
    have hbelow := h.cons_sublist (linked.mem_order h grounded (linked.parent_lt hparent))
    have hnumber := List.singleton_sublist.mpr (linked.mem_below.mpr hparent)
    exact (hnumber.cons_cons parent).trans hbelow
  siblings place := by
    have hfilter := (linked.directlyBelow_sublist h grounded place).filter
      (table.parent? · = place)
    rw [linked.directlyBelow_eq, List.filter_filter] at hfilter
    simp only [Bool.and_self] at hfilter
    exact (hfilter.eq_of_length ((linked.perm_range h grounded).filter _).length_eq.symm).symm

end Linked

/-- A length of paths by which the root is the shortest one. -/
def rank (path : String) : Nat := if path = "/" then 0 else path.toList.length

theorem rank_lt {upper path : String} (h : isProperPrefix upper path = true)
    (hpath : ¬ (upper = "/" ∧ path = "")) (hroot : ¬ (upper = "" ∧ path = "/")) :
    rank upper < rank path := by
  unfold isProperPrefix isBelow at h
  split at h
  · -- all paths lie below the root, and only the empty one is as short by rank
    rename_i hupper
    obtain rfl : upper = "/" := String.toList_inj.mp hupper
    have hne : path ≠ "/" := fun heq => of_decide_eq_true h (congrArg String.toList heq)
    rw [rank, if_pos rfl, rank, if_neg hne, List.length_pos_iff, ne_eq, ← String.toList_empty,
      String.toList_inj]
    exact fun hempty => hpath ⟨rfl, hempty⟩
  · -- the path goes on behind the upper one, so it is the longer text
    rename_i hupper
    obtain ⟨rest, hrest⟩ := List.isPrefixOf_iff_prefix.mp h
    have hlength := congrArg List.length hrest
    simp only [List.length_append, List.length_singleton] at hlength
    have hne : upper ≠ "/" := fun heq => hupper (congrArg String.toList heq)
    have hne' : path ≠ "/" := by
      rintro rfl
      have hone : "/".toList.length = 1 := rfl
      have hnil : upper.toList = [] := List.length_eq_zero_iff.mp (by omega)
      exact hroot ⟨String.toList_inj.mp (hnil.trans String.toList_empty.symm), rfl⟩
    rw [rank, if_neg hne, rank, if_neg hne']
    omega

variable {paths : List String}

/-- The root and the empty path would each lie below the other one. All other parents come before
their paths by rank. -/
theorem grounded_ofPaths (h : ¬ ("" ∈ paths ∧ "/" ∈ paths)) : (ofPaths paths).Grounded := by
  refine ⟨fun number => ((distinct paths)[number]?.map rank).getD 0, ?_⟩
  intro number parent hparent
  obtain ⟨path, upper, hpath, hupper, hprefix⟩ := exists_of_parent? paths hparent
  have hmem := mem_distinct.mp (List.mem_of_getElem? hpath)
  have hmem' := mem_distinct.mp (List.mem_of_getElem? hupper)
  simp only [hpath, hupper, Option.map_some, Option.getD_some]
  refine rank_lt hprefix ?_ ?_
  · rintro ⟨rfl, rfl⟩
    exact h ⟨hmem, hmem'⟩
  · rintro ⟨rfl, rfl⟩
    exact h ⟨hmem', hmem⟩

theorem roots_eq_nil (hempty : "" ∈ paths) (hroot : "/" ∈ paths) : (ofPaths paths).roots = [] := by
  have hparent : ∀ path, parentAmong (distinct paths) path ≠ none := by
    intro path hnone
    have hall := List.filter_eq_nil_iff.mp (foldl_longer_eq_none hnone).2
    by_cases hpath : path = "/"
    · refine hall "" (mem_distinct.mpr hempty) ?_
      rw [hpath]
      decide
    · refine hall "/" (mem_distinct.mpr hroot) ?_
      exact decide_eq_true fun heq => hpath (String.toList_inj.mp heq)
  have hnone := (linked_ofPaths paths).directlyBelow_eq none
  rw [directlyBelow] at hnone
  rw [hnone, List.filter_eq_nil_iff]
  intro number hnumber hlink
  rw [List.mem_range, length_rows] at hnumber
  rw [decide_eq_true_eq, parent?_ofPaths, List.getElem?_eq_getElem hnumber, Option.bind_some]
    at hlink
  rcases parentNumber_cases (distinct paths) (distinct paths)[number] with
    ⟨-, hamong⟩ | ⟨parent, _, hsome, -⟩
  · exact hparent _ hamong
  · exact Option.some_ne_none _ (hsome.symm.trans hlink)

/-- The loop over the stack meets all rows, each one once and in order, exactly if the root and the
empty path do not both have one. Paths in normal form are never empty. -/
theorem exists_lists_iff :
    (∃ order, (ofPaths paths).PreOrder order ∧ (ofPaths paths).Lists order) ↔
      ¬ ("" ∈ paths ∧ "/" ∈ paths) := by
  constructor
  · rintro ⟨order, horder, hlists⟩ ⟨hempty, hroot⟩
    have hnil : (ofPaths paths).PreOrder [] := by
      rw [PreOrder, roots_eq_nil hempty hroot]
      exact ⟨0, rfl⟩
    obtain rfl := horder.unique hnil
    have hlength := hlists.perm.length_eq
    rw [List.length_range, length_rows, List.length_nil, eq_comm, List.length_eq_zero_iff]
      at hlength
    exact List.not_mem_nil (hlength ▸ mem_distinct.mpr hempty)
  · intro h
    have hgrounded := grounded_ofPaths h
    obtain ⟨order, horder⟩ := (linked_ofPaths paths).exists_unfolds hgrounded
    exact ⟨_, horder.finds_all _, (linked_ofPaths paths).lists horder hgrounded⟩

example : (ofPaths ["/shops/{id}", "/", "/staff", "/shops"]).PreOrder [1, 2, 3, 0] :=
  ⟨4, by decide +kernel⟩

end ApiManual.Outline.Table
