import ApiManual.Proofs.Outline.TableOrder

/-!
The visit of an outline is the loop over the stack of its table: it takes the entries of the rows in
the order in which the loop meets their numbers, and its fuel is enough for all of them.
-/
namespace ApiManual.Outline.Table

variable {paths : List String}

theorem map_some_filter {α : Type} {items : List α} {keep : α → Bool} {keepAt : Nat → Bool}
    (h : ∀ number item, items[number]? = some item → keep item = keepAt number) :
    (items.filter keep).map some =
      ((List.range items.length).filter keepAt).map (items[·]?) := by
  have hitem : ∀ pair ∈ items.zipIdx, items[pair.2]? = some pair.1 :=
    fun pair hpair => List.mk_mem_zipIdx_iff_getElem?.mp hpair
  have hkeep : items.zipIdx.filter (keep ∘ Prod.fst) = items.zipIdx.filter (keepAt ∘ Prod.snd) :=
    List.filter_congr fun pair hpair => h pair.2 pair.1 (hitem pair hpair)
  rw [List.range_eq_range', ← List.zipIdx_map_snd 0 items]
  conv_lhs => rw [← List.zipIdx_map_fst 0 items]
  rw [List.filter_map, List.filter_map, List.map_map, List.map_map, hkeep]
  exact List.map_congr_left fun pair hpair => (hitem pair (List.mem_filter.mp hpair).1).symm

theorem map_some_below (paths : List String) (place : Option Nat)
    (hplace : ∀ number ∈ place, number < (distinct paths).length) :
    ((Outline.ofPaths paths).below (place.bind ((distinct paths)[·]?))).map some =
      ((ofPaths paths).directlyBelow place).map ((Outline.ofPaths paths).entries[·]?) := by
  have hlength : (ofPaths paths).rows.length = (Outline.ofPaths paths).entries.length := by
    rw [length_rows, entries_ofPaths, List.length_map]
  rw [(linked_ofPaths paths).directlyBelow_eq, hlength]
  refine map_some_filter fun number entry hentry => ?_
  rw [entries_ofPaths, List.getElem?_map, Option.map_eq_some_iff] at hentry
  obtain ⟨path, hpath, rfl⟩ := hentry
  rw [parent?_ofPaths, hpath, Option.bind_some, entryOf, Entry.ofPath_parent, decide_eq_decide]
  rcases parentNumber_cases (distinct paths) path with
    ⟨hnone, hparent⟩ | ⟨parent, upper, hsome, hparent, hupper, -⟩
  · rw [hparent, hnone]
    cases place with
    | none => simp
    | some other => simp [List.getElem?_eq_getElem (hplace other rfl)]
  · -- no path has two rows, so the parent's number is told from its path
    rw [hparent, hsome, ← hupper]
    have hlt : parent < (distinct paths).length := (List.getElem?_eq_some_iff.mp hupper).1
    cases place with
    | none => simp [hupper]
    | some other =>
      rw [Option.bind_some, List.getElem?_inj hlt (nodup_distinct paths), Option.some.injEq]

variable {order : Nat → List Nat} (h : Traversal.Unfolds (ofPaths paths).below order)

include h

/-- The visit takes the entries of the rows in the order in which the loop meets their numbers. -/
theorem map_some_visit (steps : Nat) {pending : List Entry} {numbers : List Nat}
    (hpending : pending.map some = numbers.map ((Outline.ofPaths paths).entries[·]?)) :
    ((Outline.ofPaths paths).visit steps pending).map some =
      ((numbers.flatMap order).take steps).map ((Outline.ofPaths paths).entries[·]?) := by
  induction steps generalizing pending numbers with
  | zero => rfl
  | succ steps ih =>
    cases pending with
    | nil =>
      obtain rfl := List.map_eq_nil_iff.mp hpending.symm
      rfl
    | cons entry pending =>
      obtain ⟨number, rest, rfl, hentry, hrest⟩ := List.map_eq_cons_iff.mp hpending.symm
      have hpath : (distinct paths)[number]? = some entry.path := by
        rw [entries_ofPaths, List.getElem?_map, Option.map_eq_some_iff] at hentry
        obtain ⟨path, hpath, rfl⟩ := hentry
        rwa [entryOf_path]
      have hbelow := map_some_below paths (some number) <| by
        rintro _ ⟨⟩
        exact (List.getElem?_eq_some_iff.mp hpath).1
      rw [Option.bind_some, hpath] at hbelow
      unfold visit
      rw [h.flatMap_cons, List.take_succ_cons, List.map_cons, List.map_cons, hentry, ih]
      rw [List.map_append, List.map_append, hbelow, hrest]
      rfl

theorem map_some_preOrder (grounded : (ofPaths paths).Grounded) :
    (Outline.ofPaths paths).preOrder.map some =
      ((ofPaths paths).roots.flatMap order).map ((Outline.ofPaths paths).entries[·]?) := by
  have hlength : ((ofPaths paths).roots.flatMap order).length =
      (Outline.ofPaths paths).entries.length := by
    rw [((linked_ofPaths paths).perm_range h grounded).length_eq, List.length_range, length_rows,
      entries_ofPaths, List.length_map]
  have hroots : ((Outline.ofPaths paths).below none).map some =
      (ofPaths paths).roots.map ((Outline.ofPaths paths).entries[·]?) :=
    map_some_below paths none nofun
  unfold Outline.preOrder
  rw [map_some_visit h _ hroots, ← hlength, List.take_length]

end ApiManual.Outline.Table
