import ApiManual.Pattern.Atom
import Mathlib.Data.Option.Basic

/-!
What closes an anchored pattern is behind the text of the pattern. A reader that gets through the
text by itself finds the same in it there, and leaves what is behind as it is. Only a comment at the
end of the text goes on through what closes it.
-/
namespace ApiManual.Pattern

/-- What is put behind the text of a pattern to anchor it. -/
def closing : List Char := [')', '$']

/-- The same text, with what closes an anchored pattern behind it unless a comment swallowed that.
-/
inductive Tailed : List Char → List Char → Prop
  | kept (text : List Char) : Tailed text (text ++ closing)
  | lost : Tailed [] []

/-- If a reader finds something in a text by itself, it finds the same in the longer one. -/
inductive Keeps {α : Type} : Option (α × List Char) → Option (α × List Char) → Prop
  | failed (wrapped : Option (α × List Char)) : Keeps none wrapped
  | found (a : α) {rest rest' : List Char} (h : Tailed rest rest') :
    Keeps (some (a, rest)) (some (a, rest'))

variable {α β : Type} {text text' rest rest' : List Char} {verbose : Bool}

theorem Tailed.nil (h : Tailed [] text') : text' = closing ∨ text' = [] := by
  cases h with
  | kept => exact .inl rfl
  | lost => exact .inr rfl

theorem Tailed.cons {c : Char} (h : Tailed (c :: rest) text') :
    ∃ rest', text' = c :: rest' ∧ Tailed rest rest' := by
  cases h
  exact ⟨rest ++ closing, rfl, .kept rest⟩

/-- A character of the longer text that closes nothing comes from the text itself. -/
theorem Tailed.ahead {c : Char} (h : Tailed text (c :: rest')) (hc : c ≠ ')') :
    ∃ rest, text = c :: rest ∧ Tailed rest rest' := by
  generalize hall : c :: rest' = text' at h
  cases h with
  | lost => cases hall
  | kept text =>
    cases text with
    | nil =>
      cases hall
      exact absurd rfl hc
    | cons first rest =>
      cases hall
      exact ⟨rest, rfl, .kept rest⟩

theorem Tailed.length_le (h : Tailed text text') : text.length ≤ text'.length := by
  cases h with
  | kept => simp
  | lost => simp

theorem Tailed.eq_nil (h : Tailed text []) : text = [] :=
  List.length_eq_zero_iff.mp (Nat.le_zero.mp h.length_le)

theorem Keeps.map {own wrapped : Option (α × List Char)} (f : α → β) (h : Keeps own wrapped) :
    Keeps (own.map fun (a, rest) => (f a, rest)) (wrapped.map fun (a, rest) => (f a, rest)) := by
  cases h with
  | failed => exact .failed _
  | found a h => exact .found (f a) h

theorem Keeps.bind {own wrapped : Option (α × List Char)}
    {f g : α × List Char → Option (β × List Char)} (h : Keeps own wrapped)
    (hf : ∀ a {rest rest'}, Tailed rest rest' → Keeps (f (a, rest)) (g (a, rest'))) :
    Keeps (own >>= f) (wrapped >>= g) := by
  cases h with
  | failed => exact .failed _
  | found a h => exact hf a h

theorem keeps_bind_left {o : Option β} {f g : β → Option (α × List Char)}
    (h : ∀ b, Keeps (f b) (g b)) : Keeps (o >>= f) (o >>= g) := by
  cases o with
  | none => exact .failed _
  | some b => exact h b

theorem keeps_ite {p : Prop} [Decidable p] {own own' wrapped wrapped' : Option (α × List Char)}
    (h : p → Keeps own wrapped) (h' : ¬p → Keeps own' wrapped') :
    Keeps (if p then own else own') (if p then wrapped else wrapped') := by
  split
  · exact h ‹_›
  · exact h' ‹_›

theorem tailed_skipVerbose (inComment : Bool) (text : List Char) :
    Tailed (skipVerbose inComment text) (skipVerbose inComment (text ++ closing)) := by
  induction text generalizing inComment with
  | nil =>
    cases inComment with
    | false => exact .kept []
    | true => exact .lost
  | cons c rest ih =>
    cases inComment with
    | true => exact ih (c ≠ '\n')
    | false =>
      simp only [List.cons_append, skipVerbose]
      split
      · exact ih false
      · split
        · exact ih true
        · exact .kept (c :: rest)

theorem Tailed.skip (verbose : Bool) (h : Tailed text text') :
    Tailed (skip verbose text) (skip verbose text') := by
  cases h with
  | lost => cases verbose <;> exact .lost
  | kept text =>
    cases verbose with
    | false => exact .kept text
    | true => exact tailed_skipVerbose false text

theorem Tailed.dropWhile {kind : Char → Bool}
    (hkind : closing.dropWhile kind = closing ∨ closing.dropWhile kind = [])
    (h : Tailed text text') : Tailed (text.dropWhile kind) (text'.dropWhile kind) := by
  cases h with
  | lost => exact .lost
  | kept text =>
    induction text with
    | nil =>
      rw [List.nil_append, List.dropWhile_nil]
      rcases hkind with h | h <;> rw [h]
      · exact .kept []
      · exact .lost
    | cons c rest ih =>
      rw [List.cons_append, List.dropWhile_cons, List.dropWhile_cons]
      split
      · exact ih
      · exact .kept (c :: rest)

theorem Tailed.dropWhile_blank (h : Tailed text text') :
    Tailed (text.dropWhile Text.isBlank) (text'.dropWhile Text.isBlank) :=
  h.dropWhile (.inl (by decide))

theorem length_skipVerbose_le (inComment : Bool) (text : List Char) :
    (skipVerbose inComment text).length ≤ text.length := by
  induction text generalizing inComment with
  | nil => cases inComment <;> exact Nat.le_refl _
  | cons c rest ih =>
    cases inComment with
    | true => exact Nat.le_succ_of_le (ih _)
    | false =>
      rw [skipVerbose]
      split
      · exact Nat.le_succ_of_le (ih _)
      · split
        · exact Nat.le_succ_of_le (ih _)
        · exact Nat.le_refl _

theorem length_skip_le (verbose : Bool) (text : List Char) :
    (skip verbose text).length ≤ text.length := by
  cases verbose with
  | false => exact Nat.le_refl _
  | true => exact length_skipVerbose_le false text

def run (kind : Char → Bool) (verbose : Bool) : Nat → List Char → List Char × List Char
  | 0, text => ([], text)
  | _ + 1, [] => ([], [])
  | fuel + 1, c :: rest =>
    if kind c then
      let (found, rest) := run kind verbose fuel (skip verbose rest)
      (c :: found, rest)
    else ([], c :: rest)

theorem run_behind {kind : Char → Bool} (hkind : kind ')' = false) (verbose : Bool) (fuel : Nat)
    (h : Tailed [] text') : run kind verbose fuel text' = ([], text') := by
  rcases h.nil with rfl | rfl
  · cases fuel <;> simp [run, closing, hkind]
  · cases fuel <;> rfl

/-- With enough fuel a run ends where it ends in the longer text, if it cannot go on there. -/
theorem run_tailed (kind : Char → Bool) (hkind : kind ')' = false) (verbose : Bool)
    {fuel fuel' : Nat} (hlength : text.length ≤ fuel) (hfuel : fuel ≤ fuel')
    (h : Tailed text text') :
    (run kind verbose fuel' text').1 = (run kind verbose fuel text).1 ∧
      Tailed (run kind verbose fuel text).2 (run kind verbose fuel' text').2 := by
  induction fuel generalizing fuel' text text' with
  | zero =>
    obtain rfl := List.length_eq_zero_iff.mp (Nat.le_zero.mp hlength)
    rw [run_behind hkind verbose fuel' h]
    exact ⟨rfl, h⟩
  | succ fuel ih =>
    obtain ⟨fuel', rfl⟩ : ∃ more, fuel' = more + 1 := Nat.exists_eq_add_one.mpr (by omega)
    cases text with
    | nil =>
      rw [run_behind hkind verbose (fuel' + 1) h]
      exact ⟨rfl, h⟩
    | cons c rest =>
      obtain ⟨rest', rfl, hrest⟩ := h.cons
      have hshorter := length_skip_le verbose rest
      rw [List.length_cons] at hlength
      obtain ⟨hfound, hafter⟩ := ih (by omega) (Nat.le_of_succ_le_succ hfuel) (hrest.skip verbose)
      simp only [run]
      split
      · exact ⟨congrArg (c :: ·) hfound, hafter⟩
      · exact ⟨rfl, h⟩

theorem keeps_exactly? {count : Nat} (h : Tailed text text') :
    Keeps (exactly? verbose count text) (exactly? verbose count text') := by
  induction count generalizing text text' with
  | zero => exact .found [] h
  | succ count ih =>
    cases text with
    | nil => exact .failed _
    | cons c rest =>
      obtain ⟨rest', rfl, hrest⟩ := h.cons
      rw [exactly?, exactly?]
      exact Keeps.bind (ih (hrest.skip verbose)) fun digits _ _ h => .found (c :: digits) h

theorem keeps_upToBrace? {fuel fuel' : Nat} (hfuel : fuel ≤ fuel') (h : Tailed text text') :
    Keeps (upToBrace? verbose fuel text) (upToBrace? verbose fuel' text') := by
  induction fuel generalizing fuel' text text' with
  | zero => exact .failed _
  | succ fuel ih =>
    obtain ⟨fuel', rfl⟩ : ∃ more, fuel' = more + 1 := Nat.exists_eq_add_one.mpr (by omega)
    have h := h.skip verbose
    rw [upToBrace?, upToBrace?]
    generalize skip verbose text = text at h ⊢
    generalize skip verbose text' = text' at h ⊢
    split
    · exact .failed _
    · obtain ⟨rest', rfl, hrest⟩ := h.cons
      exact .found [] hrest
    · rename_i c rest hbrace
      obtain ⟨rest', rfl, hrest⟩ := h.cons
      split
      · contradiction
      · simp_all
      · rename_i heq
        cases heq
        exact (ih (by omega) hrest).map (c :: ·)

theorem keeps_hexLiteral? {letter : Char} (h : Tailed text text') :
    Keeps (hexLiteral? verbose letter text) (hexLiteral? verbose letter text') := by
  rw [hexLiteral?, hexLiteral?]
  generalize (if letter = 'x' then 2 else if letter = 'u' then 4 else 8) = count
  have h := h.skip verbose
  generalize skip verbose text = text at h ⊢
  generalize skip verbose text' = text' at h ⊢
  split
  · obtain ⟨rest', rfl, hrest⟩ := h.cons
    refine Keeps.bind (keeps_upToBrace? (Nat.succ_le_succ hrest.length_le) hrest)
      fun digits _ _ hrest => keeps_ite (fun _ => .failed _) fun _ => ?_
    exact keeps_bind_left fun c => .found _ (hrest.skip verbose)
  · split
    · obtain ⟨rest, rfl, -⟩ := h.ahead (by decide)
      simp_all
    · refine Keeps.bind (keeps_exactly? h) fun digits _ _ h => ?_
      exact keeps_bind_left fun c => .found _ h

theorem keeps_property? (h : Tailed text text') :
    Keeps (property? verbose text) (property? verbose text') := by
  rw [property?, property?]
  have h := h.skip verbose
  generalize skip verbose text = text at h ⊢
  generalize skip verbose text' = text' at h ⊢
  split
  · exact .failed _
  · exact .failed _
  · obtain ⟨rest', rfl, hrest⟩ := h.cons
    exact (keeps_upToBrace? (Nat.succ_le_succ hrest.length_le) hrest).map propertyOf
  · obtain ⟨rest', rfl, hrest⟩ := h.cons
    split
    · contradiction
    · simp_all
    · simp_all
    · rename_i heq
      cases heq
      exact .found _ (hrest.skip verbose)

theorem wordEdgeName_eq_run (fuel : Nat) (text : List Char) :
    wordEdgeName verbose fuel text = run isWordEdgeLetter verbose fuel text := by
  induction fuel generalizing text with
  | zero => rfl
  | succ fuel ih => cases text <;> simp only [wordEdgeName, run, ih]

theorem keeps_wordEdge? (h : Tailed text text') :
    Keeps (wordEdge? verbose text) (wordEdge? verbose text') := by
  rw [wordEdge?.eq_def, wordEdge?.eq_def]
  split
  · rename_i rest
    obtain ⟨rest', rfl, hrest⟩ := h.cons
    have hskip := hrest.skip verbose
    simp only
    generalize skip verbose rest = body at hskip ⊢
    generalize skip verbose rest' = body' at hskip ⊢
    split
    · exact .failed _
    · rename_i c body
      obtain ⟨body', rfl, hbody⟩ := hskip.cons
      refine keeps_ite (fun _ => ?_) fun _ => .found _ h
      obtain ⟨hname, hafter⟩ := run_tailed isWordEdgeLetter (by decide) verbose
        (Nat.le_refl (body.length + 1)) (Nat.succ_le_succ hbody.length_le) hskip
      simp only [Nat.succ_eq_add_one] at hname hafter
      simp only [wordEdgeName_eq_run, hname]
      split
      · rename_i heq
        rw [heq] at hafter
        obtain ⟨after, heq', hafter⟩ := hafter.cons
        rw [heq']
        split
        case h_5 => exact .failed _
        all_goals exact .found _ hafter
      · exact .failed _
  · split
    · obtain ⟨rest, rfl, -⟩ := h.ahead (by decide)
      simp_all
    · exact .found _ h

theorem keeps_escape? (h : Tailed text text') :
    Keeps (escape? verbose text) (escape? verbose text') := by
  cases text with
  | nil => exact .failed _
  | cons c rest =>
    obtain ⟨rest', rfl, hrest⟩ := h.cons
    rw [escape?.eq_def, escape?.eq_def]
    dsimp only
    refine keeps_ite (fun _ => (keeps_hexLiteral? hrest).map Atom.literal) fun _ => ?_
    refine keeps_ite (fun _ => (keeps_property? hrest).map (Atom.property · (c = 'P'))) fun _ => ?_
    refine keeps_ite (fun _ => .found _ hrest) fun _ => ?_
    split
    · exact .found _ hrest
    · split
      case h_9 => exact (keeps_wordEdge? hrest).map Atom.assertion
      case h_13 => exact .failed _
      all_goals exact .found _ hrest

theorem keeps_atom? (h : Tailed text text') :
    Keeps (atom? verbose text) (atom? verbose text') := by
  rw [atom?.eq_def, atom?.eq_def]
  split
  · exact .failed _
  · obtain ⟨rest', rfl, hrest⟩ := h.cons
    exact keeps_escape? hrest
  · obtain ⟨rest', rfl, hrest⟩ := h.cons
    exact .found _ hrest
  · obtain ⟨rest', rfl, hrest⟩ := h.cons
    exact .found _ hrest
  · obtain ⟨rest', rfl, hrest⟩ := h.cons
    exact .found _ hrest
  · obtain ⟨rest', rfl, hrest⟩ := h.cons
    split
    · contradiction
    · simp_all
    · simp_all
    · simp_all
    · simp_all
    · rename_i heq
      cases heq
      exact .found _ hrest

theorem digits_eq_run (fuel : Nat) (text : List Char) :
    decimal?.digits verbose fuel text = run Char.isDigit verbose fuel text := by
  induction fuel generalizing text with
  | zero => rfl
  | succ fuel ih => cases text <;> simp only [decimal?.digits, run, ih]

theorem trailing_eq_run (fuel : Nat) (text : List Char) :
    decimal?.trailing verbose fuel text = (run Text.isBlank verbose fuel text).2 := by
  induction fuel generalizing text with
  | zero => rfl
  | succ fuel ih =>
    cases text with
    | nil => rfl
    | cons c rest =>
      simp only [decimal?.trailing, run, ih]
      split <;> rfl

theorem keeps_decimal? (h : Tailed text text') :
    Keeps (decimal? verbose text) (decimal? verbose text') := by
  have hblank := h.dropWhile_blank
  obtain ⟨hdigits, hafter⟩ := run_tailed Char.isDigit (by decide) verbose
    (Nat.le_succ_of_le (List.dropWhile_sublist Text.isBlank).length_le)
    (Nat.succ_le_succ h.length_le) hblank
  simp only [Nat.succ_eq_add_one] at hdigits hafter
  rw [decimal?, decimal?]
  simp only [digits_eq_run, trailing_eq_run, hdigits]
  refine keeps_ite (fun _ => .failed _) fun _ => .found _ ?_
  exact (run_tailed Text.isBlank (by decide) verbose (Nat.le_succ _)
    (Nat.succ_le_succ hafter.length_le) hafter).2

theorem keeps_counts? (h : Tailed text text') :
    Keeps (counts? verbose text) (counts? verbose text') := by
  rw [counts?, counts?]
  refine Keeps.bind (keeps_decimal? (h.skip verbose)) fun least rest rest' h => ?_
  simp only
  split
  · obtain ⟨rest', rfl, hrest⟩ := h.cons
    exact .found _ hrest
  · rename_i rest
    obtain ⟨rest', rfl, hrest⟩ := h.cons
    have hskip := hrest.skip verbose
    simp only
    generalize skip verbose rest = text at hskip ⊢
    generalize skip verbose rest' = text' at hskip ⊢
    split
    · obtain ⟨rest', rfl, hrest⟩ := hskip.cons
      exact .found _ hrest
    · split
      · obtain ⟨rest, rfl, -⟩ := hskip.ahead (by decide)
        simp_all
      · refine Keeps.bind (keeps_decimal? hskip) fun most rest rest' h => ?_
        simp only
        split
        · obtain ⟨rest', rfl, hrest⟩ := h.cons
          exact keeps_ite (fun _ => .found _ hrest) fun _ => .failed _
        · exact .failed _
  · exact .failed _

end ApiManual.Pattern
