import ApiManual.Pattern.Set
import ApiManual.Proofs.Pattern.Tail

/-! What is read between square brackets does not depend on what closes an anchored pattern. -/
namespace ApiManual.Pattern

variable {text text' rest rest' : List Char} {verbose : Bool}

theorem takeWhile_tailed {kind : Char → Bool} (hends : text.dropWhile kind ≠ [])
    (h : Tailed text text') : text'.takeWhile kind = text.takeWhile kind := by
  cases h with
  | lost => rfl
  | kept text =>
    induction text with
    | nil => exact absurd rfl hends
    | cons c rest ih =>
      rw [List.cons_append, List.takeWhile_cons, List.takeWhile_cons]
      rw [List.dropWhile_cons] at hends
      split
      · rw [ih (by simp_all)]
      · rfl

/-- Whether a caret comes first, and what comes after it. -/
def afterCaret : List Char → Bool × List Char
  | '^' :: rest => (true, rest)
  | rest => (false, rest)

theorem afterCaret_tailed (h : Tailed text text') :
    (afterCaret text').1 = (afterCaret text).1 ∧
      Tailed (afterCaret text).2 (afterCaret text').2 := by
  rw [afterCaret.eq_def, afterCaret.eq_def]
  split
  · obtain ⟨rest, rfl, hrest⟩ := h.ahead (by decide)
    exact ⟨rfl, hrest⟩
  · split
    · obtain ⟨rest', rfl, -⟩ := h.cons
      simp_all
    · exact ⟨rfl, h⟩

def asciiNamed? (negated : Bool) (text : List Char) : Option (SetPattern × List Char) := do
  let kind ← asciiClass? (String.ofList (text.takeWhile (· ≠ ':')))
  match text.dropWhile (· ≠ ':') with
  | ':' :: ']' :: rest => return (.ascii kind negated, rest)
  | _ => none

theorem asciiSet?_colon (text : List Char) :
    asciiSet? (':' :: text) = asciiNamed? (afterCaret text).1 (afterCaret text).2 := rfl

theorem asciiNamed?_tailed (negated : Bool) (h : Tailed text text') :
    Keeps (asciiNamed? negated text) (asciiNamed? negated text') ∧
      (asciiNamed? negated text = none → asciiNamed? negated text' = none) := by
  have hdrop : Tailed (text.dropWhile (· ≠ ':')) (text'.dropWhile (· ≠ ':')) :=
    h.dropWhile (.inr (by decide))
  rw [asciiNamed?, asciiNamed?]
  by_cases hends : text.dropWhile (· ≠ ':') = []
  · rw [hends] at hdrop ⊢
    rcases hdrop.nil with h | h <;> rw [h] <;> simp [closing, Keeps.failed]
  · rw [takeWhile_tailed hends h]
    cases asciiClass? (String.ofList (text.takeWhile (· ≠ ':'))) with
    | none => exact ⟨.failed _, fun _ => rfl⟩
    | some kind =>
      generalize text.dropWhile (· ≠ ':') = after at hdrop ⊢
      generalize text'.dropWhile (· ≠ ':') = after' at hdrop ⊢
      simp only [Option.bind_eq_bind, Option.bind_some]
      split
      · obtain ⟨rest', rfl, hrest⟩ := hdrop.cons
        obtain ⟨rest', rfl, hafter⟩ := hrest.cons
        exact ⟨.found _ hafter, fun h => absurd h (Option.some_ne_none _)⟩
      · split
        · obtain ⟨rest, rfl, hrest⟩ := hdrop.ahead (by decide)
          obtain ⟨rest, rfl, -⟩ := hrest.ahead (by decide)
          simp_all
        · exact ⟨.failed _, fun _ => rfl⟩

theorem asciiSet?_tailed (h : Tailed text text') :
    Keeps (asciiSet? text) (asciiSet? text') ∧
      (asciiSet? text = none → asciiSet? text' = none) := by
  by_cases hcolon : ∃ rest, text = ':' :: rest
  · obtain ⟨rest, rfl⟩ := hcolon
    obtain ⟨rest', rfl, hrest⟩ := h.cons
    obtain ⟨hnegated, hafter⟩ := afterCaret_tailed hrest
    rw [asciiSet?_colon, asciiSet?_colon, hnegated]
    exact asciiNamed?_tailed _ hafter
  · rw [asciiSet?.eq_def, asciiSet?.eq_def]
    split
    · exact absurd ⟨_, rfl⟩ hcolon
    · split
      · obtain ⟨rest, rfl, -⟩ := h.ahead (by decide)
        exact absurd ⟨_, rfl⟩ hcolon
      · exact ⟨.failed _, fun _ => rfl⟩

theorem keeps_setAtom? (h : Tailed text text') :
    Keeps (setAtom? verbose text) (setAtom? verbose text') := by
  rw [setAtom?.eq_def, setAtom?.eq_def]
  split
  · exact .failed _
  · obtain ⟨rest', rfl, hrest⟩ := h.cons
    exact keeps_escape? hrest
  · obtain ⟨rest', rfl, hrest⟩ := h.cons
    split
    · contradiction
    · simp_all
    · rename_i heq
      cases heq
      exact .found _ hrest

theorem head?_tailed {c : Char} (hc : c ≠ ')') (h : Tailed text text') :
    text'.head? = some c ↔ text.head? = some c := by
  cases h with
  | lost => rfl
  | kept text =>
    cases text with
    | nil => simp [closing, hc.symm]
    | cons first rest => rfl

/-- The character after a hyphen that is no blank, where a number sign is passed over once. -/
def markAfter (text : List Char) : Option Char :=
  match text.dropWhile Text.isBlank with
  | '#' :: rest => (rest.dropWhile Text.isBlank).head?
  | rest => rest.head?

theorem markAfter_tailed {c : Char} (hc : c ≠ ')') (h : Tailed text text') :
    markAfter text' = some c ↔ markAfter text = some c := by
  rw [markAfter, markAfter]
  have h := h.dropWhile_blank
  generalize text.dropWhile Text.isBlank = text at h ⊢
  generalize text'.dropWhile Text.isBlank = text' at h ⊢
  split
  · obtain ⟨rest, rfl, hrest⟩ := h.ahead (by decide)
    exact head?_tailed hc hrest.dropWhile_blank
  · split
    · obtain ⟨rest', rfl, -⟩ := h.cons
      simp_all
    · exact head?_tailed hc h

theorem afterHyphen?_eq_some_iff {c : Char} (hblank : Text.isBlank c = false) (hsign : c ≠ '#') :
    afterHyphen? true text = some c ↔ markAfter text = some c := by
  have hhead : text.head? = some c → markAfter text = some c := by
    intro h
    obtain ⟨rest, rfl⟩ := List.head?_eq_some_iff.mp h
    simp [markAfter, hblank, hsign]
  have hafter : afterHyphen? true text = (markAfter text <|> text.head?) := rfl
  rw [hafter]
  cases hmark : markAfter text with
  | none => simpa [hmark] using hhead
  | some c' => rfl

theorem afterHyphen?_tailed {c : Char} (hc : c ≠ ')') (hblank : Text.isBlank c = false)
    (hsign : c ≠ '#') (h : Tailed text text') :
    afterHyphen? verbose text' = some c ↔ afterHyphen? verbose text = some c := by
  cases verbose with
  | false => exact head?_tailed hc h
  | true =>
    rw [afterHyphen?_eq_some_iff hblank hsign, afterHyphen?_eq_some_iff hblank hsign,
      markAfter_tailed hc h]

theorem keeps_rangeOrItem? (h : Tailed text text') :
    Keeps (rangeOrItem? verbose text) (rangeOrItem? verbose text') := by
  rw [rangeOrItem?, rangeOrItem?]
  refine Keeps.bind (keeps_setAtom? h) fun first rest rest' h => ?_
  have h := h.skip verbose
  simp only
  generalize skip verbose rest = text at h ⊢
  generalize skip verbose rest' = text' at h ⊢
  split
  · exact .failed _
  · rename_i rest
    obtain ⟨rest', rfl, hrest⟩ := h.cons
    simp only [afterHyphen?_tailed (c := ']') (by decide) (by decide) (by decide) hrest,
      afterHyphen?_tailed (c := '-') (by decide) (by decide) (by decide) hrest]
    refine keeps_ite (fun _ => keeps_bind_left fun item => .found item h) fun _ => ?_
    refine Keeps.bind (keeps_setAtom? (hrest.skip verbose)) fun last _ _ h => ?_
    simp only
    split
    · exact keeps_ite (fun _ => .found _ h) fun _ => .failed _
    · exact .failed _
  · split
    · exact absurd h.eq_nil ‹_›
    · obtain ⟨rest, rfl, -⟩ := h.ahead (by decide)
      simp_all
    · exact keeps_bind_left fun item => .found item h

theorem leadingHyphens_eq_run (fuel : Nat) (text : List Char) :
    leadingHyphens verbose fuel text =
      ((run (· = '-') verbose fuel text).1.map fun c => .literal ⟨c, false⟩,
        (run (· = '-') verbose fuel text).2) := by
  induction fuel generalizing text with
  | zero => rfl
  | succ fuel ih =>
    cases text with
    | nil => rfl
    | cons c rest =>
      by_cases hc : c = '-'
      · subst hc
        simp [leadingHyphens, run, ih]
      · rw [leadingHyphens.eq_def]
        simp [run, hc]

def setLead (verbose negated : Bool) (text : List Char) : Bool × List SetPattern × List Char :=
  match leadingHyphens verbose (text.length + 1) text with
  | ([], ']' :: rest) => (negated, [.literal ⟨']', false⟩], skip verbose rest)
  | (items, rest) => (negated, items.reverse, rest)

theorem setLead_tailed (verbose negated : Bool) (h : Tailed text text') :
    (setLead verbose negated text').1 = (setLead verbose negated text).1 ∧
      (setLead verbose negated text').2.1 = (setLead verbose negated text).2.1 ∧
      Tailed (setLead verbose negated text).2.2 (setLead verbose negated text').2.2 := by
  obtain ⟨hfound, hafter⟩ := run_tailed (· = '-') (by decide) verbose
    (Nat.le_succ text.length) (Nat.succ_le_succ h.length_le) h
  simp only [Nat.succ_eq_add_one] at hfound hafter
  simp only [setLead, leadingHyphens_eq_run, hfound]
  generalize (run (· = '-') verbose (text.length + 1) text).1 = hyphens
  generalize (run (· = '-') verbose (text.length + 1) text).2 = after at hafter ⊢
  generalize (run (· = '-') verbose (text'.length + 1) text').2 = after' at hafter ⊢
  cases hyphens with
  | nil =>
    simp only [List.map_nil]
    split
    · rename_i heq
      cases heq
      obtain ⟨rest, rfl, hrest⟩ := hafter.ahead (by decide)
      exact ⟨rfl, rfl, hrest.skip verbose⟩
    · rename_i hother heq
      cases heq
      split
      · rename_i heq
        cases heq
        obtain ⟨rest', rfl, -⟩ := hafter.cons
        exact absurd rfl (hother rest' rfl)
      · rename_i heq
        cases heq
        exact ⟨rfl, rfl, hafter⟩
  | cons c hyphens => exact ⟨rfl, rfl, hafter⟩

def setCaret (verbose : Bool) (text : List Char) : Bool × List Char :=
  match skip verbose text with
  | '^' :: rest => (true, skip verbose rest)
  | text => (false, text)

theorem setCaret_tailed (verbose : Bool) (h : Tailed text text') :
    (setCaret verbose text').1 = (setCaret verbose text).1 ∧
      Tailed (setCaret verbose text).2 (setCaret verbose text').2 := by
  have h := h.skip verbose
  rw [setCaret, setCaret]
  generalize skip verbose text = text at h ⊢
  generalize skip verbose text' = text' at h ⊢
  split
  · obtain ⟨rest, rfl, hrest⟩ := h.ahead (by decide)
    exact ⟨rfl, hrest.skip verbose⟩
  · split
    · obtain ⟨rest', rfl, -⟩ := h.cons
      simp_all
    · exact ⟨rfl, h⟩

theorem setStart_eq (verbose : Bool) (text : List Char) :
    setStart verbose text = setLead verbose (setCaret verbose text).1 (setCaret verbose text).2 :=
  rfl

theorem setStart_tailed (verbose : Bool) (h : Tailed text text') :
    (setStart verbose text').1 = (setStart verbose text).1 ∧
      (setStart verbose text').2.1 = (setStart verbose text).2.1 ∧
      Tailed (setStart verbose text).2.2 (setStart verbose text').2.2 := by
  obtain ⟨hnegated, hrest⟩ := setCaret_tailed verbose h
  rw [setStart_eq, setStart_eq, hnegated]
  exact setLead_tailed verbose _ hrest

theorem keeps_setReaders (fuel : Nat) :
    (∀ {fuel' text text'}, fuel ≤ fuel' → Tailed text text' →
      Keeps (set? verbose fuel text) (set? verbose fuel' text')) ∧
    (∀ {fuel' text text'} pending items, fuel ≤ fuel' → Tailed text text' →
      Keeps (setItems? verbose fuel pending items text)
        (setItems? verbose fuel' pending items text')) := by
  induction fuel with
  | zero =>
    constructor
    · intros
      rw [set?]
      exact .failed _
    · intros
      rw [setItems?]
      exact .failed _
  | succ fuel ih =>
    obtain ⟨ihset, ihitems⟩ := ih
    constructor
    · intro fuel' text text' hfuel h
      obtain ⟨fuel', rfl⟩ : ∃ more, fuel' = more + 1 := Nat.exists_eq_add_one.mpr (by omega)
      obtain ⟨hnegated, hitems, hrest⟩ := setStart_tailed verbose h
      simp only [set?, hnegated, hitems]
      exact Keeps.bind (ihitems _ _ (by omega) hrest) fun body _ _ h => .found _ h
    · intro fuel' text text' pending items hfuel h
      obtain ⟨fuel', rfl⟩ : ∃ more, fuel' = more + 1 := Nat.exists_eq_add_one.mpr (by omega)
      have hitems := fun pending items {text text'} =>
        @ihitems fuel' text text' pending items (Nat.le_of_succ_le_succ hfuel)
      rw [setItems?, setItems?]
      have h := h.skip verbose
      simp only
      generalize skip verbose text = text at h ⊢
      generalize skip verbose text' = text' at h ⊢
      split
      · exact .failed _
      · obtain ⟨rest', rfl, hrest⟩ := h.cons
        obtain ⟨hclass, hnone⟩ := asciiSet?_tailed hrest
        simp only
        split
        · rename_i heq
          rw [heq] at hclass
          generalize asciiSet? rest' = wrapped at hclass ⊢
          cases hclass with
          | found item hrest => exact hitems _ _ hrest
        · rename_i heq
          rw [hnone heq]
          exact Keeps.bind (ihset (Nat.le_of_succ_le_succ hfuel) hrest) fun item _ _ h =>
            hitems _ _ h
      · obtain ⟨rest', rfl, hrest⟩ := h.cons
        exact .found _ hrest
      · obtain ⟨rest', rfl, hrest⟩ := h.cons
        obtain ⟨rest', rfl, hafter⟩ := hrest.cons
        exact hitems _ _ hafter
      · obtain ⟨rest', rfl, hrest⟩ := h.cons
        obtain ⟨rest', rfl, hafter⟩ := hrest.cons
        exact hitems _ _ hafter
      · obtain ⟨rest', rfl, hrest⟩ := h.cons
        obtain ⟨rest', rfl, hafter⟩ := hrest.cons
        exact hitems _ _ hafter
      -- A mark that the text does not begin with is not made by what is behind it.
      · rename_i hnil hset hend hboth hminus heither
        split
        · exact absurd h.eq_nil hnil
        · obtain ⟨rest, rfl, -⟩ := h.ahead (by decide)
          exact absurd rfl (hset rest)
        · obtain ⟨rest, rfl, -⟩ := h.ahead (by decide)
          exact absurd rfl (hend rest)
        · obtain ⟨rest, rfl, hrest⟩ := h.ahead (by decide)
          obtain ⟨rest, rfl, -⟩ := hrest.ahead (by decide)
          exact absurd rfl (hboth rest)
        · obtain ⟨rest, rfl, hrest⟩ := h.ahead (by decide)
          obtain ⟨rest, rfl, -⟩ := hrest.ahead (by decide)
          exact absurd rfl (hminus rest)
        · obtain ⟨rest, rfl, hrest⟩ := h.ahead (by decide)
          obtain ⟨rest, rfl, -⟩ := hrest.ahead (by decide)
          exact absurd rfl (heither rest)
        · exact Keeps.bind (keeps_rangeOrItem? h) fun item _ _ h => hitems _ _ h

end ApiManual.Pattern
