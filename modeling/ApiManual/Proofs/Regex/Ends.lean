import ApiManual.Proofs.Distinct
import ApiManual.Regex

/-!
The ends that are computed are those of matches. Rounds of a repetition that match nothing lead
nowhere, so a match has no more rounds than its text has characters once they are left out.
-/
namespace ApiManual.Regex

def after (previous : Option Char) (word : List Char) : Option Char :=
  Place.behind ⟨previous, []⟩ word

theorem after_append (previous : Option Char) (first second : List Char) :
    after previous (first ++ second) = after (after previous first) second := by
  induction first generalizing previous with
  | nil => rfl
  | cons c rest ih => exact ih (some c)

/-- The least number of rounds of a repetition is not greater than the most. -/
def Ordered : Regex → Prop
  | seq r s => r.Ordered ∧ s.Ordered
  | either r s => r.Ordered ∧ s.Ordered
  | repeated least most r => (∀ m, most = some m → least ≤ m) ∧ r.Ordered
  | _ => True

/-- A match leads from one place to another one. -/
def Reaches (r : Regex) (p q : Place) : Prop :=
  ∃ word, p.rest = word ++ q.rest ∧ Matches r p.previous word q.rest ∧
    q.previous = after p.previous word

/-- So many matches, one behind the other. -/
inductive Rounds (r : Regex) : Nat → Place → Place → Prop
  | none (p : Place) : Rounds r 0 p p
  | more {count : Nat} {p middle q : Place} :
    Reaches r p middle → Rounds r count middle q → Rounds r (count + 1) p q

variable {r s : Regex} {p q : Place} {count : Nat}

theorem rounds_iff :
    Rounds r count p q ↔ ∃ word, p.rest = word ++ q.rest ∧
      MatchesTimes r count p.previous word q.rest ∧ q.previous = after p.previous word := by
  constructor
  · intro h
    induction h with
    | none p => exact ⟨[], rfl, .none, rfl⟩
    | more hfirst _ ih =>
      obtain ⟨first, hrest, hmatch, hprevious⟩ := hfirst
      obtain ⟨word, hrest', hmatches, hprevious'⟩ := ih
      rw [hrest'] at hmatch
      rw [hprevious] at hmatches
      refine ⟨first ++ word, by rw [hrest, hrest', List.append_assoc], .more hmatch hmatches, ?_⟩
      rw [hprevious', hprevious, after_append]
  · rintro ⟨word, hrest, hmatches, hprevious⟩
    obtain ⟨previous, text⟩ := p
    obtain ⟨previous', rest⟩ := q
    dsimp only at hrest hmatches hprevious
    subst hrest hprevious
    induction count generalizing previous word with
    | zero =>
      cases hmatches
      exact .none _
    | succ count ih =>
      cases hmatches with
      | @more _ _ _ first second _ hfirst hsecond =>
        rw [List.append_assoc, after_append]
        exact .more ⟨first, rfl, hfirst, rfl⟩ (ih _ _ hsecond)

theorem Rounds.append {more : Nat} {middle : Place} (h : Rounds r count p middle)
    (h' : Rounds r more middle q) : Rounds r (count + more) p q := by
  induction h with
  | none => rwa [Nat.zero_add]
  | more hfirst _ ih =>
    rw [Nat.add_right_comm]
    exact .more hfirst (ih h')

theorem Rounds.split {more : Nat} (h : Rounds r (count + more) p q) :
    ∃ middle, Rounds r count p middle ∧ Rounds r more middle q := by
  induction count generalizing p with
  | zero =>
    rw [Nat.zero_add] at h
    exact ⟨p, .none p, h⟩
  | succ count ih =>
    rw [Nat.add_right_comm] at h
    cases h with
    | more hfirst hrest =>
      obtain ⟨middle, hbefore, hafter⟩ := ih hrest
      exact ⟨middle, .more hfirst hbefore, hafter⟩

/-- Rounds that match nothing can be left out. -/
theorem Rounds.shorten (h : Rounds r count p q) :
    ∃ fewer ≤ count, fewer + q.rest.length ≤ p.rest.length ∧ Rounds r fewer p q := by
  induction h with
  | none p => exact ⟨0, Nat.le_refl _, by omega, .none p⟩
  | @more count p middle q hfirst _ ih =>
    obtain ⟨fewer, hcount, hlength, hrounds⟩ := ih
    obtain ⟨word, hrest, hmatch, hprevious⟩ := hfirst
    cases word with
    | nil =>
      have hsame : middle = p := by
        cases p
        cases middle
        simp_all [after, Place.behind]
      exact ⟨fewer, by omega, hsame ▸ hlength, hsame ▸ hrounds⟩
    | cons c word =>
      have hshorter : middle.rest.length < p.rest.length := by
        rw [hrest, List.length_append, List.length_cons]
        omega
      exact ⟨fewer + 1, by omega, by omega, .more ⟨_, hrest, hmatch, hprevious⟩ hrounds⟩

theorem mem_times_round (h : ∀ {p q : Place}, q ∈ r.ends p ↔ Reaches r p q) (places : List Place) :
    q ∈ times (fun places => distinct (places.flatMap r.ends)) count places ↔
      ∃ p ∈ places, Rounds r count p q := by
  induction count generalizing places with
  | zero =>
    rw [times]
    constructor
    · exact fun hq => ⟨q, hq, .none q⟩
    · rintro ⟨p, hp, hrounds⟩
      cases hrounds
      exact hp
  | succ count ih =>
    rw [times, ih]
    simp only [mem_distinct, List.mem_flatMap, h]
    constructor
    · rintro ⟨middle, ⟨p, hp, hfirst⟩, hrounds⟩
      exact ⟨p, hp, .more hfirst hrounds⟩
    · rintro ⟨p, hp, hrounds⟩
      cases hrounds with
      | more hfirst hrounds => exact ⟨_, ⟨p, hp, hfirst⟩, hrounds⟩

theorem mem_times_addNew (h : ∀ {p q : Place}, q ∈ r.ends p ↔ Reaches r p q) (places : List Place) :
    q ∈ times (fun places => addNew places (places.flatMap r.ends)) count places ↔
      ∃ p ∈ places, ∃ fewer ≤ count, Rounds r fewer p q := by
  induction count generalizing places with
  | zero =>
    rw [times]
    constructor
    · exact fun hq => ⟨q, hq, 0, Nat.le_refl _, .none q⟩
    · rintro ⟨p, hp, fewer, hfewer, hrounds⟩
      cases Nat.le_zero.mp hfewer
      cases hrounds
      exact hp
  | succ count ih =>
    rw [times, ih]
    simp only [mem_addNew, List.mem_flatMap, h]
    constructor
    · rintro ⟨middle, hmiddle | ⟨p, hp, hfirst⟩, fewer, hfewer, hrounds⟩
      · exact ⟨middle, hmiddle, fewer, by omega, hrounds⟩
      · exact ⟨p, hp, fewer + 1, by omega, .more hfirst hrounds⟩
    · rintro ⟨p, hp, fewer, hfewer, hrounds⟩
      cases hrounds with
      | none => exact ⟨_, .inl hp, 0, by omega, .none _⟩
      | more hfirst hrounds => exact ⟨_, .inr ⟨p, hp, hfirst⟩, _, by omega, hrounds⟩

theorem reaches_empty_iff : Reaches .empty p q ↔ q = p := by
  constructor
  · rintro ⟨word, hrest, hmatch, hprevious⟩
    cases hmatch
    cases p
    cases q
    simp_all [after, Place.behind]
  · rintro rfl
    exact ⟨[], rfl, .empty, rfl⟩

theorem reaches_look_iff {condition : Look} :
    Reaches (.look condition) p q ↔ condition.holds p.previous p.rest.head? = true ∧ q = p := by
  constructor
  · rintro ⟨word, hrest, hmatch, hprevious⟩
    cases hmatch with
    | look h =>
      cases p
      cases q
      simp_all [after, Place.behind]
  · rintro ⟨h, rfl⟩
    exact ⟨[], rfl, .look h, rfl⟩

theorem reaches_one_iff {set : Unicode.CharSet} :
    Reaches (.one set) p q ↔
      ∃ c rest, p.rest = c :: rest ∧ set.hasChar c = true ∧ q = ⟨some c, rest⟩ := by
  constructor
  · rintro ⟨word, hrest, hmatch, hprevious⟩
    cases hmatch with
    | @one _ _ c _ h =>
      cases q
      exact ⟨c, _, hrest, h, congrArg (Place.mk · _) hprevious⟩
  · rintro ⟨c, rest, hrest, h, rfl⟩
    exact ⟨[c], hrest, .one h, rfl⟩

theorem reaches_seq_iff :
    Reaches (.seq r s) p q ↔ ∃ middle, Reaches r p middle ∧ Reaches s middle q := by
  constructor
  · rintro ⟨word, hrest, hmatch, hprevious⟩
    cases hmatch with
    | @seq _ _ _ first second _ hfirst hsecond =>
      refine ⟨⟨after p.previous first, second ++ q.rest⟩, ⟨first, ?_, hfirst, rfl⟩,
        ⟨second, rfl, hsecond, ?_⟩⟩
      · rw [hrest, List.append_assoc]
      · rw [hprevious, after_append]
  · rintro ⟨middle, ⟨first, hrest, hfirst, hprevious⟩, ⟨second, hrest', hsecond, hprevious'⟩⟩
    rw [hrest'] at hfirst
    rw [hprevious] at hsecond
    refine ⟨first ++ second, by rw [hrest, hrest', List.append_assoc], .seq hfirst hsecond, ?_⟩
    rw [hprevious', hprevious, after_append]

theorem reaches_either_iff : Reaches (.either r s) p q ↔ Reaches r p q ∨ Reaches s p q := by
  constructor
  · rintro ⟨word, hrest, hmatch, hprevious⟩
    cases hmatch with
    | first h => exact .inl ⟨word, hrest, h, hprevious⟩
    | second h => exact .inr ⟨word, hrest, h, hprevious⟩
  · rintro (⟨word, hrest, h, hprevious⟩ | ⟨word, hrest, h, hprevious⟩)
    · exact ⟨word, hrest, .first h, hprevious⟩
    · exact ⟨word, hrest, .second h, hprevious⟩

theorem reaches_repeated_iff {least : Nat} {most : Option Nat} :
    Reaches (.repeated least most r) p q ↔
      ∃ count, least ≤ count ∧ (∀ m, most = some m → count ≤ m) ∧ Rounds r count p q := by
  simp only [rounds_iff]
  constructor
  · rintro ⟨word, hrest, hmatch, hprevious⟩
    cases hmatch with
    | repeated hleast hmost h => exact ⟨_, hleast, hmost, word, hrest, h, hprevious⟩
  · rintro ⟨count, hleast, hmost, word, hrest, h, hprevious⟩
    exact ⟨word, hrest, .repeated hleast hmost h, hprevious⟩

theorem mem_ends_iff (ordered : r.Ordered) : q ∈ r.ends p ↔ Reaches r p q := by
  induction r generalizing p q with
  | empty => rw [ends, List.mem_singleton, reaches_empty_iff]
  | look condition =>
    rw [ends, reaches_look_iff]
    split <;> simp_all
  | one set =>
    rw [ends, reaches_one_iff]
    split
    · simp_all
    · rename_i c rest hrest
      split <;> simp_all
  | seq r s ihr ihs =>
    rw [ends, mem_distinct, List.mem_flatMap, reaches_seq_iff]
    simp only [ihr ordered.1, ihs ordered.2]
  | either r s ihr ihs =>
    rw [ends, mem_distinct, List.mem_append, reaches_either_iff, ihr ordered.1, ihs ordered.2]
  | repeated least most r ih =>
    have hends : ∀ {p q : Place}, q ∈ r.ends p ↔ Reaches r p q := ih ordered.2
    rw [ends, mem_times_addNew hends, reaches_repeated_iff]
    simp only [mem_times_round hends, List.mem_singleton, exists_eq_left]
    constructor
    · rintro ⟨middle, hbegun, more, hmore, hrounds⟩
      refine ⟨least + more, by omega, fun m hmost => ?_, hbegun.append hrounds⟩
      subst hmost
      have hleast := ordered.1 m rfl
      simp only [Option.map_some, Option.elim_some] at hmore
      omega
    · rintro ⟨count, hleast, hmost, hrounds⟩
      obtain ⟨more, rfl⟩ := Nat.exists_eq_add_of_le hleast
      obtain ⟨middle, hbegun, hoptional⟩ := hrounds.split
      obtain ⟨fewer, hfewer, hlength, hshort⟩ := hoptional.shorten
      obtain ⟨skipped, -, hbefore, -⟩ := hbegun.shorten
      refine ⟨middle, hbegun, fewer, ?_, hshort⟩
      cases most with
      | none =>
        simp only [Option.map_none, Option.elim_none]
        omega
      | some m =>
        have := hmost m rfl
        simp only [Option.map_some, Option.elim_some]
        omega

theorem mem_placesFrom {previous : Option Char} {text : List Char} :
    p ∈ placesFrom previous text ↔
      ∃ front, text = front ++ p.rest ∧ p.previous = after previous front := by
  induction text generalizing previous with
  | nil =>
    rw [placesFrom, List.mem_singleton]
    constructor
    · rintro rfl
      exact ⟨[], rfl, rfl⟩
    · rintro ⟨front, htext, hprevious⟩
      obtain ⟨rfl, hrest⟩ := List.append_eq_nil_iff.mp htext.symm
      exact congrArg₂ Place.mk hprevious hrest
  | cons c text ih =>
    rw [placesFrom, List.mem_cons, ih]
    constructor
    · rintro (rfl | ⟨front, rfl, hprevious⟩)
      · exact ⟨[], rfl, rfl⟩
      · exact ⟨c :: front, rfl, hprevious⟩
    · rintro ⟨front, htext, hprevious⟩
      cases front with
      | nil => exact .inl (congrArg₂ Place.mk hprevious htext.symm)
      | cons first front =>
        cases htext
        exact .inr ⟨front, rfl, hprevious⟩

/-- The expression matches a part of the text. -/
def MatchesPart (r : Regex) (text : List Char) : Prop :=
  ∃ front word rest, text = front ++ (word ++ rest) ∧ Matches r (after none front) word rest

/-- The expression matches the text from its first to its last character. -/
def MatchesAll (r : Regex) (text : List Char) : Prop := Matches r none text []

theorem matchesAll_iff (ordered : r.Ordered) {text : List Char} :
    MatchesAll r text ↔ ∃ q ∈ r.ends ⟨none, text⟩, q.rest = [] := by
  simp only [mem_ends_iff ordered]
  constructor
  · exact fun h => ⟨⟨after none text, []⟩, ⟨text, by simp, h, rfl⟩, rfl⟩
  · rintro ⟨q, ⟨word, hword, h, -⟩, hrest⟩
    rw [hrest] at hword h
    obtain rfl : text = word := hword.trans (List.append_nil word)
    exact h

theorem matchesIn_iff (ordered : r.Ordered) (text : List Char) :
    r.matchesIn text = true ↔ MatchesPart r text := by
  simp only [matchesIn, List.any_eq_true, mem_placesFrom, Bool.not_eq_true',
    List.isEmpty_eq_false_iff_exists_mem, mem_ends_iff ordered]
  constructor
  · rintro ⟨p, ⟨front, htext, hprevious⟩, q, word, hrest, hmatch, -⟩
    exact ⟨front, word, q.rest, hrest ▸ htext, hprevious ▸ hmatch⟩
  · rintro ⟨front, word, rest, htext, hmatch⟩
    exact ⟨⟨after none front, word ++ rest⟩, ⟨front, htext, rfl⟩,
      ⟨after (after none front) word, rest⟩, word, rfl, hmatch, rfl⟩

theorem MatchesAll.matchesPart {text : List Char} (h : MatchesAll r text) : MatchesPart r text :=
  ⟨[], text, [], by simp, h⟩

end ApiManual.Regex
