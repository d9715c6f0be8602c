import ApiManual.Proofs.Pattern.SetTail
import ApiManual.Proofs.Pattern.Turn

/-!
A pattern that is well-formed by itself is one group of the pattern that anchors it, unless a
comment at its end hides what closes that group.
-/
namespace ApiManual.Pattern

variable {text text' rest rest' : List Char} {verbose : Bool}

theorem keeps_flags? {on hyphenLast : Bool} {changes : FlagChanges} (h : Tailed text text') :
    Keeps (flags? on hyphenLast changes text) (flags? on hyphenLast changes text') := by
  induction text generalizing text' on hyphenLast changes with
  | nil => exact .failed _
  | cons c rest ih =>
    obtain ⟨rest', rfl, hrest⟩ := h.cons
    rw [flags?, flags?]
    refine keeps_ite (fun _ => keeps_ite (fun _ => .failed _) fun _ => .found _ h) fun _ => ?_
    refine keeps_ite (fun _ => keeps_ite (fun _ => ih hrest) fun _ => .failed _) fun _ => ?_
    exact keeps_bind_left fun flag => keeps_ite (fun _ => .failed _) fun _ => ih hrest

theorem Tailed.skipLazy (h : Tailed text text') : Tailed (skipLazy text) (skipLazy text') := by
  rw [Pattern.skipLazy.eq_def, Pattern.skipLazy.eq_def]
  split
  · obtain ⟨rest', rfl, hrest⟩ := h.cons
    exact hrest
  · split
    · obtain ⟨rest, rfl, -⟩ := h.ahead (by decide)
      simp_all
    · exact h

def groupName? (text : List Char) : Option (GroupStart × List Char) :=
  match text.dropWhile (· ≠ '>') with
  | '>' :: rest =>
    if isGroupName (text.takeWhile (· ≠ '>')) then
      some (.named (String.ofList (text.takeWhile (· ≠ '>'))), rest)
    else none
  | _ => none

theorem keeps_groupName? (h : Tailed text text') : Keeps (groupName? text) (groupName? text') := by
  have hdrop : Tailed (text.dropWhile (· ≠ '>')) (text'.dropWhile (· ≠ '>')) :=
    h.dropWhile (.inr (by decide))
  rw [groupName?, groupName?]
  split
  · rename_i heq
    rw [takeWhile_tailed (heq ▸ List.cons_ne_nil _ _) h]
    rw [heq] at hdrop
    obtain ⟨rest', heq', hrest⟩ := hdrop.cons
    rw [heq']
    exact keeps_ite (fun _ => .found _ hrest) fun _ => .failed _
  · exact .failed _

theorem keeps_groupStart? (h : Tailed text text') :
    Keeps (groupStart? verbose text) (groupStart? verbose text') := by
  have h := h.skip verbose
  rw [groupStart?, groupStart?]
  simp only
  generalize skip verbose text = text at h ⊢
  generalize skip verbose text' = text' at h ⊢
  split
  · obtain ⟨rest', rfl, hletter⟩ := h.cons
    obtain ⟨rest', rfl, hbracket⟩ := hletter.cons
    obtain ⟨rest', rfl, hname⟩ := hbracket.cons
    exact keeps_groupName? hname
  · obtain ⟨rest', rfl, hbracket⟩ := h.cons
    obtain ⟨rest', rfl, hname⟩ := hbracket.cons
    simp only [head?_tailed (c := '=') (by decide) hname, head?_tailed (c := '!') (by decide) hname]
    exact keeps_ite (fun _ => .failed _) fun _ => keeps_groupName? hname
  · rename_i rest hnamed hbracket
    obtain ⟨rest', rfl, hrest⟩ := h.cons
    split
    · rename_i heq
      cases heq
      obtain ⟨rest, rfl, hletter⟩ := hrest.ahead (by decide)
      obtain ⟨rest, rfl, -⟩ := hletter.ahead (by decide)
      exact absurd rfl (hnamed rest)
    · rename_i heq
      cases heq
      obtain ⟨rest, rfl, -⟩ := hrest.ahead (by decide)
      exact absurd rfl (hbracket rest)
    · rename_i heq
      cases heq
      refine Keeps.bind (keeps_flags? hrest) fun changes _ _ h => ?_
      simp only
      split
      · obtain ⟨rest', rfl, hrest⟩ := h.cons
        exact keeps_ite (fun _ => .failed _) fun _ => .found _ hrest
      · obtain ⟨rest', rfl, hrest⟩ := h.cons
        exact .found _ hrest
      · exact .failed _
    · rename_i hother
      exact absurd rfl (hother rest')
  · rename_i hflags
    split
    · obtain ⟨rest, rfl, -⟩ := h.ahead (by decide)
      exact absurd rfl (hflags rest)
    · obtain ⟨rest, rfl, -⟩ := h.ahead (by decide)
      exact absurd rfl (hflags rest)
    · obtain ⟨rest, rfl, -⟩ := h.ahead (by decide)
      exact absurd rfl (hflags rest)
    · exact .found _ h

theorem keeps_turnAt? (hne : text ≠ []) (h : Tailed text text') :
    Keeps (turnAt? verbose text) (turnAt? verbose text') := by
  rw [turnAt?.eq_def, turnAt?.eq_def]
  split
  · contradiction
  · obtain ⟨rest', rfl, hrest⟩ := h.cons
    exact .found _ hrest
  · obtain ⟨rest', rfl, hrest⟩ := h.cons
    exact .found _ hrest
  · obtain ⟨rest', rfl, hrest⟩ := h.cons
    exact (keeps_groupStart? hrest).map GroupStart.turn
  · rename_i rest
    obtain ⟨rest', rfl, hrest⟩ := h.cons
    have hfuel : 2 * rest.length + 2 ≤ 2 * rest'.length + 2 := by
      have := hrest.length_le
      omega
    refine Keeps.bind ((keeps_setReaders _).1 hfuel hrest) fun set _ _ h => ?_
    cases set with
    | bracketed => exact .found _ h
    | _ => exact .failed _
  · obtain ⟨rest', rfl, hrest⟩ := h.cons
    exact .found _ hrest.skipLazy
  · obtain ⟨rest', rfl, hrest⟩ := h.cons
    exact .found _ hrest.skipLazy
  · obtain ⟨rest', rfl, hrest⟩ := h.cons
    exact .found _ hrest.skipLazy
  · obtain ⟨rest', rfl, hrest⟩ := h.cons
    exact Keeps.bind (keeps_counts? hrest) fun counts _ _ h => .found _ (h.skip verbose).skipLazy
  -- The longer text begins with the same character, so it falls through to atoms as well.
  · rename_i hclosing hbar hgroup hset hoption hmany hsome hcounts
    obtain ⟨c, rest, rfl⟩ := List.exists_cons_of_ne_nil hne
    obtain ⟨rest', rfl, -⟩ := h.cons
    split
    case h_10 => exact (keeps_atom? h).map (Turn.part ∘ ofAtom)
    case h_1 => contradiction
    all_goals
      rename_i heq
      cases heq
    · exact absurd rfl (hclosing rest)
    · exact absurd rfl (hbar rest)
    · exact absurd rfl (hgroup rest)
    · exact absurd rfl (hset rest)
    · exact absurd rfl (hoption rest)
    · exact absurd rfl (hmany rest)
    · exact absurd rfl (hsome rest)
    · exact absurd rfl (hcounts rest)

/-- A turn is the same before what closes the pattern, where it is not the last one. -/
theorem turn?_tailed (verbose : Bool) (h : Tailed text text') :
    (turn? verbose text = some (.finished, []) ∧ (turn? verbose text' = some (.finished, []) ∨
      turn? verbose text' = some (.closing, ['$']))) ∨
      Keeps (turn? verbose text) (turn? verbose text') := by
  rw [turn?, turn?]
  have h := h.skip verbose
  generalize skip verbose text = text at h ⊢
  generalize skip verbose text' = text' at h ⊢
  cases text with
  | nil =>
    refine .inl ⟨rfl, ?_⟩
    rcases h.nil with rfl | rfl
    · exact .inr rfl
    · exact .inl rfl
  | cons c rest => exact .inr (keeps_turnAt? (List.cons_ne_nil c rest) h)

/-- What the longer text comes to where a text by itself comes to a pattern: the same pattern for a
group, and for a whole pattern what the closing leaves of the group around it. -/
def Wrapped (inside : Bool) (pattern : Pattern) (names : List String) (rest : List Char)
    (wrapped : Option (Pattern × List String × List Char)) : Prop :=
  match inside with
  | true => ∃ rest', wrapped = some (pattern, names, rest') ∧ Tailed rest rest'
  | false => wrapped = none ∨ wrapped = some (pattern, names, ['$'])

theorem body?_wrapped {fuel fuel' : Nat} {inside : Bool} {given names : List String}
    {done parts : List Pattern} {pattern : Pattern} (hfuel : fuel ≤ fuel')
    (htext : Tailed text text')
    (h : body? fuel ⟨inside, verbose, given⟩ done parts text = some (pattern, names, rest)) :
    Wrapped inside pattern names rest (body? fuel' ⟨true, verbose, given⟩ done parts text') := by
  induction fuel generalizing
    fuel' inside verbose given done parts text text' pattern names rest with
  | zero =>
    rw [body?] at h
    contradiction
  | succ fuel ih =>
    obtain ⟨fuel', rfl⟩ : ∃ more, fuel' = more + 1 := Nat.exists_eq_add_one.mpr (by omega)
    have hfuel := Nat.le_of_succ_le_succ hfuel
    rw [body?_succ, Option.bind_eq_some_iff] at h
    obtain ⟨⟨turn, after⟩, hturn, hfollow⟩ := h
    rw [body?_succ]
    dsimp only at hturn ⊢
    rcases turn?_tailed verbose htext with ⟨hfinished, hends⟩ | hkeeps
    · rw [hfinished] at hturn
      cases hturn
      cases inside with
      | true => contradiction
      | false =>
        cases hfollow
        rcases hends with hfinished' | hclosing
        · rw [hfinished']
          exact .inl rfl
        · rw [hclosing]
          exact .inr rfl
    · rw [hturn] at hkeeps
      generalize turn? verbose text' = wrapped at hkeeps ⊢
      cases hkeeps with
      | @found _ _ after' hafter =>
        rw [Option.bind_some]
        cases turn with
        | finished =>
          cases inside with
          | true => contradiction
          | false => exact .inl rfl
        | closing =>
          cases inside with
          | true =>
            cases hfollow
            exact ⟨after', rfl, hafter⟩
          | false => contradiction
        | bar => exact ih hfuel hafter hfollow
        | flags changes => exact ih hfuel hafter hfollow
        | part part => exact ih hfuel hafter hfollow
        | group changes name =>
          simp only [follow] at hfollow ⊢
          split at hfollow
          · contradiction
          · rename_i hname
            obtain ⟨⟨body, names, middle⟩, hbody, hbehind⟩ := Option.bind_eq_some_iff.mp hfollow
            obtain ⟨middle', hbody', hmiddle⟩ := ih hfuel hafter hbody
            rw [if_neg hname, hbody']
            exact ih hfuel hmiddle hbehind
        | again least most =>
          simp only [follow] at hfollow ⊢
          obtain ⟨parts, hparts, hbehind⟩ := Option.bind_eq_some_iff.mp hfollow
          rw [hparts]
          exact ih hfuel hafter hbehind

theorem turn?_lineStart (text : List Char) :
    turn? false ('^' :: text) = some (.part (assertion .lineStart), text) := rfl

theorem turn?_lineEnd (text : List Char) :
    turn? false ('$' :: text) = some (.part (assertion .lineEnd), text) := rfl

theorem turn?_group (text : List Char) :
    turn? false ('(' :: '?' :: ':' :: text) = some (.group [] none, text) := rfl

theorem turn?_nil : turn? false [] = some (.finished, []) := rfl

/-- The pattern between its anchors is one group. -/
theorem ofChars?_anchored {own whole : Pattern} (hown : ofChars? text = some own)
    (hwhole : ofChars? ('^' :: '(' :: '?' :: ':' :: (text ++ closing)) = some whole) :
    whole = concatenation [assertion .lineStart, group [] own, assertion .lineEnd] := by
  rw [ofChars?, Option.bind_eq_bind, Option.bind_eq_some_iff] at hown hwhole
  obtain ⟨⟨pattern, names, rest⟩, hbody, hlimit⟩ := hown
  obtain ⟨⟨pattern', names', rest'⟩, hbody', hlimit'⟩ := hwhole
  simp only [Option.ite_none_right_eq_some, Option.some.injEq] at hlimit hlimit'
  obtain ⟨-, rfl⟩ := hlimit
  obtain ⟨-, rfl⟩ := hlimit'
  have hfuel : text.length + 1 ≤ (text ++ closing).length + 3 := by
    rw [List.length_append]
    omega
  simp only [List.length_cons] at hbody'
  rw [body?_succ, turn?_lineStart, Option.bind_some] at hbody'
  simp only [follow] at hbody'
  rw [body?_succ, turn?_group, Option.bind_some] at hbody'
  simp only [follow, Option.any_none, Bool.false_eq_true, if_false] at hbody'
  obtain ⟨⟨body, given, behind⟩, hinner, hend⟩ := Option.bind_eq_some_iff.mp hbody'
  have hsame : some (body, given, behind) = some (pattern, names, ['$']) := by
    rcases body?_wrapped hfuel (.kept text) hbody with hnone | hsome
    · exact absurd (hinner.symm.trans hnone) (Option.some_ne_none _)
    · exact hinner.symm.trans hsome
  cases hsame
  rw [body?_succ, turn?_lineEnd, Option.bind_some] at hend
  simp only [follow] at hend
  rw [body?_succ, turn?_nil, Option.bind_some] at hend
  cases hend
  rfl

end ApiManual.Pattern
