import ApiManual.Exclusion
import ApiManual.Proofs.Except
import ApiManual.Proofs.Pairing
import ApiManual.Proofs.Pattern.Anchored
import ApiManual.Proofs.Pattern.Ordered

/-!
Which paths the patterns leave out. The text of a pattern is anchored without being read, so what is
anchored need not be the whole of it: a pattern may close the group around it. A pattern that is
well-formed by itself cannot.
-/
namespace ApiManual

namespace Regex

/-- An expression between conditions for the beginning and the end of the text. -/
def anchored (r : Regex) : Regex := .seq (.look .textStart) (.seq r (.seq (.look .textEnd) .empty))

variable {r : Regex} {previous : Option Char} {text word rest : List Char}

theorem matches_anchored_iff :
    Matches r.anchored previous word rest ↔ previous = none ∧ rest = [] ∧ r.MatchesAll word := by
  constructor
  · intro h
    cases h with
    | seq hstart h =>
      cases hstart with
      | look hprevious =>
        cases h with
        | seq hmatch h =>
          cases h with
          | seq hend h =>
            cases hend with
            | look hrest =>
              cases h
              obtain rfl := Option.isNone_iff_eq_none.mp hprevious
              obtain rfl := List.head?_eq_none_iff.mp (Option.isNone_iff_eq_none.mp hrest)
              simpa [MatchesAll, Place.behind] using hmatch
  · rintro ⟨rfl, rfl, h⟩
    have hend : Matches (.seq (.look .textEnd) .empty) (after none word) ([] ++ []) [] :=
      .seq (.look rfl) .empty
    have hall : Matches (.seq r (.seq (.look .textEnd) .empty)) none (word ++ ([] ++ [])) [] :=
      .seq h hend
    have hword : ([] ++ (word ++ ([] ++ []))) = word := by simp
    exact hword ▸ .seq (.look rfl) hall

theorem after_some_ne_none (c : Char) (word : List Char) : after (some c) word ≠ none := by
  induction word generalizing c with
  | nil => exact Option.some_ne_none c
  | cons next rest ih => exact ih next

theorem after_eq_none_iff : after none text = none ↔ text = [] := by
  cases text with
  | nil => exact iff_of_true rfl rfl
  | cons c rest => exact iff_of_false (after_some_ne_none c rest) (List.cons_ne_nil c rest)

theorem matchesPart_anchored_iff : r.anchored.MatchesPart text ↔ r.MatchesAll text := by
  simp only [MatchesPart, matches_anchored_iff, after_eq_none_iff]
  constructor
  · rintro ⟨front, word, rest, rfl, rfl, rfl, h⟩
    simpa using h
  · exact fun h => ⟨[], text, [], by simp, rfl, rfl, h⟩

theorem matchesAll_anchored_iff : r.anchored.MatchesAll text ↔ r.MatchesAll text := by
  rw [MatchesAll, matches_anchored_iff]
  simp

end Regex

namespace ExclusionSet

variable {patterns : List String} {set : ExclusionSet} {pattern : String} {expression : Regex}

theorem compile_eq_ok (h : compile pattern = .ok expression) :
    ∃ whole flags, Pattern.ofChars? (anchored pattern) = some whole ∧
      Pattern.regex? {} whole = some (expression, flags) := by
  rw [compile] at h
  split at h
  · rename_i found flags heq
    obtain ⟨whole, hwhole, hregex⟩ := Option.bind_eq_some_iff.mp heq
    split at h
    · cases h
      exact ⟨whole, flags, hwhole, hregex⟩
    · contradiction
  · contradiction

theorem compile_ordered (h : compile pattern = .ok expression) : expression.Ordered := by
  obtain ⟨whole, flags, hwhole, hregex⟩ := compile_eq_ok h
  exact Pattern.regex?_ordered (Pattern.ofChars?_ordered hwhole) hregex

theorem anchored_eq (pattern : String) :
    anchored pattern = '^' :: '(' :: '?' :: ':' :: (pattern.toList ++ Pattern.closing) := by
  rfl

theorem regex?_anchored (own : Pattern) :
    Pattern.regex? {} (.concatenation [.assertion .lineStart, .group [] own, .assertion .lineEnd]) =
      (Pattern.regex? {} own).map fun (inner, _) => (inner.anchored, {}) := by
  have happly : Pattern.Flags.apply {} [] = {} := rfl
  simp only [Pattern.regex?, Pattern.sequence?, Option.bind_eq_bind, Option.bind_some, happly]
  cases Pattern.regex? {} own <;> rfl

theorem compile_of_ofChars? {own : Pattern} (hown : Pattern.ofChars? pattern.toList = some own)
    (h : compile pattern = .ok expression) :
    ∃ inner flags, Pattern.regex? {} own = some (inner, flags) ∧ expression = inner.anchored := by
  obtain ⟨whole, flags, hwhole, hregex⟩ := compile_eq_ok h
  rw [anchored_eq] at hwhole
  obtain rfl := Pattern.ofChars?_anchored hown hwhole
  rw [regex?_anchored] at hregex
  obtain ⟨⟨inner, after⟩, hinner, heq⟩ := Option.map_eq_some_iff.mp hregex
  cases heq
  exact ⟨inner, after, hinner, rfl⟩

theorem isExcluded_iff_matchesPart (h : ofPatterns patterns = .ok set) (path : String) :
    set.isExcluded path = true ↔ ∃ pattern ∈ patterns, ∃ expression,
      compile pattern = .ok expression ∧ expression.MatchesPart path.toList := by
  obtain ⟨expressions, hcompiled, rfl⟩ := Except.map_eq_ok_iff.mp h
  have hcompiled := Except.mapM_eq_ok_iff.mp hcompiled
  simp only [isExcluded, List.any_eq_true]
  constructor
  · rintro ⟨expression, hmem, hmatch⟩
    obtain ⟨pattern, hpattern, hcompile⟩ := hcompiled.exists_left hmem
    exact ⟨pattern, hpattern, expression, hcompile,
      (Regex.matchesIn_iff (compile_ordered hcompile) _).mp hmatch⟩
  · rintro ⟨pattern, hpattern, expression, hcompile, hmatch⟩
    obtain ⟨expression', hmem, hcompile'⟩ := hcompiled.exists_right hpattern
    cases hcompile.symm.trans hcompile'
    exact ⟨expression, hmem, (Regex.matchesIn_iff (compile_ordered hcompile) _).mpr hmatch⟩

/-- A path is left out if an expression that a pattern is compiled to matches a part of it. The
expression of a pattern that is well-formed by itself matches all of a path or no part of it, and
matches what the pattern without anchors matches all of. -/
theorem isExcluded_iff (h : ofPatterns patterns = .ok set) (path : String) :
    (set.isExcluded path = true ↔ ∃ pattern ∈ patterns, ∃ expression,
      compile pattern = .ok expression ∧ expression.MatchesPart path.toList) ∧
    (∀ pattern ∈ patterns, ∀ own, Pattern.ofChars? pattern.toList = some own →
      ∃ expression inner flags, compile pattern = .ok expression ∧
        Pattern.regex? {} own = some (inner, flags) ∧
        (expression.MatchesPart path.toList ↔ expression.MatchesAll path.toList) ∧
        (expression.MatchesAll path.toList ↔ inner.MatchesAll path.toList)) ∧
    ((∀ pattern ∈ patterns, (Pattern.ofChars? pattern.toList).isSome) →
      (set.isExcluded path = true ↔ ∃ pattern ∈ patterns, ∃ expression,
        compile pattern = .ok expression ∧ expression.MatchesAll path.toList)) := by
  have hpart := isExcluded_iff_matchesPart h path
  have hwhole : ∀ pattern ∈ patterns, ∀ own, Pattern.ofChars? pattern.toList = some own →
      ∃ expression inner flags, compile pattern = .ok expression ∧
        Pattern.regex? {} own = some (inner, flags) ∧
        (expression.MatchesPart path.toList ↔ expression.MatchesAll path.toList) ∧
        (expression.MatchesAll path.toList ↔ inner.MatchesAll path.toList) := by
    intro pattern hpattern own hown
    obtain ⟨expressions, hcompiled, -⟩ := Except.map_eq_ok_iff.mp h
    obtain ⟨expression, -, hcompile⟩ :=
      (Except.mapM_eq_ok_iff.mp hcompiled).exists_right hpattern
    obtain ⟨inner, flags, hinner, rfl⟩ := compile_of_ofChars? hown hcompile
    refine ⟨inner.anchored, inner, flags, hcompile, hinner, ?_, Regex.matchesAll_anchored_iff⟩
    rw [Regex.matchesPart_anchored_iff, Regex.matchesAll_anchored_iff]
  refine ⟨hpart, hwhole, fun hform => hpart.trans ?_⟩
  constructor
  · rintro ⟨pattern, hpattern, expression, hcompile, hmatch⟩
    obtain ⟨own, hown⟩ := Option.isSome_iff_exists.mp (hform pattern hpattern)
    obtain ⟨expression', inner, flags, hcompile', -, hiff, -⟩ := hwhole pattern hpattern own hown
    cases hcompile.symm.trans hcompile'
    exact ⟨pattern, hpattern, expression, hcompile, hiff.mp hmatch⟩
  · rintro ⟨pattern, hpattern, expression, hcompile, hmatch⟩
    exact ⟨pattern, hpattern, expression, hcompile, hmatch.matchesPart⟩

theorem isExcluded_iff_branches :
    ∃ set, ofPatterns ["/a|/b"] = .ok set ∧
      set.isExcluded "/b" = true ∧ set.isExcluded "/b/c" = false ∧
      ∃ expression, compile "/a|/b" = .ok expression ∧ expression.MatchesAll "/b".toList := by
  have hexcluded : (ofPatterns ["/a|/b"]).toOption.map (fun set =>
      (set.isExcluded "/b", set.isExcluded "/b/c")) = some (true, false) := rfl
  cases h : ofPatterns ["/a|/b"] with
  | error error =>
    rw [h] at hexcluded
    contradiction
  | ok set =>
    rw [h] at hexcluded
    obtain ⟨hb, hc⟩ := Prod.mk.inj (Option.some.inj hexcluded)
    have hform : ∀ pattern ∈ ["/a|/b"], (Pattern.ofChars? pattern.toList).isSome := by
      simp only [List.mem_singleton, forall_eq]
      rfl
    obtain ⟨pattern, hpattern, hmatch⟩ := ((isExcluded_iff h "/b").2.2 hform).mp hb
    obtain rfl := List.mem_singleton.mp hpattern
    exact ⟨set, rfl, hb, hc, hmatch⟩

/-- A pattern that closes the group around it excludes paths of which it matches only a part. -/
theorem not_matchesAll_of_isExcluded :
    ¬∀ (patterns : List String) (set : ExclusionSet) (path : String),
      ofPatterns patterns = .ok set →
      (set.isExcluded path = true ↔ ∃ pattern ∈ patterns, ∃ expression,
        compile pattern = .ok expression ∧ expression.MatchesAll path.toList) := by
  intro hall
  have hexcluded : (ofPatterns ["/a)|(?:/b"]).toOption.map (·.isExcluded "/a/x") = some true :=
    rfl
  have hends : (compile "/a)|(?:/b").toOption.map (fun expression =>
      (expression.ends ⟨none, "/a/x".toList⟩).all (·.rest ≠ [])) = some true := rfl
  cases h : ofPatterns ["/a)|(?:/b"] with
  | error error =>
    rw [h] at hexcluded
    contradiction
  | ok set =>
    rw [h] at hexcluded
    obtain ⟨pattern, hpattern, expression, hcompile, hmatch⟩ :=
      (hall _ set "/a/x" h).mp (Option.some.inj hexcluded)
    obtain rfl := List.mem_singleton.mp hpattern
    obtain ⟨place, hplace, hrest⟩ := (Regex.matchesAll_iff (compile_ordered hcompile)).mp hmatch
    rw [hcompile] at hends
    have hnone := List.all_eq_true.mp (Option.some.inj hends) place hplace
    exact absurd hrest (of_decide_eq_true hnone)

end ExclusionSet

end ApiManual
