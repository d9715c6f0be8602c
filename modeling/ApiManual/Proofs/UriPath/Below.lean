import ApiManual.Proofs.UriPath.NormalForm
import ApiManual.Proofs.UriPath.Parameters

/-!
Prefixes of paths in normal form. Texts are compared character by character, and yet one path is
found to begin another one exactly if its segments do, and what is left of the other is a path with
the segments and the parameters that are left.
-/
namespace ApiManual.UriPath

/-- What is left of a path behind an upper one: a path of whole segments, none of them empty, that
brings in what the upper path lacks. -/
structure Remainder (upper lower rest : String) : Prop where
  rooted : rest.toList.head? = some '/'
  filled : ∀ segment ∈ (Text.fields '/' rest.toList).tail, segment ≠ []
  unended : rest.toList.getLast? ≠ some '/'
  parts : parts rest = (parts lower).drop (segmentCount upper)
  parameters : parameters lower =
    parameters upper ++ (parameters rest).map (Token.shift (segmentCount upper))

theorem WellSlashed.fields_eq {path : String} (h : WellSlashed path) (hne : parts path ≠ []) :
    Text.fields '/' path.toList = [] :: parts path := by
  rw [← h, fields_ofSegments hne fun part hpart => (parts_clean path part hpart).2]

theorem remainder_relativeTo {upper lower : String} (hu : WellSlashed upper)
    (hl : WellSlashed lower) (hcovers : Covers upper lower) (hne : upper ≠ lower) :
    Remainder upper lower (relativeTo upper lower) := by
  have hrest := wellSlashed_relativeTo hu hl hcovers hne
  have hparts := parts_eq_append_relativeTo hu hl hcovers hne
  have hfilled : UriPath.parts (relativeTo upper lower) ≠ [] := by
    intro hnil
    rw [hnil, List.append_nil] at hparts
    exact hne (hu.eq_of_parts_eq hl hparts.symm)
  exact {
    rooted := hrest.head?_toList
    filled := by
      rw [hrest.fields_eq hfilled, List.tail_cons]
      exact fun segment hsegment => (parts_clean _ segment hsegment).1
    unended := by
      intro hlast
      have hroot := (ofSegments_segments_iff.mp hrest).2.2 hlast
      exact hfilled (hrest.parts_eq_nil_iff.mpr hroot)
    parts := by
      rw [hparts]
      exact List.drop_left.symm
    parameters := parameters_eq_append_relativeTo hu hl hcovers hne }

/-- Of two paths in normal form the first one is a proper prefix of the other exactly if its
segments are, and then the other one is the first and what is left of it. -/
theorem isProperPrefix_normalize (upper lower : String) :
    (isProperPrefix (normalize upper) (normalize lower) = true ↔
      parts (normalize upper) <+: parts (normalize lower) ∧
        parts (normalize upper) ≠ parts (normalize lower)) ∧
    (isProperPrefix (normalize upper) (normalize lower) = true →
      Remainder (normalize upper) (normalize lower)
        (relativeTo (normalize upper) (normalize lower))) := by
  have hu := wellSlashed_normalize upper
  have hl := wellSlashed_normalize lower
  have hsame : normalize upper ≠ normalize lower ↔
      parts (normalize upper) ≠ parts (normalize lower) :=
    not_congr ⟨congrArg parts, hu.eq_of_parts_eq hl⟩
  rw [isProperPrefix_iff hu hl]
  exact ⟨and_congr_right fun _ => hsame, fun h => remainder_relativeTo hu hl h.1 h.2⟩

theorem isProperPrefix_normalize_token :
    isProperPrefix (normalize "shops//\x7baisle/")
        (normalize "/shops/{aisle/lane}/{id:[0-9]{3}}") ∧
      Remainder "/shops/\x7baisle" "/shops/{aisle/lane}/{id}" "/lane\x7d/{id}" := by
  have hupper : normalize "shops//\x7baisle/" = "/shops/\x7baisle" := by decide +kernel
  have hlower : normalize "/shops/{aisle/lane}/{id:[0-9]{3}}" = "/shops/{aisle/lane}/{id}" := by
    decide +kernel
  have hrest : relativeTo "/shops/\x7baisle" "/shops/{aisle/lane}/{id}" = "/lane\x7d/{id}" := by
    decide +kernel
  have hbelow : isProperPrefix (normalize "shops//\x7baisle/")
      (normalize "/shops/{aisle/lane}/{id:[0-9]{3}}") = true := by decide +kernel
  have hremainder := (isProperPrefix_normalize _ _).2 hbelow
  rw [hupper, hlower, hrest] at hremainder
  exact ⟨hbelow, hremainder⟩

end ApiManual.UriPath
