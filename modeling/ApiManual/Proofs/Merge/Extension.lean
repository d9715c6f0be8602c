import ApiManual.Proofs.Merge.Views
import ApiManual.Proofs.Template.Reading

/-!
More values for placeholders. A table that has all values of another one fills whatever the other
one fills, with the same result, so nothing that can be merged changes. What cannot be filled is
reported by its first placeholder, which only a value for that placeholder can change.
-/
namespace ApiManual

/-- A table has all values of another one, and maybe others. -/
def TemplateValues.Extends (larger values : TemplateValues) : Prop :=
  ∀ name value, values.get? name = some value → larger.get? name = some value

theorem TemplateValues.extends_append (entries others : List (String × String)) :
    Extends ⟨entries ++ others⟩ ⟨entries⟩ := by
  intro name value h
  change (entries ++ others).lookup name = some value
  rw [List.lookup_append]
  change entries.lookup name = some value at h
  rw [h]
  rfl

namespace Template

variable {values larger : TemplateValues}

theorem Part.fill_of_extends (h : larger.Extends values) {part : Part} {filled : List Char}
    (hfill : part.fill values = .ok filled) : part.fill larger = .ok filled := by
  cases part with
  | char c => exact hfill
  | escape name closed => exact hfill
  | placeholder name closed =>
    rw [Part.fill] at hfill ⊢
    cases hvalue : values.get? (String.ofList name) with
    | none => simp [hvalue] at hfill
    | some value =>
      rw [h _ _ hvalue]
      rwa [hvalue] at hfill

theorem Reads.failure?_substitute {text : String} {parts : List Part}
    (reads : Reads text.toList parts) (values : TemplateValues) :
    (values.substitute text).failure? = parts.findSome? (Part.unresolved? values) := by
  rw [TemplateValues.substitute, Except.failure?_map, reads.fill_eq, Except.failure?_map]
  exact Except.failure?_mapM fun part _ => part.failure?_fill values

end Template

open Template

variable {values larger : TemplateValues}

theorem TemplateValues.substitute_of_extends (h : larger.Extends values) {text filled : String}
    (hfill : values.substitute text = .ok filled) : larger.substitute text = .ok filled := by
  obtain ⟨parts, reads⟩ := exists_reads text.toList
  rw [substitute, reads.fill_eq] at hfill ⊢
  simp only [Except.map_eq_ok_iff, Except.mapM_eq_ok_iff] at hfill ⊢
  obtain ⟨chars, ⟨pieces, hpieces, hchars⟩, hfilled⟩ := hfill
  exact ⟨chars, ⟨pieces, hpieces.imp fun _ _ => Part.fill_of_extends h, hchars⟩, hfilled⟩

/-- The placeholder that is reported stays the same whatever becomes of the others, unless one of
them loses its value. -/
theorem TemplateValues.substitute_eq_error_of_get?_eq {other : TemplateValues} {text name : String}
    (h : values.substitute text = .error name) (hname : other.get? name = values.get? name)
    (hothers : ∀ n ≠ name, (values.get? n).isSome = true → (other.get? n).isSome = true) :
    other.substitute text = .error name := by
  obtain ⟨parts, reads⟩ := exists_reads text.toList
  rw [← Except.failure?_eq_some_iff, reads.failure?_substitute] at h ⊢
  obtain ⟨before, part, after, rfl, hpart, hbefore⟩ := List.findSome?_eq_some_iff.mp h
  refine List.findSome?_eq_some_iff.mpr ⟨before, part, after, rfl, ?_, fun earlier hearlier => ?_⟩
  · cases part with
    | char c => cases hpart
    | escape n closed => cases hpart
    | placeholder n closed =>
      have hsame : String.ofList n = name := by
        rw [Part.unresolved?] at hpart
        split at hpart
        · cases hpart
        · exact Option.some.inj hpart
      rw [← hpart, Part.unresolved?, Part.unresolved?, hsame, hname]
  · have hresolved := hbefore earlier hearlier
    cases earlier with
    | char c => rfl
    | escape n closed => rfl
    | placeholder n closed =>
      simp only [Part.unresolved?, ite_eq_left_iff, reduceCtorEq, imp_false, not_not,
        Bool.and_eq_true] at hresolved ⊢
      refine ⟨hresolved.1, ?_⟩
      by_cases hsame : String.ofList n = name
      · rw [hsame, hname, ← hsame]
        exact hresolved.2
      · exact hothers _ hsame hresolved.2

theorem TemplateValues.optionMapM_of_extends (h : larger.Extends values)
    {text filled : Option String} (hfill : text.mapM values.substitute = .ok filled) :
    text.mapM larger.substitute = .ok filled := by
  cases text with
  | none => exact hfill
  | some text =>
    obtain ⟨result, hresult, rfl⟩ := Except.map_eq_ok_iff.mp hfill
    rw [Option.mapM_some, substitute_of_extends h hresult]
    rfl

theorem Draft.Filled.of_extends (h : larger.Extends values) {draft filled : Draft}
    (hfilled : Filled values draft filled) : Filled larger draft filled where
  id := TemplateValues.optionMapM_of_extends h hfilled.id
  title := TemplateValues.optionMapM_of_extends h hfilled.title
  version := TemplateValues.optionMapM_of_extends h hfilled.version
  basePath := TemplateValues.optionMapM_of_extends h hfilled.basePath
  documentation := hfilled.documentation.imp fun _ _ hitem =>
    ⟨TemplateValues.substitute_of_extends h hitem.1, TemplateValues.substitute_of_extends h hitem.2⟩
  endpoints := by
    refine hfilled.endpoints.imp ?_
    rintro sourced _ ⟨paths, hpaths, rfl⟩
    rw [Except.mapM_eq_ok_iff] at hpaths
    exact ⟨paths, Except.mapM_eq_ok_iff.mpr
      (hpaths.imp fun _ _ => TemplateValues.substitute_of_extends h), rfl⟩
  origins := hfilled.origins

theorem merge_of_extends {fragments : List Fragment} {options : MergeOptions} {views : List ApiView}
    (hextends : larger.Extends options.templates) (h : merge fragments options = .ok views) :
    merge fragments { options with templates := larger } = .ok views := by
  rw [merge_eq_ok_iff] at h ⊢
  obtain ⟨filled, hfilled, hviews⟩ := h
  refine ⟨filled, ?_, hviews⟩
  rw [Except.mapM_eq_ok_iff] at hfilled ⊢
  exact hfilled.imp fun _ _ hdraft =>
    Draft.fill_eq_ok_iff.mpr ((Draft.fill_eq_ok_iff.mp hdraft).of_extends hextends)

/-- More values leave all views as they are. A text is read in one way, of which the first
placeholder that is not closed or has no value is reported, and it is reported whatever values all
others have. -/
theorem templates_extended :
    (∀ fragments options views larger, TemplateValues.Extends larger options.templates →
      merge fragments options = .ok views →
      merge fragments { options with templates := larger } = .ok views) ∧
    (∀ text : String, ∃ parts, (∀ parts', Reads text.toList parts' ↔ parts' = parts) ∧
      ∀ values : TemplateValues,
        (values.substitute text).failure? = parts.findSome? (Part.unresolved? values)) ∧
    ∀ (values other : TemplateValues) (text name : String),
      values.substitute text = .error name → other.get? name = values.get? name →
      (∀ n ≠ name, (values.get? n).isSome = true → (other.get? n).isSome = true) →
      other.substitute text = .error name := by
  refine ⟨fun _ _ _ _ => merge_of_extends, fun text => ?_,
    fun _ _ _ _ => TemplateValues.substitute_eq_error_of_get?_eq⟩
  obtain ⟨parts, reads⟩ := exists_reads text.toList
  refine ⟨parts, fun parts' => ⟨fun reads' => reads'.unique reads, ?_⟩, reads.failure?_substitute⟩
  rintro rfl
  exact reads

theorem templates_extended_shops :
    let larger : TemplateValues := ⟨[("name", "shop"), ("street", "Mill Lane")]⟩
    larger.Extends shopOptions.templates ∧
      (∃ views, merge shopFragments shopOptions = .ok views ∧
        merge shopFragments { shopOptions with templates := larger } = .ok views) ∧
      shopOptions.templates.substitute "$${door} ${door}, ${street}" =
        .error "door" ∧
      larger.substitute "$${door} ${door}, ${street}" = .error "door" := by
  intro larger
  have hextends : larger.Extends shopOptions.templates :=
    TemplateValues.extends_append [("name", "shop")] [("street", "Mill Lane")]
  have hmerge : (merge shopFragments shopOptions).isOk = true := by decide +kernel
  obtain ⟨views, hviews⟩ := Except.isOk_iff.mp hmerge
  have hdoor : shopOptions.templates.substitute "$${door} ${door}, ${street}" =
      .error "door" := by decide +kernel
  refine ⟨hextends, ⟨views, hviews, templates_extended.1 _ _ _ _ hextends hviews⟩, hdoor, ?_⟩
  refine templates_extended.2.2 _ _ _ _ hdoor rfl fun n _ hvalue => ?_
  obtain ⟨value, hvalue⟩ := Option.isSome_iff_exists.mp hvalue
  rw [hextends n value hvalue]
  rfl

end ApiManual
