import ApiManual.Proofs.Merge.Methods
import ApiManual.Proofs.UriPath.Grammar
import Mathlib.Data.List.Flatten

/-!
Templates that name the same parameters in the same places. They have the same parameters, but their
normal forms keep the blanks around the names, so they are one resource only where all names are
spelled alike; there one method cannot be documented twice.
-/
namespace ApiManual

open UriPath

namespace UriTemplate

def Name.ReadAlike (left right : Name) : Prop := left.trimmed = right.trimmed

def Name.SpelledAlike (left right : Name) : Prop := left.text = right.text

/-- The same literal, or tokens with alike names, whatever their constraints. -/
inductive Piece.Alike (alike : Name → Name → Prop) : Piece → Piece → Prop
  | literal {left right : Literal} : left.text = right.text →
    Alike alike (.literal left) (.literal right)
  | token {left right : Name} (leftConstraint rightConstraint : Option Constraint) :
    alike left right → Alike alike (.token left leftConstraint) (.token right rightConstraint)

/-- The templates have as many segments, and alike pieces in the same places. -/
def Alike (alike : Name → Name → Prop) (left right : UriTemplate) : Prop :=
  List.Forall₂ (fun segment segment' =>
    List.Forall₂ (Piece.Alike alike) segment.pieces segment'.pieces) left.segments right.segments

theorem Piece.alike_token_iff {alike : Name → Name → Prop} {left right : Name}
    {leftConstraint rightConstraint : Option Constraint} :
    Alike alike (.token left leftConstraint) (.token right rightConstraint) ↔ alike left right :=
  ⟨fun h => by cases h; assumption, fun h => .token _ _ h⟩

theorem names_eq_of_alike {pieces pieces' : List Piece}
    (h : List.Forall₂ (Piece.Alike Name.ReadAlike) pieces pieces') :
    (pieces.filterMap Piece.name?).map Name.trimmed =
      (pieces'.filterMap Piece.name?).map Name.trimmed := by
  induction h with
  | nil => rfl
  | cons hpiece _ ih =>
    cases hpiece with
    | literal _ => exact ih
    | token _ _ hname => exact congrArg₂ List.cons hname ih

theorem tokens_eq (template : UriTemplate) :
    template.tokens =
      (template.segments.map fun segment => segment.names.map Name.trimmed).zipIdx.flatMap
        fun (names, index) => names.map fun name => ⟨name, index⟩ := by
  rw [tokens, List.zipIdx_map, List.flatMap_map]
  simp only [Prod.map, List.map_map, Function.comp_def, id_eq]

theorem tokens_eq_of_alike {left right : UriTemplate} (h : left.Alike Name.ReadAlike right) :
    left.tokens = right.tokens := by
  have hnames : left.segments.map (fun segment => segment.names.map Name.trimmed) =
      right.segments.map fun segment => segment.names.map Name.trimmed :=
    List.Forall₂.map_eq_map h fun _ _ _ hpieces => names_eq_of_alike hpieces
  rw [tokens_eq, tokens_eq, hnames]

theorem append_closing_eq_iff {left right rest rest' : List Char} (hleft : '}' ∉ left)
    (hright : '}' ∉ right) :
    left ++ '}' :: rest = right ++ '}' :: rest' ↔ left = right ∧ rest = rest' := by
  have htake : ∀ {text rest : List Char}, '}' ∉ text →
      (text ++ '}' :: rest).takeWhile (· ≠ '}') = text := by
    intro text rest h
    have hall : ∀ c ∈ text, decide (c ≠ '}') = true := fun c hc =>
      decide_eq_true fun heq => h (heq ▸ hc)
    rw [List.takeWhile_append_of_pos hall]
    simp
  constructor
  · intro h
    have hsame : left = right := by rw [← htake hleft, h, htake hright]
    subst hsame
    exact ⟨rfl, (List.cons.inj (List.append_cancel_left h)).2⟩
  · rintro ⟨rfl, rfl⟩
    rfl

/-- Texts of alike pieces are equal only piece by piece: a name ends at the first closing brace. -/
theorem flatMap_plainText_eq_iff {pieces pieces' : List Piece}
    (h : List.Forall₂ (Piece.Alike Name.ReadAlike) pieces pieces') :
    pieces.flatMap Piece.plainText = pieces'.flatMap Piece.plainText ↔
      List.Forall₂ (Piece.Alike Name.SpelledAlike) pieces pieces' := by
  induction h with
  | nil => simp
  | @cons piece piece' rest rest' hpiece _ ih =>
    rw [List.flatMap_cons, List.flatMap_cons, List.forall₂_cons, ← ih]
    cases hpiece with
    | @literal left right htext =>
      have hsame : Piece.Alike Name.SpelledAlike (.literal left) (.literal right) := .literal htext
      simp [Piece.plainText, htext, hsame]
    | @token left right leftConstraint rightConstraint _ =>
      have hleft : '}' ∉ left.text := left.not_mem (by simp)
      have hright : '}' ∉ right.text := right.not_mem (by simp)
      rw [Piece.alike_token_iff, Name.SpelledAlike]
      simp only [Piece.plainText, List.cons_append, List.cons.injEq, true_and, List.append_assoc,
        List.nil_append]
      exact append_closing_eq_iff hleft hright

theorem map_plainText_eq_iff {left right : UriTemplate} (h : left.Alike Name.ReadAlike right) :
    left.segments.map Segment.plainText = right.segments.map Segment.plainText ↔
      left.Alike Name.SpelledAlike right := by
  unfold Alike at *
  generalize left.segments = segments at *
  generalize right.segments = segments' at *
  induction h with
  | nil => simp
  | cons hpieces _ ih =>
    rw [List.map_cons, List.map_cons, List.cons.injEq, ih, List.forall₂_cons]
    exact and_congr_left fun _ => flatMap_plainText_eq_iff hpieces

theorem normalize_eq_iff_of_alike {left right : UriTemplate} (h : left.Alike Name.ReadAlike right) :
    normalize left.text = normalize right.text ↔ left.Alike Name.SpelledAlike right := by
  rw [← map_plainText_eq_iff h, ← parts_normalize_text, ← parts_normalize_text]
  exact ⟨congrArg parts, (wellSlashed_normalize _).eq_of_parts_eq (wellSlashed_normalize _)⟩

end UriTemplate

namespace Occurrence

variable {options : MergeOptions}

/-- The endpoint is in scope and written at the template, where it is not left out. -/
structure IsMountedOn (options : MergeOptions) (occurrence : Occurrence) (template : UriTemplate) :
    Prop where
  inScope : occurrence.isInScope options = true
  mem : template.text ∈ occurrence.sourced.endpoint.paths
  kept : options.excluded (normalize template.text) = false

theorem IsMountedOn.mem_keptPaths {occurrence : Occurrence} {template : UriTemplate}
    (h : occurrence.IsMountedOn options template) :
    normalize template.text ∈ occurrence.keptPaths options := by
  rw [keptPaths, mem_distinct, List.mem_filter]
  exact ⟨List.mem_map_of_mem h.mem, by simp [h.kept]⟩

theorem mem_operations {occurrence : Occurrence} {path : String}
    (hscope : occurrence.isInScope options = true) (hpath : path ∈ occurrence.keptPaths options) :
    (path, occurrence.sourced.endpoint.method) ∈
      (occurrence.mounts options).map Mount.operation :=
  List.mem_map.mpr ⟨⟨path, occurrence.kept options⟩, mem_mounts.mpr ⟨hscope, hpath, rfl⟩, rfl⟩

end Occurrence

variable {fragments : List Fragment} {options : MergeOptions} {filled : List Occurrence}
  {views : List ApiView}

theorem disjoint_operations {drafts : List Draft} (selected : Selected options filled drafts)
    (hviews : List.Forall₂ Draft.Resolved drafts views) {first second : Occurrence}
    (sublist : [first, second].Sublist filled) (hid : first.id = second.id) :
    List.Disjoint ((first.mounts options).map Mount.operation)
      ((second.mounts options).map Mount.operation) := by
  have hmem : first ∈ filled := sublist.subset List.mem_cons_self
  obtain ⟨draft, hdraft, hfirst⟩ := List.mem_map.mp (selected.covered first hmem)
  obtain ⟨view, -, resolved⟩ := hviews.exists_right hdraft
  have hpair : [first, second].Sublist (filled.filter (·.id = draft.id)) := by
    have hboth := sublist.filter (·.id = draft.id)
    rwa [List.filter_eq_self.mpr (by simp [hfirst, ← hid])] at hboth
  have hnodup := ((selected.mounts draft hdraft).map Mount.operation).nodup_iff.mp
    resolved.unrepeated
  have hown := hnodup.sublist ((hpair.flatMap (Occurrence.mounts options)).map Mount.operation)
  rw [List.flatMap_cons, List.flatMap_singleton, List.map_append, List.nodup_append'] at hown
  exact hown.2.2

theorem placed_of_mounted (hmerge : merge fragments options = .ok views)
    (hfilled : (fragments.flatMap Fragment.occurrences).mapM (Occurrence.fill options.templates) =
      .ok filled) {first second : Occurrence} {left right : UriTemplate}
    (sublist : [first, second].Sublist filled) (hid : first.id = second.id)
    (hmethod : first.sourced.endpoint.method = second.sourced.endpoint.method)
    (hfirst : first.IsMountedOn options left) (hsecond : second.IsMountedOn options right) :
    normalize left.text ≠ normalize right.text ∧ ∃ view ∈ views, view.id = first.id ∧
      (normalize left.text, first.method options) ∈ view.placed ∧
        (normalize right.text, second.method options) ∈ view.placed := by
  obtain ⟨_, drafts, hfilled', -, hselected, hviews⟩ := exists_resolved hmerge
  cases Except.ok.inj (hfilled.symm.trans hfilled')
  constructor
  · intro hpath
    have hown := Occurrence.mem_operations hfirst.inScope hfirst.mem_keptPaths
    have hother := Occurrence.mem_operations hsecond.inScope hsecond.mem_keptPaths
    rw [hpath, hmethod] at hown
    exact disjoint_operations hselected hviews sublist hid hown hother
  · have hmem : first ∈ filled := sublist.subset (by simp)
    have hmem' : second ∈ filled := sublist.subset (by simp)
    have hdocumented := documented_of_resolved hselected hviews
    obtain ⟨view, hview, hviewId, -⟩ := hdocumented.once first hmem
    have hplaced := fun placement => (hdocumented.placed view hview).mem_iff (a := placement)
    simp only [List.mem_flatMap, List.mem_filter, decide_eq_true_eq] at hplaced
    refine ⟨view, hview, hviewId, (hplaced _).mpr ⟨first, ⟨hmem, hviewId.symm⟩, ?_⟩,
      (hplaced _).mpr ⟨second, ⟨hmem', (hviewId.trans hid).symm⟩, ?_⟩⟩
    · exact Occurrence.mem_placements.mpr ⟨hfirst.inScope, hfirst.mem_keptPaths, rfl⟩
    · exact Occurrence.mem_placements.mpr ⟨hsecond.inScope, hsecond.mem_keptPaths, rfl⟩

/-- Templates that name the same parameters in the same places have the same parameters, and one
normal form exactly if their names are spelled alike. In that case a method cannot be documented
twice on them; in the other it is documented at two paths. -/
theorem normalize_alike (left right : UriTemplate)
    (alike : left.Alike UriTemplate.Name.ReadAlike right) :
    parameters (normalize left.text) = parameters (normalize right.text) ∧
    (normalize left.text = normalize right.text ↔
      left.Alike UriTemplate.Name.SpelledAlike right) ∧
    (left.Alike UriTemplate.Name.SpelledAlike right →
      ∀ draft : Draft, draft.Normal → draft.NamesOnce →
      ∀ before later after, draft.mounts = before ++ later :: after →
        Mount.Unrepeated before → Mount.Agree draft.mountPaths before →
      ∀ first ∈ before, first.path = normalize left.text → later.path = normalize right.text →
        first.sourced.endpoint.method = later.sourced.endpoint.method →
          draft.resolve = .error (.duplicateOperation later.sourced.endpoint.method
            (normalize right.text) draft.label first.sourced.origin later.sourced.origin)) ∧
    ∀ fragments options views filled, merge fragments options = .ok views →
      (fragments.flatMap Fragment.occurrences).mapM (Occurrence.fill options.templates) =
        .ok filled →
      ∀ first second, [first, second].Sublist filled → first.id = second.id →
        first.sourced.endpoint.method = second.sourced.endpoint.method →
        first.IsMountedOn options left → second.IsMountedOn options right →
          ¬ left.Alike UriTemplate.Name.SpelledAlike right ∧ ∃ view ∈ views, view.id = first.id ∧
            (normalize left.text, first.method options) ∈ view.placed ∧
              (normalize right.text, second.method options) ∈ view.placed := by
  have hnormal := UriTemplate.normalize_eq_iff_of_alike alike
  refine ⟨?_, hnormal, ?_, ?_⟩
  · rw [UriTemplate.parameters_normalize_text, UriTemplate.parameters_normalize_text,
      UriTemplate.tokens_eq_of_alike alike]
  · intro spelled draft normal once before later after hmounts unrepeated agree first hfirst
      hleft hright hmethod
    have hoperation : first.operation = later.operation := by
      rw [Mount.operation, Mount.operation, hleft, hright, hnormal.mpr spelled, hmethod]
    rw [← hright]
    exact Draft.resolve_of_repeats normal once
      ⟨before, after, hmounts, unrepeated, agree, hfirst, hoperation⟩
  · intro fragments options views filled hmerge hfilled first second sublist hid hmethod hfirst
      hsecond
    obtain ⟨hne, hviews⟩ := placed_of_mounted hmerge hfilled sublist hid hmethod hfirst hsecond
    exact ⟨fun spelled => hne (hnormal.mpr spelled), hviews⟩

def shopTemplate (name : UriTemplate.Name) (constraint : Option UriTemplate.Constraint) :
    UriTemplate where
  slashes := 1
  segments := [
    ⟨[.literal ⟨"shops".toList, by simp, by simp⟩], by simp, 1⟩,
    ⟨[.token name constraint], by simp, 0⟩]
  separated := by simp

def plainName : UriTemplate.Name := ⟨"id".toList, ⟨'i', by simp, rfl⟩, by simp⟩

def spacedName : UriTemplate.Name := ⟨"id ".toList, ⟨'i', by simp, rfl⟩, by simp⟩

def digits : UriTemplate.Constraint := ⟨" [0-9]{3}".toList, by decide, by decide⟩

theorem shopTemplate_alike {alike : UriTemplate.Name → UriTemplate.Name → Prop}
    {name name' : UriTemplate.Name} (h : alike name name')
    (constraint constraint' : Option UriTemplate.Constraint) :
    (shopTemplate name constraint).Alike alike (shopTemplate name' constraint') :=
  .cons (.cons (.literal rfl) .nil) (.cons (.cons (.token _ _ h) .nil) .nil)

theorem readAlike_spacedName : plainName.ReadAlike spacedName := by
  unfold UriTemplate.Name.ReadAlike
  decide +kernel

def shopEndpoint (path : String) : Endpoint := { method := .get, paths := [path] }

def spelledFragments : List Fragment :=
  [{ origin := some "shops", groupings := [{ id := some "shops", endpoints :=
      [shopEndpoint "/shops/{id}", shopEndpoint "/shops/{id : [0-9]{3}}"] }] }]

def spelledOnce : Draft where
  id := some "shops"
  endpoints := [⟨"shops", shopEndpoint "/shops/{id}"⟩, ⟨"staff", shopEndpoint "/shops/{id}"⟩]

theorem spelledOnce_normal : spelledOnce.Normal ∧ spelledOnce.NamesOnce := by
  have hpaths : ∀ path ∈ spelledOnce.mountPaths, normalize path = path := by decide +kernel
  refine ⟨fun path hpath => ⟨path, hpaths path hpath⟩, ?_⟩
  unfold Draft.NamesOnce
  decide +kernel

theorem agree_singleton {paths : List String} {mount : Mount}
    (h : mount.sourced.endpoint.pathParameters = []) : Mount.Agree paths [mount] := by
  rintro path name - other hother - other' - - values ⟨parameter, hparameter, -⟩
  rw [List.mem_singleton.mp hother, h] at hparameter
  exact absurd hparameter List.not_mem_nil

theorem normalize_alike_shops :
    (shopTemplate plainName none).Alike UriTemplate.Name.ReadAlike
      (shopTemplate spacedName (some digits)) ∧
    parameters (normalize "/shops/{id}") = parameters (normalize "/shops/{id : [0-9]{3}}") ∧
    (∃ views first second, merge spelledFragments {} = .ok views ∧ ∃ view ∈ views,
      ("/shops/{id}", first) ∈ view.placed ∧ ("/shops/{id }", second) ∈ view.placed ∧
        first.endpoint.method = second.endpoint.method) ∧
    spelledOnce.resolve =
      .error (.duplicateOperation .get "/shops/{id}" "shops" "shops" "staff") := by
  have hplain : (shopTemplate plainName none).text = "/shops/{id}" := by decide +kernel
  have hspaced : (shopTemplate spacedName (some digits)).text = "/shops/{id : [0-9]{3}}" := by
    decide +kernel
  have halike := shopTemplate_alike readAlike_spacedName none (some digits)
  obtain ⟨hparameters, -, -, hplaced⟩ := normalize_alike _ _ halike
  rw [hplain, hspaced] at hparameters hplaced
  refine ⟨halike, hparameters, ?_, ?_⟩
  · let first : Occurrence := ⟨some "shops", "shops", shopEndpoint "/shops/{id}"⟩
    let second : Occurrence := ⟨some "shops", "shops", shopEndpoint "/shops/{id : [0-9]{3}}"⟩
    have hfilled : (spelledFragments.flatMap Fragment.occurrences).mapM (Occurrence.fill {}) =
        .ok [first, second] := by decide +kernel
    have hmerge : (merge spelledFragments {}).isOk = true := by decide +kernel
    obtain ⟨views, hviews⟩ := Except.isOk_iff.mp hmerge
    have hfirst : first.IsMountedOn {} (shopTemplate plainName none) :=
      ⟨rfl, by rw [hplain]; exact List.mem_singleton_self _, rfl⟩
    have hsecond : second.IsMountedOn {} (shopTemplate spacedName (some digits)) :=
      ⟨rfl, by rw [hspaced]; exact List.mem_singleton_self _, rfl⟩
    obtain ⟨-, view, hview, -, hplacedFirst, hplacedSecond⟩ := hplaced spelledFragments {} views
      [first, second] hviews hfilled first second (List.Sublist.refl _) rfl rfl hfirst hsecond
    have hpath : normalize "/shops/{id}" = "/shops/{id}" := by decide +kernel
    have hpath' : normalize "/shops/{id : [0-9]{3}}" = "/shops/{id }" := by decide +kernel
    rw [hpath] at hplacedFirst
    rw [hpath'] at hplacedSecond
    exact ⟨views, _, _, hviews, view, hview, hplacedFirst, hplacedSecond, rfl⟩
  · have hread : (shopTemplate plainName none).Alike UriTemplate.Name.ReadAlike
        (shopTemplate plainName (some digits)) :=
      shopTemplate_alike (show plainName.ReadAlike plainName from rfl) _ _
    have hspelled : (shopTemplate plainName none).Alike UriTemplate.Name.SpelledAlike
        (shopTemplate plainName (some digits)) :=
      shopTemplate_alike (show plainName.SpelledAlike plainName from rfl) _ _
    obtain ⟨-, -, hrefused, -⟩ := normalize_alike _ _ hread
    have hpath : normalize (shopTemplate plainName none).text = "/shops/{id}" := by decide +kernel
    have hpath' : normalize (shopTemplate plainName (some digits)).text = "/shops/{id}" := by
      decide +kernel
    rw [hpath, hpath'] at hrefused
    exact hrefused hspelled spelledOnce spelledOnce_normal.1 spelledOnce_normal.2 _ _ [] rfl
      (List.nodup_singleton _) (agree_singleton rfl) _ (List.mem_singleton_self _) rfl rfl rfl

/-- Templates that name the same parameters in the same places are not always one path. -/
theorem not_normalize_eq_of_alike :
    ¬ ∀ left right : UriTemplate, left.Alike UriTemplate.Name.ReadAlike right →
      normalize left.text = normalize right.text := by
  intro h
  have hsame := h _ _ (shopTemplate_alike readAlike_spacedName none (some digits))
  revert hsame
  decide +kernel

end ApiManual
