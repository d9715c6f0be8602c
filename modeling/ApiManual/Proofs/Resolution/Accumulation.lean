import ApiManual.Proofs.Distinct
import ApiManual.Proofs.StableSort
import ApiManual.View.Resolution
import Mathlib.Data.List.Induction

/-!
What a view puts together step by step: what is said about a parameter, the traits that are used,
and the schemes with their scopes.
-/
namespace ApiManual

theorem findSome?_cons_eq_orElse {α β : Type} (f : α → Option β) (x : α) (rest : List α) :
    (x :: rest).findSome? f = (f x <|> rest.findSome? f) := by
  cases h : f x <;> simp [h]

namespace UriParameter

/-- Adds what is said in parts, each of which counts where nothing was said of it before. -/
def orElse (declared : UriParameter) (description : Option String) (type : Option TypeNode)
    (allowedValues : Option (List String)) : UriParameter :=
  { declared with
    description := declared.description <|> description
    type := declared.type <|> type
    allowedValues := declared.allowedValues <|> allowedValues }

theorem orElse_orElse (declared : UriParameter) (description description' : Option String)
    (type type' : Option TypeNode) (allowedValues allowedValues' : Option (List String)) :
    (declared.orElse description type allowedValues).orElse description' type' allowedValues' =
      declared.orElse (description <|> description') (type <|> type')
        (allowedValues <|> allowedValues') := by
  simp [orElse, Option.or_assoc]

variable {declared : UriParameter}

theorem document_eq (h : filled? declared.description = declared.description)
    (parameter : Parameter) : declared.document parameter =
      declared.orElse (filled? parameter.description) parameter.type
        (listed? parameter.allowedValues) := by
  rw [document, orElse, h]
  cases declared.description <;> cases declared.type <;> cases declared.allowedValues <;>
    cases filled? parameter.description <;> cases listed? parameter.allowedValues <;> rfl

/-- Of each kind of thing that is said the first counts. -/
theorem foldl_document (h : filled? declared.description = declared.description)
    (said : List Parameter) : said.foldl document declared =
      declared.orElse (said.findSome? (filled? ·.description)) (said.findSome? (·.type))
        (said.findSome? (listed? ·.allowedValues)) := by
  induction said generalizing declared with
  | nil => simp [orElse]
  | cons parameter rest ih =>
    have hnext : filled? (declared.document parameter).description =
        (declared.document parameter).description := by
      rw [document_eq h, orElse]
      dsimp only
      rw [← h, filled?_orElse_filled?]
    rw [List.foldl_cons, ih hnext, document_eq h, orElse_orElse]
    simp only [findSome?_cons_eq_orElse]

end UriParameter

theorem Statement.summarize_eq (declaration : Declaration) (statements : List Statement) :
    summarize declaration statements =
      let said := (about declaration.owner declaration.token.name statements).map (·.parameter)
      { name := declaration.token.name
        position := declaration.token.position
        description := said.findSome? (filled? ·.description)
        allowedValues := said.findSome? (listed? ·.allowedValues)
        type := said.findSome? (·.type) } := by
  rw [summarize, ← List.foldl_map, UriParameter.foldl_document rfl]
  simp [UriParameter.orElse]

theorem Statement.name_summarize (declaration : Declaration) (statements : List Statement) :
    (summarize declaration statements).name = declaration.token.name := by
  rw [summarize_eq]

namespace Resolution

theorem place_of_rank? {tag : StabilityTrait} {rank : Nat} (h : tag.rank? = some rank) :
    place tag = rank := by
  rw [place, h]
  rfl

theorem place_lt {tag other : StabilityTrait} {rank : Nat} (h : tag.rank? = some rank)
    (hother : other.rank? = none) : place tag < place other := by
  have hlt : rank < StabilityTrait.known.length := by
    obtain ⟨hlt, -⟩ := List.findIdx?_eq_some_iff_getElem.mp h
    exact hlt
  rw [place_of_rank? h, place, hother]
  exact hlt.trans (by decide)

theorem insertTrait_eq : insertTrait = List.orderedInsert (place · ≤ place ·) := by
  funext tag tags
  induction tags with
  | nil => rfl
  | cons other rest ih => rw [insertTrait, List.orderedInsert_cons, ih]

theorem declaredTraits_eq (used : List StabilityTrait) :
    declaredTraits used = (distinct used).insertionSort (place · ≤ place ·) := by
  rw [declaredTraits, foldl_pushNew_nil, insertTrait_eq, List.insertionSort]

theorem declaredTraits_perm (used : List StabilityTrait) :
    (declaredTraits used).Perm (distinct used) := by
  rw [declaredTraits_eq]
  exact List.perm_insertionSort _ _

theorem nodup_declaredTraits (used : List StabilityTrait) : (declaredTraits used).Nodup :=
  (declaredTraits_perm used).nodup_iff.mpr (nodup_distinct used)

theorem mem_declaredTraits {used : List StabilityTrait} {tag : StabilityTrait} :
    tag ∈ declaredTraits used ↔ tag ∈ used :=
  (declaredTraits_perm used).mem_iff.trans mem_distinct

theorem pairwise_declaredTraits_place (used : List StabilityTrait) :
    (declaredTraits used).Pairwise fun tag other =>
      place tag < place other ∨ place tag = place other ∧ used.idxOf tag < used.idxOf other := by
  rw [declaredTraits_eq]
  exact (pairwise_idxOf_distinct used).insertionSort_key place

def scopesOf (requirements : List Security) (scheme : String) : List String :=
  distinct ((requirements.filter (·.scheme = scheme)).flatMap Security.scopes)

section

variable (requirements : List Security) {requirement : Security} {scheme : String}

theorem scopesOf_append_of_eq : scopesOf (requirements ++ [requirement]) requirement.scheme =
    requirement.scopes.foldl pushNew (scopesOf requirements requirement.scheme) := by
  rw [foldl_pushNew, scopesOf, scopesOf, ← distinct_append]
  simp

theorem scopesOf_append_of_ne (h : scheme ≠ requirement.scheme) :
    scopesOf (requirements ++ [requirement]) scheme = scopesOf requirements scheme := by
  rw [scopesOf, scopesOf, List.filter_append, List.filter_singleton]
  simp [h.symm]

theorem scopesOf_eq_nil {requirements : List Security}
    (h : scheme ∉ requirements.map (·.scheme)) : scopesOf requirements scheme = [] := by
  have hnone : requirements.filter (·.scheme = scheme) = [] := by
    rw [List.filter_eq_nil_iff]
    intro requirement hrequirement heq
    exact h (of_decide_eq_true heq ▸ List.mem_map_of_mem hrequirement)
  rw [scopesOf, hnone]
  rfl

theorem names_map_scopesOf (schemes : List String) :
    (schemes.map fun scheme => (⟨scheme, scopesOf requirements scheme⟩ : SecurityScheme)).map
      (·.name) = schemes := by
  rw [List.map_map]
  exact List.map_id _

end

section

variable {schemes : List SecurityScheme} {requirement : Security}

theorem addRequirement_of_mem (nodup : (schemes.map (·.name)).Nodup)
    (h : requirement.scheme ∈ schemes.map (·.name)) : addRequirement schemes requirement =
      schemes.map fun scheme => if scheme.name = requirement.scheme then
        ⟨scheme.name, requirement.scopes.foldl pushNew scheme.scopes⟩ else scheme := by
  obtain ⟨scheme, hscheme, hname⟩ := List.mem_map.mp h
  rw [addRequirement]
  split
  · exact modify_findIdx?_key nodup ‹_› _
  · rename_i hnone
    exact absurd hname (of_decide_eq_false (List.findIdx?_eq_none_iff.mp hnone scheme hscheme))

theorem addRequirement_of_not_mem (h : requirement.scheme ∉ schemes.map (·.name)) :
    addRequirement schemes requirement =
      schemes ++ [⟨requirement.scheme, requirement.scopes.foldl pushNew []⟩] := by
  have hnone : schemes.findIdx? (·.name = requirement.scheme) = none := by
    rw [List.findIdx?_eq_none_iff]
    intro scheme hscheme
    exact decide_eq_false fun heq => h (heq ▸ List.mem_map_of_mem hscheme)
  rw [addRequirement, hnone]

end

/-- The schemes are listed as they are first required, each with all scopes that are asked of it. -/
theorem securitySchemes_eq (requirements : List Security) : securitySchemes requirements =
    (distinct (requirements.map (·.scheme))).map fun scheme =>
      ⟨scheme, scopesOf requirements scheme⟩ := by
  induction requirements using List.reverseRecOn with
  | nil => rfl
  | append_singleton earlier requirement ih =>
    have hnames := names_map_scopesOf earlier (distinct (earlier.map (·.scheme)))
    rw [securitySchemes, List.foldl_append, ← securitySchemes, ih, List.foldl_cons, List.foldl_nil,
      List.map_append, List.map_singleton, distinct_append_singleton]
    by_cases hmem : requirement.scheme ∈ earlier.map (·.scheme)
    · rw [if_pos hmem, addRequirement_of_mem (hnames.symm ▸ nodup_distinct _)
        (hnames.symm ▸ mem_distinct.mpr hmem), List.map_map]
      apply List.map_congr_left
      intro scheme _
      by_cases heq : scheme = requirement.scheme
      · simp [heq, scopesOf_append_of_eq]
      · simp [heq, scopesOf_append_of_ne earlier heq]
    · rw [if_neg hmem, addRequirement_of_not_mem (hnames.symm ▸ mt mem_distinct.mp hmem),
        List.map_append, List.map_singleton, scopesOf_append_of_eq, scopesOf_eq_nil hmem]
      congr 1
      apply List.map_congr_left
      intro scheme hscheme
      rw [scopesOf_append_of_ne earlier fun heq => hmem (heq ▸ mem_distinct.mp hscheme)]

theorem names_securitySchemes (requirements : List Security) :
    (securitySchemes requirements).map (·.name) = distinct (requirements.map (·.scheme)) := by
  rw [securitySchemes_eq, names_map_scopesOf]

end Resolution

end ApiManual
