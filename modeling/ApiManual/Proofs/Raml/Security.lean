import ApiManual.Proofs.Merge.Usage
import ApiManual.Proofs.Raml.Places

/-!
The scopes in a RAML document. A scheme is declared with the scopes of all requirements that name
it, where of several lists of scopes in one requirement the first counts. At a method the mapping
of its requirement holds the last of them.
-/
namespace ApiManual

namespace Security

/-- The list with this name; of lists with one name the last. -/
def lastValues (security : Security) (name : String) : List String :=
  (security.parameters.reverse.lookup name).getD []

/-- All lists with this name are the same. -/
def Agrees (security : Security) (name : String) : Prop :=
  ∀ values, (name, values) ∈ security.parameters →
    ∀ values', (name, values') ∈ security.parameters → values = values'

theorem Agrees.lastValues_eq {security : Security} {name : String} (h : security.Agrees name) :
    security.lastValues name = security.values name := by
  rw [lastValues, List.lookup_reverse_of_agree h, values]

end Security

namespace Raml

/-- The scopes of a scheme that a document requests where these names lead. -/
def requestedScopes (document : Yaml) (method : List String) (scheme : String) : List String :=
  (document.itemsAt (method ++ ["securedBy"])).flatMap (·.textsAt [scheme, Security.scopesKey])

def declaredScopes (document : Yaml) (scheme : String) : List String :=
  (document.itemsAt ["securitySchemes"]).flatMap (·.textsAt [scheme, "settings", "scopes"])

theorem requirement_of_nil {security : Security} (h : security.parameters = []) :
    requirement security = .sequence [.text security.scheme] := by
  rw [requirement, h]
  rfl

theorem requirement_of_ne_nil {security : Security} (h : security.parameters ≠ []) :
    requirement security = .sequence [.ofEntries [entry security.scheme <| .ofEntries <|
      security.parameters.map fun list => entry list.1 (Yaml.texts list.2)]] := by
  rw [requirement, if_neg (mt List.isEmpty_iff.mp h)]

theorem textsAt_requirement (security : Security) (name : String) :
    (requirement security).items.flatMap (·.textsAt [security.scheme, name]) =
      security.lastValues name := by
  by_cases hnil : security.parameters = []
  · rw [requirement_of_nil hnil, Security.lastValues, hnil]
    rfl
  · have hlist : (Yaml.ofEntries (security.parameters.map fun list =>
        entry list.1 (Yaml.texts list.2))).child? name =
          (security.parameters.reverse.lookup name).map Yaml.texts := by
      rw [Yaml.child?_ofEntries, ← List.map_reverse]
      exact List.lookup_map text_injective Yaml.texts _ name
    rw [requirement_of_ne_nil hnil, Yaml.items, List.flatMap_singleton,
      Yaml.textsAt_cons_of_some ((child?_entry _ _ _).trans (if_pos rfl)), Security.lastValues]
    cases hlookup : security.parameters.reverse.lookup name with
    | none =>
      rw [hlookup, Option.map_none] at hlist
      exact Yaml.textsAt_cons_of_none hlist []
    | some values =>
      rw [hlookup, Option.map_some] at hlist
      rw [Yaml.textsAt_cons_of_some hlist, Yaml.textsAt_texts, Option.getD_some]

theorem child?_method_securedBy (m : ResourceMethod) :
    (method m).child? "securedBy" = m.endpoint.security.map requirement := by
  simp [method, List.lookup_append]

theorem textsAt_securityScheme (scheme : SecurityScheme) (name : String) :
    (securityScheme scheme).textsAt [name, "settings", "scopes"] =
      if scheme.name = name then scheme.scopes else [] := by
  have hsettings : ∀ settings, (Yaml.ofEntries (textEntry "type" (schemeType scheme.name) ::
      entryIf? "settings" settings)).child? "settings" = settings := by
    simp [textEntry, entry, List.lookup_append, List.lookup_cons_eq_ite]
  rw [securityScheme]
  split
  · rename_i hname
    rw [Yaml.textsAt_cons_of_some ((child?_entry _ _ _).trans (if_pos hname.symm))]
    by_cases hempty : scheme.scopes.isEmpty
    · rw [unlessEmpty?, if_pos hempty, List.isEmpty_iff.mp hempty]
      exact Yaml.textsAt_cons_of_none (hsettings none) ["scopes"]
    · rw [unlessEmpty?, if_neg hempty, Yaml.textsAt_cons_of_some (hsettings _),
        Yaml.textsAt_cons_of_some ((child?_entry _ _ _).trans (if_pos rfl)), Yaml.textsAt_texts]
  · rename_i hname
    exact Yaml.textsAt_cons_of_none ((child?_entry _ _ _).trans (if_neg (Ne.symm hname))) _

theorem child?_securitySchemes {view : ApiView} (separate : view.Separate) :
    (Yaml.mapping (document view)).child? "securitySchemes" =
      unlessEmpty? view.securitySchemes fun schemes => .sequence (schemes.map securityScheme) := by
  have hresources : (resources view.resources).lookup (.text "securitySchemes") = none := by
    refine List.lookup_eq_none_of_not_mem fun hmem => ?_
    exact absurd (isResourceKey_resources separate.roots _ hmem) (by decide)
  rw [Yaml.child?, document_eq separate, documentEntries, List.lookup_append, hresources,
    Option.or_none]
  simp [documentFront, textEntry, entry, List.lookup_append, List.lookup_cons_eq_ite]

theorem mem_declaredScopes_document {view : ApiView} (separate : view.Separate)
    {name scope : String} : scope ∈ declaredScopes (.mapping (document view)) name ↔
      ∃ scheme ∈ view.securitySchemes, scheme.name = name ∧ scope ∈ scheme.scopes := by
  have hitems : (Yaml.mapping (document view)).itemsAt ["securitySchemes"] =
      view.securitySchemes.map securityScheme := by
    rw [Yaml.itemsAt, Yaml.atNames?_cons, child?_securitySchemes separate, unlessEmpty?]
    split
    · rename_i hempty
      rw [List.isEmpty_iff.mp hempty]
      rfl
    · rfl
  rw [declaredScopes, hitems, List.flatMap_map, List.mem_flatMap]
  refine exists_congr fun scheme => and_congr_right fun _ => ?_
  rw [textsAt_securityScheme]
  split
  · rename_i hname
    exact (and_iff_right hname).symm
  · rename_i hname
    exact ⟨fun h => absurd h List.not_mem_nil, fun h => absurd h.1 hname⟩

theorem requestedScopes_document {view : ApiView} {names : List String} {m : ResourceMethod}
    {security : Security} (h : m.endpoint.security = some security)
    (hm : (Yaml.mapping (document view)).atNames? names = some (method m)) :
    (Yaml.mapping (document view)).atNames? (names ++ ["securedBy"]) =
        some (requirement security) ∧
      requestedScopes (.mapping (document view)) names security.scheme =
        security.lastValues Security.scopesKey := by
  have hwritten : (Yaml.mapping (document view)).atNames? (names ++ ["securedBy"]) =
      some (requirement security) := by
    rw [Yaml.atNames?_append, hm, Option.bind_some, Yaml.atNames?_cons, child?_method_securedBy, h]
    rfl
  refine ⟨hwritten, ?_⟩
  rw [requestedScopes, Yaml.itemsAt, hwritten]
  exact textsAt_requirement security Security.scopesKey

/-- What the document of a view says of a requirement of the method to which these names lead. -/
structure DocumentsSecurity (view : ApiView) (names : List String) (security : Security) :
    Prop where
  written : (Yaml.mapping (document view)).atNames? (names ++ ["securedBy"]) =
    some (requirement security)
  requested : requestedScopes (.mapping (document view)) names security.scheme =
    security.lastValues Security.scopesKey
  declared : ∀ scope, scope ∈ declaredScopes (.mapping (document view)) security.scheme ↔
    ∃ resource ∈ view.walk, ∃ method ∈ resource.methods, ∃ other,
      method.endpoint.security = some other ∧ other.scheme = security.scheme ∧ scope ∈ other.scopes
  consistent : security.Agrees Security.scopesKey →
    requestedScopes (.mapping (document view)) names security.scheme ⊆
      declaredScopes (.mapping (document view)) security.scheme

end Raml

open Raml

theorem ApiView.DeclaresUsed.mem_scopes_iff {view : ApiView} {endpoints : List Endpoint}
    (h : view.DeclaresUsed endpoints) {name scope : String} :
    (∃ scheme ∈ view.securitySchemes, scheme.name = name ∧ scope ∈ scheme.scopes) ↔
      ∃ resource ∈ view.walk, ∃ method ∈ resource.methods, ∃ security,
        method.endpoint.security = some security ∧ security.scheme = name ∧
          scope ∈ security.scopes := by
  have hmem : ∀ {security : Security}, security ∈ endpoints.filterMap (·.security) ↔
      ∃ resource ∈ view.walk, ∃ method ∈ resource.methods,
        method.endpoint.security = some security := by
    intro security
    rw [List.mem_filterMap]
    constructor
    · rintro ⟨endpoint, hendpoint, hsecurity⟩
      obtain ⟨resource, hresource, method, hmethod, rfl⟩ := (h.documented endpoint).mp hendpoint
      exact ⟨resource, hresource, method, hmethod, hsecurity⟩
    · rintro ⟨resource, hresource, method, hmethod, hsecurity⟩
      exact ⟨method.endpoint, (h.documented _).mpr ⟨resource, hresource, method, hmethod, rfl⟩,
        hsecurity⟩
  constructor
  · rintro ⟨scheme, hscheme, rfl, hscope⟩
    obtain ⟨security, hsecurity, hscope⟩ :=
      List.mem_flatMap.mp (((h.scopes scheme hscheme).mem_iff scope).mp hscope)
    obtain ⟨hsecurity, hname⟩ := List.mem_filter.mp hsecurity
    obtain ⟨resource, hresource, method, hmethod, heq⟩ := hmem.mp hsecurity
    exact ⟨resource, hresource, method, hmethod, security, heq, of_decide_eq_true hname, hscope⟩
  · rintro ⟨resource, hresource, method, hmethod, security, heq, rfl, hscope⟩
    have hsecurity := hmem.mpr ⟨resource, hresource, method, hmethod, heq⟩
    obtain ⟨scheme, hscheme, hname⟩ :=
      List.mem_map.mp ((h.schemes.mem_iff _).mpr (List.mem_map_of_mem hsecurity))
    refine ⟨scheme, hscheme, hname, ((h.scopes scheme hscheme).mem_iff scope).mpr ?_⟩
    exact List.mem_flatMap.mpr
      ⟨security, List.mem_filter.mpr ⟨hsecurity, decide_eq_true hname.symm⟩, hscope⟩

variable {fragments : List Fragment} {options : MergeOptions} {views : List ApiView}

/-- In a document each method has its requirement. It requests the last list of scopes that is
written there, while the first lists of all requirements of a scheme are declared for it; so where
a requirement has one list of scopes, all that it requests is declared. -/
theorem merge_documentsSecurity (h : merge fragments options = .ok views) : ∀ view ∈ views,
    ∀ above resource, Resource.WayDown view.resources (above ++ [resource]) →
      ∀ method ∈ resource.methods, ∀ security, method.endpoint.security = some security →
        DocumentsSecurity view (methodNames (above ++ [resource]) method) security := by
  intro view hview above resource hdown method hmethod security hsecurity
  have separate := merge_separate h view hview
  obtain ⟨drafts, hdrafts, hviews⟩ := merge_eq_ok_iff.mp h
  obtain ⟨draft, hdraft, hresolve⟩ := hviews.exists_left hview
  obtain ⟨hwritten, hrequested⟩ :=
    requestedScopes_document hsecurity (atNames?_methodNames separate hdown hmethod)
  have hdeclared : ∀ scope, scope ∈ declaredScopes (.mapping (document view)) security.scheme ↔
      ∃ resource ∈ view.walk, ∃ method ∈ resource.methods, ∃ other,
        method.endpoint.security = some other ∧ other.scheme = security.scheme ∧
          scope ∈ other.scopes := fun scope =>
    (mem_declaredScopes_document separate).trans
      (Draft.declaresUsed hdrafts hdraft hresolve).mem_scopes_iff
  refine ⟨hwritten, hrequested, hdeclared, fun hagrees scope hscope => ?_⟩
  rw [hrequested, hagrees.lastValues_eq] at hscope
  exact (hdeclared scope).mpr ⟨resource, Resource.mem_visit_iff.mpr ⟨above, hdown⟩, method, hmethod,
    security, hsecurity, rfl, hscope⟩

/-- The second requirement has two lists of scopes. -/
def ferryFragments : List Fragment :=
  [{ origin := some "ferries", groupings := [{ id := some "ferries", endpoints := [
      { method := .get, paths := ["/ferries/{id}"], security := some (.oauth2 ["read", "list"]) },
      { method := .post, paths := ["/ferries"]
        security := some ((Security.oauth2 ["read"]).addParameter "scopes" ["write"]) }] }] }]

theorem merge_documentsSecurity_ferries :
    ∃ view above resource method, merge ferryFragments {} = .ok [view] ∧
      Resource.WayDown view.resources (above ++ [resource]) ∧ method ∈ resource.methods ∧
      resource.path = "/ferries/{id}" ∧
      method.endpoint.security = some (.oauth2 ["read", "list"]) ∧
      requestedScopes (.mapping (document view)) (methodNames (above ++ [resource]) method)
        "oauth_2_0" ⊆ declaredScopes (.mapping (document view)) "oauth_2_0" := by
  have hmethods : (merge ferryFragments {}).map (List.map fun view => view.walk.map
      fun resource => (resource.path, resource.methods.map (·.endpoint.security))) =
        .ok [[("/ferries", [some ((Security.oauth2 ["read"]).addParameter "scopes" ["write"])]),
          ("/ferries/{id}", [some (.oauth2 ["read", "list"])])]] := by decide +kernel
  obtain ⟨view, hmerge, hview⟩ := Except.exists_of_map_eq_singleton hmethods
  obtain ⟨resource, hresource, heq⟩ :
      ∃ resource ∈ view.walk, (resource.path, resource.methods.map (·.endpoint.security)) =
        ("/ferries/{id}", [some (.oauth2 ["read", "list"])]) := by
    rw [← List.mem_map, hview]
    exact List.mem_cons_of_mem _ List.mem_cons_self
  obtain ⟨hpath, hsecurity⟩ := Prod.mk.inj heq
  obtain ⟨method, hmethod, hsecurity⟩ := List.map_eq_singleton_iff.mp hsecurity
  obtain ⟨above, hdown⟩ := Resource.mem_visit_iff.mp hresource
  have hmem : method ∈ resource.methods := hmethod ▸ List.mem_cons_self
  have hagrees : (Security.oauth2 ["read", "list"]).Agrees Security.scopesKey := by
    simp [Security.Agrees, Security.oauth2, Security.addParameter]
  exact ⟨view, above, resource, method, hmerge, hdown, hmem, hpath, hsecurity,
    (merge_documentsSecurity hmerge view List.mem_cons_self above resource hdown method hmem _
      hsecurity).consistent hagrees⟩

/-- A document may request a scope that it does not declare. -/
theorem not_requestedScopes_subset :
    ∃ view, merge ferryFragments {} = .ok [view] ∧ ∃ resource ∈ view.resources,
      ∃ method ∈ resource.methods, ∃ security, method.endpoint.security = some security ∧
        ¬ requestedScopes (.mapping (document view)) (methodNames [resource] method)
            security.scheme ⊆
          declaredScopes (.mapping (document view)) security.scheme := by
  have hscopes : (merge ferryFragments {}).map (List.map fun view => view.resources.flatMap
      fun resource => resource.methods.map fun method => (method.endpoint.security.map (·.scheme),
        requestedScopes (.mapping (document view)) (methodNames [resource] method) "oauth_2_0",
        declaredScopes (.mapping (document view)) "oauth_2_0")) =
          .ok [[(some "oauth_2_0", ["write"], ["read", "list"])]] := by decide +kernel
  obtain ⟨view, hmerge, hview⟩ := Except.exists_of_map_eq_singleton hscopes
  have hfirst := hview ▸ List.mem_singleton_self (some "oauth_2_0", ["write"], ["read", "list"])
  obtain ⟨resource, hresource, hmem⟩ := List.mem_flatMap.mp hfirst
  obtain ⟨method, hmethod, heq⟩ := List.mem_map.mp hmem
  obtain ⟨hsecurity, hboth⟩ := Prod.mk.inj heq
  obtain ⟨hrequested, hdeclared⟩ := Prod.mk.inj hboth
  obtain ⟨security, hsecurity, hscheme⟩ := Option.map_eq_some_iff.mp hsecurity
  refine ⟨view, hmerge, resource, hresource, method, hmethod, security, hsecurity, ?_⟩
  rw [hscheme, hrequested, hdeclared]
  decide

end ApiManual
