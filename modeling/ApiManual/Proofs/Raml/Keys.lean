import ApiManual.Proofs.Merge.Siblings
import ApiManual.Proofs.Yaml.Mapping
import ApiManual.Raml

/-!
The keys of a RAML document. Every entry of a document and of the mapping of a resource has a key of
its own, so that no entry takes the place of another.
-/
namespace ApiManual.Raml

open Yaml (Key)

/-- A resource is told by the slash that its key begins with. -/
def isResourceKey : Key → Bool
  | .text name => name.toList.head? = some '/'
  | .number _ => false

def keys (entries : List (Key × Yaml)) : List Key := entries.map Prod.fst

theorem keys_append (front back : List (Key × Yaml)) :
    keys (front ++ back) = keys front ++ keys back := List.map_append

theorem keys_entryIf?_sublist (name : String) (value : Option Yaml) :
    (keys (entryIf? name value)).Sublist [.text name] := by
  cases value with
  | none => exact List.nil_sublist _
  | some value => exact List.Sublist.refl _

theorem keys_parameterEntries (parameters : List UriParameter) :
    keys (parameterEntries parameters) = (parameters.map (·.name)).map .text := by
  rw [keys, parameterEntries, List.map_map, List.map_map]
  rfl

theorem keys_methodEntries (methods : List ResourceMethod) :
    keys (methodEntries methods) =
      (methods.map (·.endpoint.method)).map fun verb => .text verb.key := by
  rw [keys, methodEntries, List.map_map, List.map_map]
  rfl

theorem resources_eq_map (siblings : List Resource) :
    resources siblings =
      siblings.map fun resource =>
        entry resource.relativePath (.ofEntries (resourceEntries resource)) := by
  induction siblings with
  | nil => rfl
  | cons resource rest ih =>
    cases resource
    rw [resources, ih]
    rfl

theorem keys_resources (siblings : List Resource) :
    keys (resources siblings) = (siblings.map (·.relativePath)).map .text := by
  rw [keys, resources_eq_map, List.map_map, List.map_map]
  rfl

theorem text_injective : Function.Injective Key.text := fun _ _ => Key.text.inj

theorem verbKey_injective : Function.Injective fun verb : HttpMethod => Key.text verb.key := by
  intro verb verb' h
  cases verb <;> cases verb' <;> first | rfl | exact absurd h (by decide)

theorem isResourceKey_verbKey (verb : HttpMethod) : isResourceKey (.text verb.key) = false := by
  cases verb <;> rfl

theorem verbKey_ne_uriParameters (verb : HttpMethod) :
    Key.text verb.key ≠ .text "uriParameters" := by
  cases verb <;> decide

theorem isResourceKey_resources {siblings : List Resource} (apart : Resource.Apart siblings) :
    ∀ key ∈ keys (resources siblings), isResourceKey key = true := by
  rw [keys_resources]
  intro key hkey
  obtain ⟨relative, hrelative, rfl⟩ := List.mem_map.mp hkey
  obtain ⟨resource, hresource, rfl⟩ := List.mem_map.mp hrelative
  exact decide_eq_true (apart.slashed resource hresource).head?_toList

theorem nodup_keys_append_resources {front : List (Key × Yaml)} {siblings : List Resource}
    (nodup : (keys front).Nodup) (other : ∀ key ∈ keys front, isResourceKey key = false)
    (apart : Resource.Apart siblings) : (keys (front ++ resources siblings)).Nodup := by
  rw [keys_append, List.nodup_append']
  refine ⟨nodup, ?_, ?_⟩
  · rw [keys_resources]
    exact apart.nodup.map text_injective
  · intro key hfront hback
    have hboth := (other key hfront).symm.trans (isResourceKey_resources apart key hback)
    exact absurd hboth (by decide)

theorem resourceEntries_eq (resource : Resource) :
    resourceEntries resource =
      resourceFront resource.uriParameters resource.methods ++ resources resource.children := by
  cases resource
  rw [resourceEntries]

section

variable {parameters : List UriParameter} {methods : List ResourceMethod}

theorem mem_keys_resourceFront {key : Key} (h : key ∈ keys (resourceFront parameters methods)) :
    key = .text "uriParameters" ∨ ∃ verb : HttpMethod, key = .text verb.key := by
  rw [resourceFront, keys_append, List.mem_append, keys_methodEntries] at h
  refine h.imp (fun hmem => List.mem_singleton.mp ((keys_entryIf?_sublist _ _).mem hmem)) ?_
  intro hmem
  obtain ⟨verb, -, rfl⟩ := List.mem_map.mp hmem
  exact ⟨verb, rfl⟩

theorem isResourceKey_resourceFront :
    ∀ key ∈ keys (resourceFront parameters methods), isResourceKey key = false := by
  intro key hkey
  rcases mem_keys_resourceFront hkey with rfl | ⟨verb, rfl⟩
  · decide
  · exact isResourceKey_verbKey verb

theorem nodup_keys_resourceFront (nodup : (methods.map (·.endpoint.method)).Nodup) :
    (keys (resourceFront parameters methods)).Nodup := by
  rw [resourceFront, keys_append, keys_methodEntries, List.nodup_append']
  refine ⟨(List.nodup_singleton _).sublist (keys_entryIf?_sublist _ _),
    nodup.map verbKey_injective, ?_⟩
  intro key hfront hback
  obtain ⟨verb, -, rfl⟩ := List.mem_map.mp hback
  exact verbKey_ne_uriParameters verb
    (List.mem_singleton.mp ((keys_entryIf?_sublist _ _).mem hfront))

end

theorem nodup_keys_resourceEntries {resource : Resource} (separate : resource.Separate) :
    (keys (resourceEntries resource)).Nodup := by
  rw [resourceEntries_eq]
  exact nodup_keys_append_resources (nodup_keys_resourceFront separate.methods)
    isResourceKey_resourceFront separate.children

theorem nodup_keys_parameterEntries {resource : Resource} (separate : resource.Separate) :
    (keys (parameterEntries resource.uriParameters)).Nodup := by
  rw [keys_parameterEntries]
  exact separate.parameters.map text_injective

/-- The keys that a document may have besides those of the resources. -/
def frontKeys : List Key :=
  ["title", "version", "baseUri", "documentation", "securitySchemes", "traits"].map .text

theorem keys_documentFront_sublist (view : ApiView) :
    (keys (documentFront view)).Sublist frontKeys := by
  simp only [documentFront, keys_append]
  exact (((((List.Sublist.refl [Key.text "title"]).append (keys_entryIf?_sublist _ _)).append
    (keys_entryIf?_sublist _ _)).append (keys_entryIf?_sublist _ _)).append
    (keys_entryIf?_sublist _ _)).append (keys_entryIf?_sublist _ _)

theorem isResourceKey_documentFront (view : ApiView) :
    ∀ key ∈ keys (documentFront view), isResourceKey key = false := by
  have hall : ∀ key ∈ frontKeys, isResourceKey key = false := by decide
  exact fun key hkey => hall key ((keys_documentFront_sublist view).mem hkey)

theorem nodup_keys_documentEntries {view : ApiView} (separate : view.Separate) :
    (keys (documentEntries view)).Nodup := by
  refine nodup_keys_append_resources ?_ (isResourceKey_documentFront view) separate.roots
  exact List.Nodup.sublist (keys_documentFront_sublist view) (by decide)

end ApiManual.Raml
