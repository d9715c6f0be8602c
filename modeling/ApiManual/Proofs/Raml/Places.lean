import ApiManual.Proofs.Raml.Reading
import ApiManual.Proofs.Yaml.Reading

/-!
Where the resources and the methods of a view stand in its document: the relative paths of the
resources on the way down lead to the mapping of a resource, and the verb from there to a method.
-/
namespace ApiManual.Raml

open Yaml (Key)

@[simp] theorem reverse_entryIf? (name : String) (value : Option Yaml) :
    (entryIf? name value).reverse = entryIf? name value := by
  cases value <;> rfl

@[simp] theorem lookup_entryIf? (name other : String) (value : Option Yaml) :
    (entryIf? name value).lookup (.text other) = if other = name then value else none := by
  cases value with
  | none => simp [entryIf?]
  | some value => simp [entryIf?, entry, List.lookup_cons_eq_ite]

theorem child?_of_mem {entries : List (Key × Yaml)} (nodup : (keys entries).Nodup) {name : String}
    {value : Yaml} (h : entry name value ∈ entries) :
    (Yaml.ofEntries entries).child? name = some value := by
  rw [Yaml.ofEntries_of_nodup nodup]
  exact List.lookup_eq_some_of_mem nodup h

theorem child?_entry (name other : String) (value : Yaml) :
    (Yaml.ofEntries [entry name value]).child? other =
      if other = name then some value else none := by
  simp [entry, List.lookup_cons_eq_ite]

theorem entry_mem_resources {siblings : List Resource} {resource : Resource}
    (h : resource ∈ siblings) :
    entry resource.relativePath (.ofEntries (resourceEntries resource)) ∈ resources siblings := by
  rw [resources_eq_map]
  exact List.mem_map_of_mem h

theorem atNames?_wayDown {siblings : List Resource} {entries : List (Key × Yaml)}
    (nodup : (keys entries).Nodup) (subset : resources siblings ⊆ entries)
    (separate : ∀ other ∈ Resource.preOrderAll siblings, other.Separate) {above : List Resource}
    {resource : Resource} (h : Resource.WayDown siblings (above ++ [resource])) :
    (Yaml.ofEntries entries).atNames? ((above ++ [resource]).map (·.relativePath)) =
      some (.ofEntries (resourceEntries resource)) := by
  induction above generalizing siblings entries with
  | nil =>
    have hmem := subset (entry_mem_resources (Resource.wayDown_singleton.mp h))
    simp [child?_of_mem nodup hmem]
  | cons first rest ih =>
    obtain ⟨hfirst, hrest⟩ := h
    have hown := separate first (Resource.mem_preOrderAll_of_mem hfirst)
    have hbelow : ∀ other ∈ Resource.preOrderAll first.children, other.Separate :=
      fun other hother => separate other (Resource.preOrderAll_children_subset hfirst hother)
    have hchildren : resources first.children ⊆ resourceEntries first := by
      rw [resourceEntries_eq]
      exact List.subset_append_right _ _
    rw [List.cons_append, List.map_cons, Yaml.atNames?_cons,
      child?_of_mem nodup (subset (entry_mem_resources hfirst)), Option.bind_some]
    exact ih (nodup_keys_resourceEntries hown) hchildren hbelow hrest

def methodNames (line : List Resource) (method : ResourceMethod) : List String :=
  line.map (·.relativePath) ++ [method.endpoint.method.key]

theorem atNames?_methodNames {view : ApiView} (separate : view.Separate) {above : List Resource}
    {resource : Resource} (h : Resource.WayDown view.resources (above ++ [resource]))
    {m : ResourceMethod} (hm : m ∈ resource.methods) :
    (Yaml.mapping (document view)).atNames? (methodNames (above ++ [resource]) m) =
      some (method m) := by
  have hall : ∀ other ∈ Resource.preOrderAll view.resources, other.Separate := by
    rw [← Resource.walk_eq_preOrderAll]
    exact separate.within
  have hdown := atNames?_wayDown (nodup_keys_documentEntries separate)
    (List.subset_append_right _ _) hall h
  have hown : resource.Separate :=
    separate.within resource (Resource.mem_visit_iff.mpr ⟨above, h⟩)
  have hmem : entry m.endpoint.method.key (method m) ∈ resourceEntries resource := by
    rw [resourceEntries_eq, resourceFront]
    exact List.mem_append_left _ (List.mem_append_right _ (List.mem_map_of_mem hm))
  change (Yaml.ofEntries (documentEntries view)).atNames? _ = _
  rw [methodNames, Yaml.atNames?_append, hdown, Option.bind_some, Yaml.atNames?_cons,
    child?_of_mem (nodup_keys_resourceEntries hown) hmem]
  rfl

end ApiManual.Raml
