import ApiManual.Proofs.Lookup
import ApiManual.Proofs.Raml.Keys

/-!
The resources of a RAML document, as they are read from it: the tree of the view, with all methods
and parameters.
-/
namespace ApiManual.Raml

open Yaml (Key)

/-- A resource as it stands in a document: its key, the entries of its parameters and of its
methods, and the resources below it. -/
structure Node where
  key : String
  parameters : List (Key × Yaml)
  methods : List (Key × Yaml)
  children : List Node

mutual

/-- The keys of a resource, its parameters and its methods, and those of all that is below it. -/
def outline : Node → List (String × List Key × List Key)
  | ⟨key, parameters, methods, children⟩ =>
    (key, keys parameters, keys methods) :: outlineAll children

def outlineAll : List Node → List (String × List Key × List Key)
  | [] => []
  | node :: rest => outline node ++ outlineAll rest

end

def readParameters (entries : List (Key × Yaml)) : List (Key × Yaml) :=
  match entries.lookup (.text "uriParameters") with
  | some (.mapping parameters) => parameters
  | _ => []

/-- What is neither a resource nor the parameters is a method. -/
def readMethods (entries : List (Key × Yaml)) : List (Key × Yaml) :=
  entries.filter fun entry => !isResourceKey entry.1 && entry.1 ≠ .text "uriParameters"

mutual

def read (key : String) : Yaml → Node
  | .mapping entries => ⟨key, readParameters entries, readMethods entries, readAll entries⟩
  | _ => ⟨key, [], [], []⟩

/-- The resources among the entries of a mapping. -/
def readAll : List (Key × Yaml) → List Node
  | [] => []
  | (.text name, value) :: rest =>
    if isResourceKey (.text name) then read name value :: readAll rest else readAll rest
  | (.number _, _) :: rest => readAll rest

end

/-- The members of a mapping with this one, if there is a value for it. -/
def member (name : String) (value : Option Yaml) : List (Key × Yaml) :=
  value.toList.map (Key.text name, ·)

def parameterMembers (parameter : UriParameter) : List (Key × Yaml) :=
  member "type" (some (.text (parameterType parameter.type))) ++
    member "description" (parameter.description.map .text) ++
    member "enum" (parameter.allowedValues.map fun values => .sequence (values.map .text))

def methodMembers (m : ResourceMethod) : List (Key × Yaml) :=
  member "description"
      ((filled? m.endpoint.doc <|> filled? (some m.endpoint.operation)).map .text) ++
    member "is" ((listed? (some m.traits)).map fun tags =>
      .sequence (tags.map fun tag => .text tag.name)) ++
    member "securedBy" (m.endpoint.security.map requirement) ++
    member "queryParameters" ((listed? (some m.endpoint.queryParameters)).map fun parameters =>
      .ofEntries (parameters.map fun parameter =>
        (.text parameter.name, queryParameter parameter))) ++
    member "body" (m.endpoint.request.map body) ++
    member "responses" (responses? m.endpoint)

mutual

/-- A resource with an entry for each parameter under its name, and one for each method under its
key. -/
def nodeOf : Resource → Node
  | ⟨_, relativePath, uriParameters, methods, children⟩ => {
      key := relativePath
      parameters := uriParameters.map fun parameter =>
        (.text parameter.name, .mapping (parameterMembers parameter))
      methods := methods.map fun m =>
        (.text m.endpoint.method.key, .mapping (methodMembers m))
      children := nodesOf children }

def nodesOf : List Resource → List Node
  | [] => []
  | resource :: rest => nodeOf resource :: nodesOf rest

end

theorem nodesOf_eq_map (siblings : List Resource) : nodesOf siblings = siblings.map nodeOf := by
  induction siblings with
  | nil => rfl
  | cons resource rest ih => rw [nodesOf, ih, List.map_cons]

section Members

variable (name : String) (value : Option Yaml)

theorem entryIf?_eq_member : entryIf? name value = member name value := by
  cases value <;> rfl

theorem keys_member_sublist : (keys (member name value)).Sublist [.text name] := by
  rw [← entryIf?_eq_member]
  exact keys_entryIf?_sublist name value

end Members

theorem uriParameter_eq_mapping (parameter : UriParameter) :
    uriParameter parameter = .mapping (parameterMembers parameter) := by
  have hmembers : uriParameter parameter = .ofEntries (parameterMembers parameter) := by
    simp only [uriParameter, entryIf?_eq_member]
    rfl
  have hkeys : (keys (parameterMembers parameter)).Sublist
      (["type", "description", "enum"].map .text) := by
    simp only [parameterMembers, keys_append]
    exact ((keys_member_sublist _ _).append (keys_member_sublist _ _)).append
      (keys_member_sublist _ _)
  rw [hmembers, Yaml.ofEntries_of_nodup (List.Nodup.sublist hkeys (by decide))]

theorem unlessEmpty?_map {α β : Type} (items : List α) (f : α → β) (make : List β → Yaml) :
    unlessEmpty? (items.map f) make =
      (listed? (some items)).map fun items => make (items.map f) := by
  cases items <;> rfl

theorem method_eq_mapping (m : ResourceMethod) : method m = .mapping (methodMembers m) := by
  have hmembers : method m = .ofEntries (methodMembers m) := by
    have hqueries := unlessEmpty?_map m.endpoint.queryParameters id fun parameters =>
      .ofEntries <| parameters.map fun parameter => entry parameter.name (queryParameter parameter)
    simp only [List.map_id] at hqueries
    simp only [method, methodMembers, entryIf?_eq_member, hqueries, unlessEmpty?_map, Yaml.texts,
      List.map_map]
    rfl
  have hkeys : (keys (methodMembers m)).Sublist
      (["description", "is", "securedBy", "queryParameters", "body", "responses"].map .text) := by
    simp only [methodMembers, keys_append]
    exact (((((keys_member_sublist _ _).append (keys_member_sublist _ _)).append
      (keys_member_sublist _ _)).append (keys_member_sublist _ _)).append
      (keys_member_sublist _ _)).append (keys_member_sublist _ _)
  rw [hmembers, Yaml.ofEntries_of_nodup (List.Nodup.sublist hkeys (by decide))]

theorem nodeOf_eq (resource : Resource) :
    nodeOf resource = ⟨resource.relativePath, parameterEntries resource.uriParameters,
      methodEntries resource.methods, nodesOf resource.children⟩ := by
  cases resource
  simp only [nodeOf, parameterEntries, methodEntries, entry, uriParameter_eq_mapping,
    method_eq_mapping]

theorem lookup_entryIf?_append {name : String} (value : Option Yaml) {back : List (Key × Yaml)}
    (h : .text name ∉ keys back) :
    (entryIf? name value ++ back).lookup (.text name) = value := by
  cases value with
  | some value => exact List.lookup_cons_self
  | none => exact List.lookup_eq_none_of_not_mem h

theorem readParameters_resourceEntries {resource : Resource} (separate : resource.Separate) :
    readParameters (resourceEntries resource) = parameterEntries resource.uriParameters := by
  have hback : .text "uriParameters" ∉
      keys (methodEntries resource.methods ++ resources resource.children) := by
    rw [keys_append, List.mem_append, not_or]
    constructor
    · rw [keys_methodEntries]
      intro hmem
      obtain ⟨verb, -, hverb⟩ := List.mem_map.mp hmem
      exact verbKey_ne_uriParameters verb hverb
    · intro hmem
      exact absurd (isResourceKey_resources separate.children _ hmem) (by decide)
  rw [readParameters, resourceEntries_eq, resourceFront, List.append_assoc,
    lookup_entryIf?_append _ hback]
  by_cases hnone : resource.uriParameters.isEmpty
  · rw [unlessEmpty?, if_pos hnone, List.isEmpty_iff.mp hnone]
    rfl
  · rw [unlessEmpty?, if_neg hnone,
      Yaml.ofEntries_of_nodup (nodup_keys_parameterEntries separate)]

theorem readMethods_entryIf? (value : Option Yaml) :
    readMethods (entryIf? "uriParameters" value) = [] := by
  cases value with
  | none => rfl
  | some value => rfl

theorem readMethods_append (front back : List (Key × Yaml)) :
    readMethods (front ++ back) = readMethods front ++ readMethods back :=
  List.filter_append front back

theorem readMethods_methodEntries (methods : List ResourceMethod) :
    readMethods (methodEntries methods) = methodEntries methods := by
  refine List.filter_eq_self.mpr fun other hother => ?_
  obtain ⟨m, -, rfl⟩ := List.mem_map.mp hother
  have hkey := isResourceKey_verbKey m.endpoint.method
  have hname := verbKey_ne_uriParameters m.endpoint.method
  simp [entry, hkey, hname]

theorem readMethods_resources {siblings : List Resource} (apart : Resource.Apart siblings) :
    readMethods (resources siblings) = [] := by
  refine List.filter_eq_nil_iff.mpr fun other hother => ?_
  simp [isResourceKey_resources apart other.1 (List.mem_map_of_mem hother)]

theorem readMethods_resourceEntries {resource : Resource} (separate : resource.Separate) :
    readMethods (resourceEntries resource) = methodEntries resource.methods := by
  rw [resourceEntries_eq, resourceFront, readMethods_append, readMethods_append,
    readMethods_entryIf?, readMethods_methodEntries, readMethods_resources separate.children,
    List.nil_append, List.append_nil]

theorem readAll_append {front : List (Key × Yaml)}
    (other : ∀ key ∈ keys front, isResourceKey key = false) (back : List (Key × Yaml)) :
    readAll (front ++ back) = readAll back := by
  induction front with
  | nil => rfl
  | cons entry rest ih =>
    obtain ⟨key, value⟩ := entry
    have hfirst := other key List.mem_cons_self
    have hrest := ih fun key hkey => other key (List.mem_cons_of_mem _ hkey)
    cases key with
    | text name => rw [List.cons_append, readAll, if_neg (by simp [hfirst]), hrest]
    | number value => rw [List.cons_append, readAll, hrest]

theorem readAll_resources {siblings : List Resource} (apart : Resource.Apart siblings)
    (h : ∀ resource ∈ siblings,
      read resource.relativePath (.ofEntries (resourceEntries resource)) = nodeOf resource) :
    readAll (resources siblings) = nodesOf siblings := by
  rw [resources_eq_map, nodesOf_eq_map]
  have hslashed := apart.slashed
  clear apart
  induction siblings with
  | nil => rfl
  | cons resource rest ih =>
    rw [List.forall_mem_cons] at h hslashed
    have hkey : isResourceKey (.text resource.relativePath) = true :=
      decide_eq_true hslashed.1.head?_toList
    rw [List.map_cons, entry, readAll, if_pos hkey, h.1, ih h.2 hslashed.2, List.map_cons]

/-- A resource is read back from its mapping, if nothing in or below it shares a name. -/
theorem read_resource (resource : Resource)
    (separate : ∀ other ∈ resource.preOrder, other.Separate) :
    read resource.relativePath (.ofEntries (resourceEntries resource)) = nodeOf resource := by
  induction resource using Resource.tree_induction with
  | step resource ih =>
    rw [Resource.preOrder_eq_cons, List.forall_mem_cons] at separate
    obtain ⟨hown, hbelow⟩ := separate
    have hchildren : readAll (resources resource.children) = nodesOf resource.children := by
      apply readAll_resources hown.children
      intro child hchild
      exact ih child hchild fun other hother =>
        hbelow other (Resource.mem_preOrderAll.mpr ⟨child, hchild, hother⟩)
    rw [Yaml.ofEntries_of_nodup (nodup_keys_resourceEntries hown), read,
      readParameters_resourceEntries hown, readMethods_resourceEntries hown, resourceEntries_eq,
      readAll_append isResourceKey_resourceFront, hchildren, nodeOf_eq]

theorem document_eq {view : ApiView} (separate : view.Separate) :
    document view = documentEntries view :=
  Yaml.collect_of_nodup (nodup_keys_documentEntries separate)

theorem readAll_document {view : ApiView} (separate : view.Separate) :
    readAll (document view) = nodesOf view.resources := by
  rw [document_eq separate, documentEntries, readAll_append (isResourceKey_documentFront view)]
  apply readAll_resources separate.roots
  intro root hroot
  apply read_resource
  intro other hother
  apply separate.within
  rw [Resource.walk_eq_preOrderAll]
  exact Resource.mem_preOrderAll.mpr ⟨root, hroot, hother⟩

end ApiManual.Raml

namespace ApiManual

open Raml

variable {fragments : List Fragment} {options : MergeOptions} {views : List ApiView}

/-- In the document of a view nothing takes the place of an earlier entry, and the whole tree of the
view is read back from it. -/
theorem merge_documentRead (h : merge fragments options = .ok views) : ∀ view ∈ views,
    (keys (documentEntries view)).Nodup ∧ document view = documentEntries view ∧
      (∀ resource ∈ view.walk, (keys (resourceEntries resource)).Nodup ∧
        (keys (parameterEntries resource.uriParameters)).Nodup) ∧
      readAll (document view) = nodesOf view.resources := by
  intro view hview
  have separate := merge_separate h view hview
  refine ⟨nodup_keys_documentEntries separate, document_eq separate, ?_, readAll_document separate⟩
  intro resource hresource
  have hown := separate.within resource hresource
  exact ⟨nodup_keys_resourceEntries hown, nodup_keys_parameterEntries hown⟩

theorem merge_documentRead_shops :
    ∃ view, merge shopFragments shopOptions = .ok [view] ∧
      readAll (document view) = nodesOf view.resources ∧
      outlineAll (readAll (document view)) =
        [("/shops", [], [.text "post"]), ("/{id}", [.text "id"], [.text "get"]),
          ("/orders/{order}", [.text "order"], [.text "get"])] := by
  have hnodes : (merge shopFragments shopOptions).map (List.map fun view =>
      outlineAll (nodesOf view.resources)) =
        .ok [[("/shops", [], [.text "post"]), ("/{id}", [.text "id"], [.text "get"]),
          ("/orders/{order}", [.text "order"], [.text "get"])]] := by
    decide +kernel
  obtain ⟨view, hmerge, houtline⟩ := Except.exists_of_map_eq_singleton hnodes
  obtain ⟨-, -, -, hread⟩ := merge_documentRead hmerge view List.mem_cons_self
  exact ⟨view, hmerge, hread, hread ▸ houtline⟩

end ApiManual
