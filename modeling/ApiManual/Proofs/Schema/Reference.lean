import ApiManual.Proofs.Json.Pointer

/-!
References in a JSON Schema. The pointer that stands for a reference follows the schema as the path
of the reference follows the tree, so that on the document it designates the schema of the node that
the path is resolved to.
-/
namespace ApiManual.Schema

open Json (Value sorted sortedObject)
open TypeNode (LeadsTo)

variable {root node child inner : TypeNode} {label : String} {labels : List String}

/-- The names that lead from the schema of a node to the schema of one right below it. -/
def slot : TypeNode → String → List String
  | .object _ _, label => ["properties", label]
  | .container kind _, _ => [if kind.isKeyed then "additionalProperties" else "items"]
  | _, _ => []

/-- The names that lead from the schema of a node to the schema at the end of some labels. -/
def names : TypeNode → List String → List String
  | _, [] => []
  | node, label :: rest => slot node label ++ names ((node.child? label).getD node) rest

/-- The schema of the node at the end of some labels, as the document holds it. The schema of the
root is the document itself. -/
def subschema (root : TypeNode) (labels : List String) (node : TypeNode) : Value :=
  if labels = [] then ofType root else sortedObject (members root node)

theorem properties_eq_map (root : TypeNode) (fields : List (String × TypeNode)) :
    properties root fields =
      fields.map fun field => (field.1, sortedObject (members root field.2)) := by
  induction fields with
  | nil => rfl
  | cons field rest ih => rw [properties, ih, List.map_cons]

def memberNames : List (List String) :=
  [["type"], ["type", "format"], ["type", "title"], ["type", "title", "properties"],
    ["type", "additionalProperties"], ["type", "items", "uniqueItems"], ["type", "items"],
    ["type", "title", "enum"], ["$ref"]]

theorem names_members (root node : TypeNode) : (members root node).map (·.1) ∈ memberNames := by
  cases node with
  | primitive name =>
    unfold members ofPrimitive ofKnownPrimitive?
    repeat' split
    all_goals simp [memberNames]
  | container kind _ => cases kind <;> simp [members, memberNames]
  | _ => simp [members, memberNames]

theorem nodup_members (root node : TypeNode) :
    ((members root node ++ [("$schema", Json.string draft)]).map (·.1)).Nodup := by
  have hnodup : ∀ names ∈ memberNames, (names ++ ["$schema"]).Nodup := by decide
  rw [List.map_append]
  exact hnodup _ (names_members root node)

theorem lookup_members {member : String × Value} (h : member ∈ members root node) :
    (sorted (members root node)).lookup member.1 = some member.2 := by
  have hnodup := nodup_members root node
  rw [List.map_append] at hnodup
  exact Json.lookup_sorted_of_mem hnodup.of_append_left h

theorem lookup_document {member : String × Value} (h : member ∈ members root root) :
    (sorted (members root root ++ [("$schema", Json.string draft)])).lookup member.1 =
      some member.2 :=
  Json.lookup_sorted_of_mem (nodup_members root root) (List.mem_append_left _ h)

theorem atNames?_slot {schema : List (String × Value)} (distinct : node.DistinctFields)
    (holds : ∀ member ∈ members root node, schema.lookup member.1 = some member.2)
    (link : (label, child) ∈ node.links) :
    (Json.object schema).atNames? (slot node label) = some (sortedObject (members root child)) := by
  cases node with
  | object name fields =>
    have hproperties := holds ("properties", sortedObject (properties root fields))
      (by simp [members])
    have hfield : (sorted (properties root fields)).lookup label =
        some (sortedObject (members root child)) := by
      rw [properties_eq_map]
      apply Json.lookup_sorted_of_mem
      · rw [List.map_map]
        exact distinct.nodup_links
      · exact List.mem_map.mpr ⟨(label, child), link, rfl⟩
    change (schema.lookup "properties" >>= fun value => value.atNames? [label]) = _
    rw [hproperties]
    change ((sorted (properties root fields)).lookup label >>= some) = _
    rw [hfield]
    rfl
  | container kind element =>
    obtain ⟨rfl, rfl⟩ : label = TypeNode.elementLabel ∧ child = element := by
      simpa [TypeNode.links] using link
    have helement := holds
      (if kind.isKeyed then "additionalProperties" else "items", sortedObject (members root child))
      (by cases kind <;> simp [members, ContainerKind.isKeyed])
    change (schema.lookup _ >>= some) = _
    rw [helement]
    rfl
  | _ => cases link

theorem atNames?_members (distinct : node.DistinctFields) (leads : node.LeadsTo labels inner) :
    (sortedObject (members root node)).atNames? (names node labels) =
      some (sortedObject (members root inner)) := by
  induction leads with
  | self => rfl
  | @link node child inner label labels first _ ih =>
    rw [names, distinct.child?_eq first, Option.getD_some, Json.atNames?_append,
      sortedObject, atNames?_slot distinct (fun _ => lookup_members) first]
    exact ih (distinct.of_link first)

theorem atNames?_document (distinct : root.DistinctFields) (leads : root.LeadsTo labels inner) :
    (ofType root).atNames? (names root labels) = some (subschema root labels inner) := by
  cases leads with
  | self => rfl
  | link first rest =>
    rw [names, distinct.child?_eq first, Option.getD_some, Json.atNames?_append,
      ofType, sortedObject, atNames?_slot distinct (fun _ => lookup_document) first]
    exact atNames?_members (distinct.of_link first) rest

theorem written_slot_object (name : String) (fields : List (String × TypeNode)) (label : String) :
    String.ofList (Json.written (slot (.object name fields) label)) =
      "/properties/" ++ escapeLabel label := by
  have hfixed : (escapeLabel "properties").toList = "properties".toList := by decide
  simp only [slot, Json.written, List.flatMap_cons, List.flatMap_nil, List.append_nil, hfixed,
    ← String.toList_inj, String.toList_ofList, String.toList_append]
  rfl

theorem written_slot_container (kind : ContainerKind) (element : TypeNode) (label : String) :
    String.ofList (Json.written (slot (.container kind element) label)) =
      if kind.isKeyed then "/additionalProperties" else "/items" := by
  simp only [slot]
  cases kind <;> decide

theorem pointerFrom_eq (distinct : node.DistinctFields) (leads : node.LeadsTo labels inner) :
    pointerFrom node labels = String.ofList (Json.written (names node labels)) := by
  induction leads with
  | self node => cases node <;> rfl
  | @link node child _ label labels first _ ih =>
    have hchild := distinct.child?_eq first
    rw [names, hchild, Option.getD_some, Json.written, List.flatMap_append, ← Json.written,
      ← Json.written, String.ofList_append, ← ih (distinct.of_link first)]
    cases node with
    | object name fields =>
      rw [TypeNode.child?] at hchild
      rw [written_slot_object, pointerFrom, hchild, Option.getD_some]
    | container kind element =>
      obtain ⟨rfl, rfl⟩ : label = TypeNode.elementLabel ∧ child = element := by
        simpa [TypeNode.links] using first
      rw [written_slot_container, pointerFrom, if_pos rfl]
    | _ => cases first

/-- The pointer that a reference is written as designates the schema of the node that the path of
the reference is resolved to. -/
theorem reference_designates {target : String} {path : List String}
    (distinct : root.DistinctFields) (leads : root.LeadsTo labels (.reference target path))
    (resolved : root.resolve? path = some node) :
    ∃ pointer,
      (ofType root).atNames? (names root labels) =
        some (subschema root labels (.reference target path)) ∧
      (subschema root labels (.reference target path)).child? "$ref" = some (.string pointer) ∧
      (ofType root).atPointer? pointer = some (subschema root path node) := by
  have hpath := TypeNode.leadsTo_of_resolve? resolved
  refine ⟨"#" ++ pointerFrom root path, atNames?_document distinct leads, ?_, ?_⟩
  · have hmember : ("$ref", Json.string ("#" ++ pointerFrom root path)) ∈
        members root (.reference target path) := List.mem_singleton.mpr rfl
    unfold subschema
    split
    · rename_i hroot
      subst hroot
      cases leads
      exact lookup_document hmember
    · exact lookup_members hmember
  · rw [pointerFrom_eq distinct hpath, Json.atPointer?_written]
    exact atNames?_document distinct hpath

/-- Field names with a slash, a tilde and the label of an element. The reference in the list stands
for the list's own map. -/
def parcelType : TypeNode :=
  .object "Parcel" [
    ("from/to", .object "Route" [
      ("[]", .primitive "uuid"),
      ("~1", .container .map (.container .list (.reference "Parcel" ["from/to", "~1"])))]),
    ("", .reference "Parcel" [])]

theorem reference_designates_parcel :
    ∃ pointer, (subschema parcelType ["from/to", "~1", "[]", "[]"]
        (.reference "Parcel" ["from/to", "~1"])).child? "$ref" = some (.string pointer) ∧
      (ofType parcelType).atPointer? pointer =
        some (sortedObject (members parcelType
          (.container .map (.container .list (.reference "Parcel" ["from/to", "~1"]))))) := by
  have distinct : parcelType.DistinctFields := by decide +kernel
  have leads : parcelType.LeadsTo ["from/to", "~1", "[]", "[]"]
      (.reference "Parcel" ["from/to", "~1"]) :=
    TypeNode.leadsTo_of_resolve? rfl
  obtain ⟨pointer, -, hplace, hpointer⟩ := reference_designates distinct leads rfl
  exact ⟨pointer, hplace, hpointer⟩

example : pointerFrom parcelType ["from/to", "~1", "[]"] =
    "/properties/from~1to/properties/~01/additionalProperties" := by decide

end ApiManual.Schema
