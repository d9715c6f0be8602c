import ApiManual.Proofs.TypeNode.RoundTrip

/-! Endpoints read back from JSON. Only their types can be too deep for a document. -/
namespace ApiManual

open Json (Value Spelled spell NumberFree)

namespace Parameter

open Json

theorem fits_toJson {enclosing : Nat} (parameter : Parameter)
    (room : enclosing + 2 ≤ TypeNode.depthLimit) : Fits enclosing parameter.toJson ↔
      ∀ type ∈ parameter.type, Fits (enclosing + 1) type.toJson := by
  simp (disch := omega) [toJson, fits_present, fits_string, fits_bool, fits_strings]

theorem numberFree_toJson (parameter : Parameter) : NumberFree parameter.toJson := by
  refine numberFree_present ?_
  simp [NumberFree.string, NumberFree.bool, Json.numberFree_strings, TypeNode.numberFree_toJson]

theorem ofSpelled?_toJson {enclosing : Nat} {parameter : Parameter}
    (fits : ∀ type ∈ parameter.type, Fits (enclosing + 1) type.toJson) :
    ofSpelled? enclosing (spell parameter.toJson) = some parameter := by
  have htype : ∀ type ∈ parameter.type,
      TypeNode.ofSpelled? (enclosing + 1) (spell type.toJson) = some type := fun type htype =>
    TypeNode.ofSpelled?_toJson (fits type htype)
  rw [ofSpelled?, toJson]
  refine then_read (spelledRecord?_present rfl (by decide)) ?_
  refine then_read (required?_present rfl rfl) ?_
  refine then_read (optional?_present rfl (TypeNode.ofSpelled?_null _) htype) ?_
  refine then_read (optional?_present rfl rfl fun _ _ => rfl) ?_
  refine then_read (optional?_present rfl rfl fun _ _ => texts_spell _) ?_
  refine then_read (defaulted?_present rfl rfl) ?_
  rfl

theorem fits_of_ofSpelled? {enclosing : Nat} {spelled : Spelled} {parameter : Parameter}
    (h : ofSpelled? enclosing spelled = some parameter) :
    ∀ type ∈ parameter.type, Fits (enclosing + 1) type.toJson := by
  simp only [ofSpelled?, Option.bind_eq_bind, Option.bind_eq_some_iff, Option.pure_def,
    Option.some.injEq] at h
  obtain ⟨members, -, name, -, type, htype, description, -, allowedValues, -, required, -, rfl⟩ := h
  exact TypeNode.fits_of_optional? htype

end Parameter

namespace Security

open Json

theorem fits_toJson {enclosing : Nat} (security : Security)
    (room : enclosing + 4 ≤ TypeNode.depthLimit) : Fits enclosing security.toJson := by
  change Fits enclosing (present [("scheme", some _), ("parameters", some _)])
  simp (disch := omega) [fits_present, fits_string, fits_array, fits_strings, ↓List.forall_mem_map]

theorem numberFree_toJson (security : Security) : NumberFree security.toJson := by
  have hpair : ∀ pair ∈ security.parameters,
      NumberFree (.array [.string pair.1, strings pair.2]) := fun pair _ =>
    .array (by simp [NumberFree.string, Json.numberFree_strings])
  have hpairs := NumberFree.array (List.forall_mem_map.mpr hpair)
  exact .object (by simpa [NumberFree.string] using hpairs)

theorem ofSpelled?_toJson (security : Security) :
    ofSpelled? (spell security.toJson) = some security := by
  have hpair : ∀ pair ∈ security.parameters,
      parameter? (spell (.array [.string pair.1, strings pair.2])) = some pair := by
    intro pair _
    change (do return (pair.1, ← list? text? (spell (strings pair.2)))) = _
    rw [texts_spell]
    rfl
  change ofSpelled? (spell (present [("scheme", some _), ("parameters", some _)])) = _
  rw [ofSpelled?]
  refine then_read (spelledRecord?_present rfl (by decide)) ?_
  refine then_read (required?_present rfl rfl) ?_
  refine then_read (defaulted?_present rfl (list?_spell hpair)) ?_
  rfl

end Security

namespace Endpoint

open Json

/-- The types of an endpoint, and how many arrays and objects of the endpoint are around each. -/
def FitsTypes (enclosing : Nat) (endpoint : Endpoint) : Prop :=
  (∀ parameter ∈ endpoint.pathParameters ++ endpoint.queryParameters,
    ∀ type ∈ parameter.type, Fits (enclosing + 3) type.toJson) ∧
  (∀ type ∈ endpoint.request, Fits (enclosing + 1) type.toJson) ∧
  ∀ type ∈ endpoint.response, Fits (enclosing + 1) type.toJson

theorem fits_toJson {enclosing : Nat} (endpoint : Endpoint)
    (room : enclosing + 5 ≤ TypeNode.depthLimit) :
    Fits enclosing endpoint.toJson ↔ endpoint.FitsTypes enclosing := by
  simp (disch := omega) [toJson, FitsTypes, fits_present, fits_string, fits_array, fits_strings,
    ↓List.forall_mem_map, ↓List.forall_mem_append, and_assoc, Parameter.fits_toJson,
    Security.fits_toJson]

theorem numberFree_toJson (endpoint : Endpoint) : NumberFree endpoint.toJson := by
  have hparameters : ∀ parameters : List Parameter,
      NumberFree (.array (parameters.map Parameter.toJson)) := fun parameters =>
    .array (List.forall_mem_map.mpr fun parameter _ => parameter.numberFree_toJson)
  refine numberFree_present ?_
  simp [NumberFree.string, Json.numberFree_strings, TypeNode.numberFree_toJson,
    Security.numberFree_toJson, hparameters]

theorem ofSpelled?_toJson {enclosing : Nat} {endpoint : Endpoint}
    (fits : endpoint.FitsTypes enclosing) :
    ofSpelled? enclosing (spell endpoint.toJson) = some endpoint := by
  obtain ⟨hparameters, hrequest, hresponse⟩ := fits
  rw [List.forall_mem_append] at hparameters
  have hpath := list?_spell fun parameter hparameter =>
    Parameter.ofSpelled?_toJson (hparameters.1 parameter hparameter)
  have hquery := list?_spell fun parameter hparameter =>
    Parameter.ofSpelled?_toJson (hparameters.2 parameter hparameter)
  replace hrequest := fun type htype => TypeNode.ofSpelled?_toJson (hrequest type htype)
  replace hresponse := fun type htype => TypeNode.ofSpelled?_toJson (hresponse type htype)
  have hmethod : HttpMethod.ofSpelled? (spell (.string endpoint.method.name)) =
      some endpoint.method := HttpMethod.ofName?_name endpoint.method
  rw [ofSpelled?, toJson]
  refine then_read (spelledRecord?_present rfl (by decide)) ?_
  refine then_read (required?_present rfl hmethod) ?_
  refine then_read (defaulted?_present rfl rfl) ?_
  refine then_read (required?_present rfl (texts_spell _)) ?_
  refine then_read (defaulted?_present rfl hpath) ?_
  refine then_read (defaulted?_present rfl hquery) ?_
  refine then_read (optional?_present rfl (TypeNode.ofSpelled?_null _) hrequest) ?_
  refine then_read (optional?_present rfl (TypeNode.ofSpelled?_null _) hresponse) ?_
  refine then_read (optional?_present rfl rfl fun _ _ => rfl) ?_
  refine then_read (optional?_present rfl rfl fun _ _ => rfl) ?_
  refine then_read (defaulted?_present rfl (texts_spell _)) ?_
  refine then_read (defaulted?_present rfl (texts_spell _)) ?_
  refine then_read (optional?_present rfl rfl fun security _ => security.ofSpelled?_toJson) ?_
  simp [List.map_map, Function.comp_def]

theorem fits_of_ofSpelled? {enclosing : Nat} {spelled : Spelled} {endpoint : Endpoint}
    (h : ofSpelled? enclosing spelled = some endpoint) : endpoint.FitsTypes enclosing := by
  rw [ofSpelled?] at h
  obtain ⟨members, -, h⟩ := Option.bind_eq_some_iff.mp h
  obtain ⟨method, -, h⟩ := Option.bind_eq_some_iff.mp h
  obtain ⟨operation, -, h⟩ := Option.bind_eq_some_iff.mp h
  obtain ⟨paths, -, h⟩ := Option.bind_eq_some_iff.mp h
  obtain ⟨pathParameters, hpath, h⟩ := Option.bind_eq_some_iff.mp h
  obtain ⟨queryParameters, hquery, h⟩ := Option.bind_eq_some_iff.mp h
  obtain ⟨request, hrequest, h⟩ := Option.bind_eq_some_iff.mp h
  obtain ⟨response, hresponse, h⟩ := Option.bind_eq_some_iff.mp h
  obtain ⟨doc, -, h⟩ := Option.bind_eq_some_iff.mp h
  obtain ⟨returnDoc, -, h⟩ := Option.bind_eq_some_iff.mp h
  obtain ⟨scopes, -, h⟩ := Option.bind_eq_some_iff.mp h
  obtain ⟨traits, -, h⟩ := Option.bind_eq_some_iff.mp h
  obtain ⟨security, -, h⟩ := Option.bind_eq_some_iff.mp h
  obtain rfl := Option.some.inj h
  refine ⟨?_, TypeNode.fits_of_optional? hrequest, TypeNode.fits_of_optional? hresponse⟩
  rw [List.forall_mem_append]
  constructor
  · intro parameter hparameter
    obtain ⟨item, hread⟩ := exists_of_defaultedList? hpath parameter hparameter
    exact Parameter.fits_of_ofSpelled? hread
  · intro parameter hparameter
    obtain ⟨item, hread⟩ := exists_of_defaultedList? hquery parameter hparameter
    exact Parameter.fits_of_ofSpelled? hread

end Endpoint

end ApiManual
