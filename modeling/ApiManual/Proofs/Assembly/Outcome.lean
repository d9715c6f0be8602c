import ApiManual.Proofs.Assembly.Naming

/-!
The outcome of an assembly. The first format without a renderer decides it, then the merge, then the
first artifact name that is given twice. Each format is checked before it is rendered and all names
are checked at the end, which comes to one check of all names in their order: whether a format
repeats a name does not depend on the format, so the first one stops the assembly or none does.
-/
namespace ApiManual

def Artifact.naming (artifact : Artifact) : Assembly.Naming :=
  ⟨artifact.name, interfaceLabel artifact.grouping⟩

namespace Assembly

def RenderedBy (registry : RendererRegistry) (formats : List String) (renderers : List Renderer) :
    Prop :=
  List.Forall₂ (fun format renderer => registry.get? format = some renderer) formats renderers

def firstUnknown? (registry : RendererRegistry) (formats : List String) : Option String :=
  formats.find? fun format => (registry.get? format).isNone

def artifactOf (baseName : String) (renderer : Renderer) (view : ApiView) : Artifact where
  name := artifactName baseName view.id renderer.extension
  format := renderer.format
  grouping := view.id
  outcome := renderer.render view

def artifactsOf (baseName : String) (renderers : List Renderer) (views : List ApiView) :
    List Artifact :=
  renderers.flatMap fun renderer => views.map (artifactOf baseName renderer)

variable {registry : RendererRegistry} {fragments : List Fragment} {request : AssemblyRequest}
  {renderers : List Renderer} {views : List ApiView}

theorem exists_renderedBy_iff {formats : List String} :
    (∃ renderers, RenderedBy registry formats renderers) ↔
      firstUnknown? registry formats = none := by
  unfold RenderedBy firstUnknown?
  rw [List.find?_eq_none]
  induction formats with
  | nil => simp
  | cons format rest ih =>
    rw [List.forall_mem_cons, ← ih]
    simp only [List.forall₂_cons_left_iff, Option.isNone_iff_eq_none, ← ne_eq,
      Option.ne_none_iff_exists']
    constructor
    · rintro ⟨_, renderer, renderers, hrenderer, hrest, -⟩
      exact ⟨⟨renderer, hrenderer⟩, renderers, hrest⟩
    · rintro ⟨⟨renderer, hrenderer⟩, renderers, hrest⟩
      exact ⟨_, renderer, renderers, hrenderer, hrest, rfl⟩

theorem rendererFor_of_get? {format : String} {renderer : Renderer}
    (h : registry.get? format = some renderer) : rendererFor registry format = .ok renderer := by
  rw [rendererFor, h]

theorem forM_rendererFor (registry : RendererRegistry) (formats : List String) :
    (formats.forM fun format => discard (rendererFor registry format)) =
      match firstUnknown? registry formats with
      | some format => .error (.unknownFormat format registry.formats)
      | none => .ok () := by
  induction formats with
  | nil => rfl
  | cons format rest ih =>
    change (discard (rendererFor registry format) >>= fun _ =>
      rest.forM fun format => discard (rendererFor registry format)) = _
    rw [ih, rendererFor]
    simp only [firstUnknown?, List.find?_cons]
    cases registry.get? format with
    | none => rfl
    | some renderer => rfl

theorem fanOut_eq {format : String} {renderer : Renderer}
    (h : registry.get? format = some renderer) (views : List ApiView) (baseName : String) :
    fanOut registry views format baseName =
      checkDistinct [] ((views.map (artifactOf baseName renderer)).map (·.naming)) >>= fun _ =>
        .ok (views.map (artifactOf baseName renderer)) := by
  rw [fanOut, rendererFor_of_get? h, List.map_map]
  rfl

theorem nodup_names_iff (baseName : String) (renderer : Renderer) (views : List ApiView) :
    (((views.map (artifactOf baseName renderer)).map (·.naming)).map (·.name)).Nodup ↔
      (views.map fun view => view.id.map fileSafe).Nodup := by
  rw [List.map_map, List.map_map]
  exact nodup_artifactNames_iff baseName renderer.extension views

/-- The checks of the formats, one after the other, and the check at the end are one check. -/
theorem fanOut_formats_eq {formats : List String} (known : RenderedBy registry formats renderers)
    (views : List ApiView) (baseName : String) :
    (do
      let artifacts ← formats.mapM (fanOut registry views · baseName)
      let artifacts := artifacts.flatten
      checkDistinct []
        (artifacts.map fun artifact => ⟨artifact.name, interfaceLabel artifact.grouping⟩)
      return artifacts) =
    checkDistinct [] ((artifactsOf baseName renderers views).map (·.naming)) >>= fun _ =>
      .ok (artifactsOf baseName renderers views) := by
  by_cases hnodup : (views.map fun view => view.id.map fileSafe).Nodup
  · -- no format repeats a name, so that only the check at the end can fail
    have hall : formats.mapM (fanOut registry views · baseName) =
        .ok (renderers.map fun renderer => views.map (artifactOf baseName renderer)) := by
      rw [Except.mapM_eq_ok_iff, List.forall₂_map_right_iff]
      apply known.imp
      intro format renderer hget
      rw [fanOut_eq hget, checkDistinct_nil_of_nodup
        ((nodup_names_iff baseName renderer views).mpr hnodup)]
      rfl
    rw [hall]
    rfl
  · cases known with
    | nil => rfl
    | @cons format renderer formats renderers hget hrest =>
      -- the first format fails, and all names begin with its names
      rw [List.mapM_cons, fanOut_eq hget, artifactsOf, List.flatMap_cons, List.map_append,
        checkDistinct_append]
      rcases nodup_or_firstRepeat ((views.map (artifactOf baseName renderer)).map (·.naming)) with
        hdistinct | ⟨first, later, hrepeat⟩
      · exact absurd ((nodup_names_iff baseName renderer views).mp hdistinct) hnodup
      · rw [checkDistinct_of_firstRepeat hrepeat]
        rfl

theorem run_of_unknown {format : String}
    (unknown : firstUnknown? registry request.formats = some format) :
    run registry fragments request = .error (.unknownFormat format registry.formats) := by
  rw [run, forM_rendererFor, unknown]
  rfl

theorem run_of_known (known : RenderedBy registry request.formats renderers) :
    run registry fragments request =
      (merge fragments request.options).mapError AssemblyError.merge >>= fun views =>
        checkDistinct [] ((artifactsOf request.baseName renderers views).map (·.naming)) >>=
          fun _ => .ok (artifactsOf request.baseName renderers views) := by
  rw [run, forM_rendererFor, exists_renderedBy_iff.mp ⟨renderers, known⟩]
  change ((merge fragments request.options).mapError AssemblyError.merge >>= fun views => _) = _
  congr 1
  funext views
  exact fanOut_formats_eq known views request.baseName

/-- The four outcomes of an assembly. No two of them are possible for one request. -/
inductive Outcome (registry : RendererRegistry) (fragments : List Fragment)
    (request : AssemblyRequest) : Except AssemblyError (List Artifact) → Prop where
  | unknown {format : String} :
    firstUnknown? registry request.formats = some format →
    Outcome registry fragments request (.error (.unknownFormat format registry.formats))
  | unmerged {renderers : List Renderer} {cause : MergeError} :
    RenderedBy registry request.formats renderers →
    merge fragments request.options = .error cause →
    Outcome registry fragments request (.error (.merge cause))
  | repeated {renderers : List Renderer} {views : List ApiView} {first later : Naming} :
    RenderedBy registry request.formats renderers →
    merge fragments request.options = .ok views →
    FirstRepeat ((artifactsOf request.baseName renderers views).map (·.naming)) first later →
    Outcome registry fragments request
      (.error (.duplicateName later.name first.label later.label))
  | assembled {renderers : List Renderer} {views : List ApiView} :
    RenderedBy registry request.formats renderers →
    merge fragments request.options = .ok views →
    ((artifactsOf request.baseName renderers views).map (·.name)).Nodup →
    Outcome registry fragments request (.ok (artifactsOf request.baseName renderers views))

variable {result : Except AssemblyError (List Artifact)}

theorem run_of_merged (known : RenderedBy registry request.formats renderers)
    (merged : merge fragments request.options = .ok views) :
    run registry fragments request =
      checkDistinct [] ((artifactsOf request.baseName renderers views).map (·.naming)) >>=
        fun _ => .ok (artifactsOf request.baseName renderers views) := by
  rw [run_of_known known, merged]
  rfl

theorem Outcome.run_eq (outcome : Outcome registry fragments request result) :
    run registry fragments request = result := by
  cases outcome with
  | unknown unknown => exact run_of_unknown unknown
  | unmerged known failed =>
    rw [run_of_known known, failed]
    rfl
  | repeated known merged hrepeat =>
    rw [run_of_merged known merged, checkDistinct_of_firstRepeat hrepeat]
    rfl
  | assembled known merged nodup =>
    rw [run_of_merged known merged, checkDistinct_nil_of_nodup (by rwa [List.map_map])]
    rfl

theorem exists_outcome (registry : RendererRegistry) (fragments : List Fragment)
    (request : AssemblyRequest) : ∃ result, Outcome registry fragments request result := by
  cases hunknown : firstUnknown? registry request.formats with
  | some format => exact ⟨_, .unknown hunknown⟩
  | none =>
    obtain ⟨renderers, known⟩ := exists_renderedBy_iff.mpr hunknown
    cases merged : merge fragments request.options with
    | error cause => exact ⟨_, .unmerged known merged⟩
    | ok views =>
      rcases nodup_or_firstRepeat
          ((artifactsOf request.baseName renderers views).map (·.naming)) with
        hnodup | ⟨first, later, hrepeat⟩
      · exact ⟨_, .assembled known merged (by rwa [List.map_map] at hnodup)⟩
      · exact ⟨_, .repeated known merged hrepeat⟩

/-- An assembly has exactly the outcome that its formats, its fragments and the names of all its
artifacts, read once in their order, decide. -/
theorem run_eq_iff_outcome (registry : RendererRegistry) (fragments : List Fragment)
    (request : AssemblyRequest) (result : Except AssemblyError (List Artifact)) :
    (run registry fragments request = result ↔ Outcome registry fragments request result) ∧
      ∀ renderers views, RenderedBy registry request.formats renderers →
        merge fragments request.options = .ok views →
        run registry fragments request =
          checkDistinct [] ((artifactsOf request.baseName renderers views).map (·.naming)) >>=
            fun _ => .ok (artifactsOf request.baseName renderers views) := by
  refine ⟨⟨?_, Outcome.run_eq⟩, fun _ _ => run_of_merged⟩
  rintro rfl
  obtain ⟨result, outcome⟩ := exists_outcome registry fragments request
  rw [outcome.run_eq]
  exact outcome

-- an extension may hold a full stop, so two formats can share a name where neither repeats one
example :
    (run ⟨[Renderer.raml, { Renderer.raml with format := "draft", extension := "v1.raml" }]⟩
      [{ groupings := [
        { id := some "shop", endpoints := [{ method := .get, paths := ["/shops"] }] },
        { id := some "shop.v1", endpoints := [{ method := .get, paths := ["/shops"] }] }] }]
      { baseName := "Docs", formats := ["raml", "draft"], options := {} }).failure? =
        some (.duplicateName "Docs-shop.v1.raml" "shop.v1" "shop") := by decide +kernel

end Assembly

end ApiManual
