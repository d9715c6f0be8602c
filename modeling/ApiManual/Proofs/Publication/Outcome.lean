import ApiManual.Proofs.Assembly.Outcome
import ApiManual.Proofs.Html.Refinement
import ApiManual.Proofs.Publication.Naming
import ApiManual.Proofs.Publication.Writing
import ApiManual.Proofs.Render.Registry

/-!
What an assembly does to a tree of files. Whatever stops it before the first file is written leaves
the tree alone. When it ends well, all artifacts are either written or listed, and files are kept
apart unless a link leads from one to another.
-/
namespace ApiManual.Publication

open Assembly

variable {tree : FileTree} {registry : RendererRegistry} {settings : AssemblySettings}

/-- What stops an assembly before its first file is written: the fragments, the patterns, the
formats, the merge or the names of artifacts. -/
inductive StageFailure (tree : FileTree) (registry : RendererRegistry)
    (settings : AssemblySettings) : PublicationError → Prop
  | loading {cause : LoadError} :
    FragmentStore.load tree settings.selection.inputs = .error cause →
    StageFailure tree registry settings (.loading cause)
  | pattern {fragments : List Fragment} {cause : InvalidPattern} :
    FragmentStore.load tree settings.selection.inputs = .ok fragments →
    settings.selection.mergeOptions = .error cause →
    StageFailure tree registry settings (.pattern cause)
  | assembly {fragments : List Fragment} {options : MergeOptions} {cause : AssemblyError} :
    FragmentStore.load tree settings.selection.inputs = .ok fragments →
    settings.selection.mergeOptions = .ok options →
    Assembly.Outcome registry fragments ⟨settings.name, settings.formats, options⟩ (.error cause) →
    StageFailure tree registry settings (.assembly cause)

/-- The fragments, renderers and views that artifacts are made of, whose names are distinct. -/
structure Staged (tree : FileTree) (registry : RendererRegistry) (settings : AssemblySettings)
    (renderers : List Renderer) (views : List ApiView) : Prop where
  merged : ∃ fragments options, FragmentStore.load tree settings.selection.inputs = .ok fragments ∧
    settings.selection.mergeOptions = .ok options ∧ merge fragments options = .ok views
  rendered : RenderedBy registry settings.formats renderers
  distinct : ((artifactsOf settings.name renderers views).map (·.name)).Nodup

theorem artifacts_eq_run {fragments : List Fragment} {options : MergeOptions}
    (hload : FragmentStore.load tree settings.selection.inputs = .ok fragments)
    (hoptions : settings.selection.mergeOptions = .ok options) :
    artifacts tree registry settings =
      (run registry fragments ⟨settings.name, settings.formats, options⟩).mapError .assembly := by
  rw [artifacts, Selection.fragments, hload, hoptions]
  rfl

theorem StageFailure.artifacts_eq {error : PublicationError}
    (h : StageFailure tree registry settings error) :
    artifacts tree registry settings = .error error := by
  cases h with
  | loading hload =>
    rw [artifacts, Selection.fragments, hload]
    rfl
  | pattern hload hoptions =>
    rw [artifacts, Selection.fragments, hload, hoptions]
    rfl
  | assembly hload hoptions houtcome =>
    rw [artifacts_eq_run hload hoptions, houtcome.run_eq]
    rfl

theorem Staged.artifacts_eq {renderers : List Renderer} {views : List ApiView}
    (h : Staged tree registry settings renderers views) :
    artifacts tree registry settings = .ok (artifactsOf settings.name renderers views) := by
  obtain ⟨fragments, options, hload, hoptions, hmerge⟩ := h.merged
  have houtcome : Assembly.Outcome registry fragments ⟨settings.name, settings.formats, options⟩
      (.ok (artifactsOf settings.name renderers views)) :=
    .assembled h.rendered hmerge h.distinct
  rw [artifacts_eq_run hload hoptions, houtcome.run_eq]
  rfl

/-- Either something stops the assembly or its artifacts are known. -/
theorem stageFailure_or_staged (tree : FileTree) (registry : RendererRegistry)
    (settings : AssemblySettings) :
    (∃ error, StageFailure tree registry settings error) ∨
      ∃ renderers views, Staged tree registry settings renderers views := by
  cases hload : FragmentStore.load tree settings.selection.inputs with
  | error cause => exact .inl ⟨_, .loading hload⟩
  | ok fragments =>
    cases hoptions : settings.selection.mergeOptions with
    | error cause => exact .inl ⟨_, .pattern hload hoptions⟩
    | ok options =>
      obtain ⟨result, houtcome⟩ :=
        exists_outcome registry fragments ⟨settings.name, settings.formats, options⟩
      cases result with
      | error cause => exact .inl ⟨_, .assembly hload hoptions houtcome⟩
      | ok artifacts =>
        cases houtcome with
        | assembled hrendered hmerge hdistinct =>
          exact .inr ⟨_, _, ⟨fragments, options, hload, hoptions, hmerge⟩, hrendered, hdistinct⟩

theorem mem_of_renderedBy {formats : List String} {renderers : List Renderer}
    (h : RenderedBy registry formats renderers) {renderer : Renderer}
    (hmem : renderer ∈ renderers) : renderer ∈ registry.renderers := by
  induction h with
  | nil => cases hmem
  | cons hget _ ih =>
    rcases List.mem_cons.mp hmem with rfl | hmem
    · exact List.mem_of_find?_eq_some hget
    · exact ih hmem

/-- The names of artifacts whose renderers have plain extensions are read back from the ends of
their paths. -/
theorem separate_renderedPaths {output baseName : String} {renderers : List Renderer}
    {views : List ApiView} (plain : ∀ renderer ∈ renderers, PlainExtension renderer.extension)
    (distinct : ((artifactsOf baseName renderers views).map (·.name)).Nodup) :
    Separate (renderedPaths output (artifactsOf baseName renderers views)) := by
  have hsuffix : ∀ artifact ∈ artifactsOf baseName renderers views, ∃ suffix,
      artifact.name = baseName ++ suffix ∧ '/' ∉ suffix.toList ∧ ∃ c ∈ suffix.toList, c ≠ '.' := by
    intro artifact hmem
    obtain ⟨renderer, hrenderer, hmem⟩ := List.mem_flatMap.mp hmem
    obtain ⟨view, -, rfl⟩ := List.mem_map.mp hmem
    have hplain := plain renderer hrenderer
    exact ⟨_, artifactName_eq baseName renderer.extension view.id,
      slash_not_mem_nameSuffix hplain view.id, exists_mem_nameSuffix hplain view.id⟩
  constructor
  · intro path hpath
    obtain ⟨artifact, hmem, text, -, rfl⟩ := mem_renderedPaths.mp hpath
    obtain ⟨suffix, hname, hslash, hdot⟩ := hsuffix artifact hmem
    refine ⟨lastName output baseName suffix, ?_, lastName_ne hdot (by simp),
      lastName_ne hdot (by simp)⟩
    rw [endName?, hname, getLast?_trail_join hslash hdot]
  · have hnames : (((artifactsOf baseName renderers views).filter (·.outcome.isOk)).map
        (·.name)).Nodup := distinct.sublist (List.filter_sublist.map _)
    rw [renderedPaths, List.map_map, List.Nodup, List.pairwise_map]
    refine (List.pairwise_map.mp hnames).imp_of_mem ?_
    intro artifact other hmem hmem' hne hsame
    obtain ⟨suffix, hname, hslash, hdot⟩ := hsuffix artifact (List.mem_of_mem_filter hmem)
    obtain ⟨suffix', hname', hslash', hdot'⟩ := hsuffix other (List.mem_of_mem_filter hmem')
    rw [Function.comp_apply, Function.comp_apply, endName?, endName?, hname, hname',
      getLast?_trail_join hslash hdot, getLast?_trail_join hslash' hdot'] at hsame
    apply hne
    rw [hname, hname', lastName_injective (Option.some.inj hsame)]

theorem assemble_of_artifacts {artifacts : List Artifact}
    (h : Publication.artifacts tree registry settings = .ok artifacts) :
    assemble tree registry settings = writeAll tree settings.output artifacts := by
  rw [assemble, h]

theorem assemble_of_stageFailure {error : PublicationError}
    (h : StageFailure tree registry settings error) :
    assemble tree registry settings = (tree, .error error) := by
  rw [assemble, h.artifacts_eq]

/-- An assembly that fails before its first file is written leaves the tree as it was, and one that
ends well has written or listed every artifact. Files hold what was rendered, each in a place of its
own, unless one of their paths is a symbolic link. -/
theorem assemble_outcome (tree : FileTree) (registry : RendererRegistry)
    (settings : AssemblySettings) :
    (∀ error, StageFailure tree registry settings error →
      assemble tree registry settings = (tree, .error error)) ∧
    (∀ after error, assemble tree registry settings = (after, .error error) →
      (StageFailure tree registry settings error ∧ after = tree) ∨
        ∃ path, error = .uncreated path ∨ error = .unwritten path) ∧
    ∀ after summary, assemble tree registry settings = (after, .ok summary) →
      ∃ renderers views, Staged tree registry settings renderers views ∧
        summary.written =
          renderedPaths settings.output (artifactsOf settings.name renderers views) ∧
        summary.failed = unrenderedNames (artifactsOf settings.name renderers views) ∧
        (tree.Settled →
          (∀ renderer ∈ registry.renderers, PlainExtension renderer.extension) →
          (∀ path ∈ summary.written, ¬ (tree.makeDirectories settings.output).1.IsLink path) →
          (∀ artifact ∈ artifactsOf settings.name renderers views,
            ∀ text, artifact.outcome = .ok text →
              after.content? (FilePath.join settings.output artifact.name) = some text.toUTF8) ∧
          (summary.written.map (after.lookup ·)).Nodup) := by
  refine ⟨fun _ => assemble_of_stageFailure, fun after error h => ?_, fun after summary h => ?_⟩
  · rcases stageFailure_or_staged tree registry settings with ⟨cause, hfailure⟩ |
      ⟨renderers, views, staged⟩
    · rw [assemble_of_stageFailure hfailure] at h
      cases h
      exact .inl ⟨hfailure, rfl⟩
    · rw [assemble_of_artifacts staged.artifacts_eq] at h
      exact .inr (writeAll_eq_error h)
  · rcases stageFailure_or_staged tree registry settings with ⟨cause, hfailure⟩ |
      ⟨renderers, views, staged⟩
    · rw [assemble_of_stageFailure hfailure] at h
      cases h
    · rw [assemble_of_artifacts staged.artifacts_eq] at h
      have hwrites := writes_of_writeAll h
      obtain ⟨hwritten, hfailed⟩ := hwrites.summary_eq
      refine ⟨renderers, views, staged, hwritten, hfailed, fun settled plain unlinked => ?_⟩
      rw [hwritten] at unlinked ⊢
      refine hwrites.written_apart settled (separate_renderedPaths ?_ staged.distinct) unlinked
      exact fun renderer hmem => plain renderer (mem_of_renderedBy staged.rendered hmem)

def shopText : String :=
  "\x7b\"groupings\":[\x7b\"endpoints\":[" ++
    "\x7b\"method\":\"GET\",\"paths\":[\"/shops\"]\x7d]\x7d]\x7d"

/-- A fragment, and an output directory where the path of the page is a link to that of the RAML
document. -/
def shopTree (content : ByteArray) : FileTree where
  root := .directory [
    ("shop.json", .file shopText.toUTF8),
    ("out", .directory [("ApiDocs.html", .link "ApiDocs.raml"), ("ApiDocs.raml", .file content)])]

def shopSettings (formats : List String) : AssemblySettings where
  selection := { inputs := ["shop.json"] }
  output := "out"
  formats := formats

section Shop

open FileTree

variable (content : ByteArray)

theorem settled_shopTree : (shopTree content).Settled := rfl

theorem plain_builtin :
    ∀ renderer ∈ RendererRegistry.builtin.renderers, PlainExtension renderer.extension := by
  decide

theorem isName_of_mem :
    ∀ name ∈ ["shop.json", "out", "ApiDocs.html", "ApiDocs.raml"], IsName name := by
  unfold IsName
  decide

theorem lookup_fragment : (shopTree content).lookup "shop.json" = .present ["shop.json"] := by
  have htrail : trail "shop.json" = ["shop.json"] := by decide +kernel
  rw [lookup_of_usable ⟨by decide, by decide +kernel⟩, htrail]
  exact walk_eq_of_leads (.file (isName_of_mem _ (by decide)) rfl)

theorem leads_raml (links : Nat) (through : Bool) :
    Leads (shopTree content).root through links ["out"] ["ApiDocs.raml"]
      (.present ["out", "ApiDocs.raml"]) :=
  .file (isName_of_mem _ (by decide)) rfl

theorem lookup_raml (through : Bool) :
    (shopTree content).lookup "out/ApiDocs.raml" through = .present ["out", "ApiDocs.raml"] := by
  have htrail : trail "out/ApiDocs.raml" = ["out", "ApiDocs.raml"] := by decide +kernel
  rw [lookup_of_usable ⟨by decide, by decide +kernel⟩, htrail]
  exact walk_eq_of_leads
    (.directory (isName_of_mem _ (by decide)) rfl (leads_raml content linkLimit through))

theorem lookup_html :
    (shopTree content).lookup "out/ApiDocs.html" = .present ["out", "ApiDocs.raml"] := by
  have htrail : trail "out/ApiDocs.html" = ["out", "ApiDocs.html"] := by decide +kernel
  have htarget : trail "ApiDocs.raml" = ["ApiDocs.raml"] := by decide +kernel
  have hlink : (shopTree content).root.labelAt? ["out", "ApiDocs.html"] =
      some (.link "ApiDocs.raml") := rfl
  rw [lookup_of_usable ⟨by decide, by decide +kernel⟩, htrail]
  apply walk_eq_of_leads
  refine .directory (isName_of_mem _ (by decide)) rfl
    (.follow (isName_of_mem _ (by decide)) hlink (.inr rfl) ?_)
  rw [htarget]
  exact leads_raml content 39 true

theorem isThere_out : (shopTree content).IsThere "out" := by
  have hpieces : FilePath.pieces "out" = ["out"] := by decide +kernel
  refine .inr ⟨by decide +kernel, ?_⟩
  rw [hpieces]
  exact isDirectoryAt_iff.mpr
    ⟨["out"], .directory (isName_of_mem _ (by decide)) rfl (.here _ _), rfl⟩

theorem writeInto_shopTree {name text : String}
    (hlookup : (shopTree content).lookup (FilePath.join "out" name) =
      .present ["out", "ApiDocs.raml"]) :
    writeInto (shopTree content) "out" name text =
      (shopTree text.toUTF8, .ok (FilePath.join "out" name)) := by
  rw [writeInto, makeDirectories_of_isThere (isThere_out content)]
  simp only [write?, hlookup]
  rfl

theorem load_shopTree {fragment : Fragment}
    (h : Fragment.load shopText "shop.json" = .ok fragment) :
    FragmentStore.load (shopTree content) ["shop.json"] = .ok [fragment] := by
  have hcontent : (shopTree content).content? "shop.json" = some shopText.toUTF8 :=
    content?_eq (lookup_fragment content) rfl
  have hread : FragmentStore.read (shopTree content) "shop.json" = .ok fragment := by
    rw [FragmentStore.read, text?_eq (lookup_fragment content) rfl]
    change (Fragment.load shopText "shop.json").mapError _ = _
    rw [h]
    rfl
  have hroot : FragmentStore.searchRoot (shopTree content) "shop.json" = .ok ["shop.json"] := by
    rw [FragmentStore.searchRoot, isFile, hcontent]
    rfl
  have hdiscover : FragmentStore.discover (shopTree content) ["shop.json"] =
      .ok ["shop.json"] := by
    simp [FragmentStore.discover, hroot, FilePath.inOrder, FilePath.withoutRepeats, Except.map,
      bind, Except.bind, pure, Except.pure]
  rw [FragmentStore.load, hdiscover]
  simp [hread, Except.mapError, bind, Except.bind, pure, Except.pure]

theorem exists_staged_shopTree {formats : List String} {renderers : List Renderer}
    (rendered : RenderedBy .builtin formats renderers)
    (distinct : (renderers.map fun renderer =>
      artifactName "ApiDocs" none renderer.extension).Nodup) :
    ∃ view, view.id = none ∧
      Staged (shopTree content) .builtin (shopSettings formats) renderers [view] := by
  have hviews : ((Fragment.load shopText "shop.json").toOption.bind fun fragment =>
      (shopSettings formats).selection.mergeOptions.toOption.bind fun options =>
        (merge [fragment] options).toOption.map (·.map (·.id))) = some [none] := by
    change ((Fragment.load shopText "shop.json").toOption.bind fun fragment =>
      (shopSettings []).selection.mergeOptions.toOption.bind fun options =>
        (merge [fragment] options).toOption.map (·.map (·.id))) = some [none]
    decide +kernel
  obtain ⟨fragment, hfragment, hviews⟩ := Option.bind_eq_some_iff.mp hviews
  obtain ⟨options, hoptions, hviews⟩ := Option.bind_eq_some_iff.mp hviews
  obtain ⟨views, hmerge, hids⟩ := Option.map_eq_some_iff.mp hviews
  obtain ⟨view, rfl, hid⟩ := List.map_eq_singleton_iff.mp hids
  rw [Except.toOption_eq_some_iff] at hfragment hoptions hmerge
  refine ⟨view, hid, ⟨[fragment], options, load_shopTree content hfragment, hoptions, hmerge⟩,
    rendered, ?_⟩
  have hnames : (artifactsOf "ApiDocs" renderers [view]).map (·.name) =
      renderers.map fun renderer => artifactName "ApiDocs" none renderer.extension := by
    simp [artifactsOf, artifactOf, hid, ← List.map_eq_flatMap]
  exact hnames ▸ distinct

theorem get?_builtin_raml : RendererRegistry.builtin.get? "raml" = some Renderer.raml := by
  rw [RendererRegistry.builtin_eq_registerAll, RendererRegistry.get?_registerAll]
  rfl

theorem get?_builtin_html : RendererRegistry.builtin.get? "html" = some Renderer.html := by
  rw [RendererRegistry.builtin_eq_registerAll, RendererRegistry.get?_registerAll]
  rfl

theorem writeAll_shopTree {artifact : Artifact} {path text : String}
    (hok : artifact.outcome = .ok text) (hpath : FilePath.join "out" artifact.name = path)
    (hlookup : (shopTree content).lookup path = .present ["out", "ApiDocs.raml"])
    (rest : List Artifact) :
    writeAll (shopTree content) "out" (artifact :: rest) =
      ((writeAll (shopTree text.toUTF8) "out" rest).1,
        (writeAll (shopTree text.toUTF8) "out" rest).2.map fun summary =>
          { summary with written := path :: summary.written }) := by
  subst hpath
  exact writeAll_cons_of_written hok (writeInto_shopTree content hlookup) rest

variable {view : ApiView} (hid : view.id = none)

include hid

theorem path_raml :
    FilePath.join "out" (artifactOf "ApiDocs" .raml view).name = "out/ApiDocs.raml" := by
  change FilePath.join "out" (artifactName "ApiDocs" view.id "raml") = _
  rw [hid]
  decide

theorem path_html :
    FilePath.join "out" (artifactOf "ApiDocs" .html view).name = "out/ApiDocs.html" := by
  change FilePath.join "out" (artifactName "ApiDocs" view.id "html") = _
  rw [hid]
  decide

end Shop

def ramlText (view : ApiView) : String :=
  String.ofList ("#%RAML 0.8\n".toList ++ Yaml.documentText (Raml.document view))

theorem assemble_outcome_shop :
    ∃ after renderers views,
      assemble (shopTree .empty) .builtin (shopSettings ["raml"]) =
        (after, .ok { written := ["out/ApiDocs.raml"] }) ∧
      Staged (shopTree .empty) .builtin (shopSettings ["raml"]) renderers views ∧
      ∀ artifact ∈ artifactsOf "ApiDocs" renderers views, ∀ text, artifact.outcome = .ok text →
        after.content? (FilePath.join "out" artifact.name) = some text.toUTF8 := by
  have rendered : RenderedBy .builtin ["raml"] [Renderer.raml] := .cons get?_builtin_raml .nil
  obtain ⟨view, hid, staged⟩ := exists_staged_shopTree .empty rendered (by decide)
  have hok : (artifactOf "ApiDocs" .raml view).outcome = .ok (ramlText view) := rfl
  have hassemble : assemble (shopTree .empty) .builtin (shopSettings ["raml"]) =
      (shopTree (ramlText view).toUTF8, .ok { written := ["out/ApiDocs.raml"] }) :=
    (assemble_of_artifacts staged.artifacts_eq).trans
      (writeAll_shopTree .empty hok (path_raml hid) (lookup_raml .empty true) [])
  obtain ⟨renderers, views, hstaged, -, -, hkept⟩ :=
    (assemble_outcome (shopTree .empty) .builtin (shopSettings ["raml"])).2.2 _ _ hassemble
  refine ⟨_, renderers, views, hassemble, hstaged,
    (hkept (settled_shopTree .empty) plain_builtin fun path hpath hlink => ?_).1⟩
  have hmade : (shopTree .empty).makeDirectories "out" = (shopTree .empty, true) :=
    FileTree.makeDirectories_of_isThere (isThere_out .empty)
  rw [List.mem_singleton.mp hpath] at hlink
  change ((shopTree .empty).makeDirectories "out").1.IsLink "out/ApiDocs.raml" at hlink
  rw [hmade] at hlink
  obtain ⟨place, target, hlookup, hget⟩ := hlink
  cases (lookup_raml .empty false).symm.trans hlookup
  cases hget

theorem head?_ofList_append {front rest : List Char} {c : Char} (h : front.head? = some c) :
    (String.ofList (front ++ rest)).toList.head? = some c := by
  rw [String.toList_ofList, List.head?_append, h, Option.some_or]

theorem head?_pageHtml (view : ApiView) : (Html.pageHtml view).toList.head? = some '<' := by
  rw [Html.pageHtml_eq_documentText]
  exact head?_ofList_append (by decide)

theorem head?_ramlText (view : ApiView) : (ramlText view).toList.head? = some '#' :=
  head?_ofList_append (by decide)

/-- Where the path of the page is a link to that of the document, the document takes its place. -/
theorem not_content?_of_assemble :
    ¬ ∀ (tree after : FileTree) (settings : AssemblySettings) (summary : AssemblySummary)
        (artifacts : List Artifact), tree.Settled →
      Publication.artifacts tree .builtin settings = .ok artifacts →
      assemble tree .builtin settings = (after, .ok summary) →
      ∀ artifact ∈ artifacts, ∀ text, artifact.outcome = .ok text →
        after.content? (FilePath.join settings.output artifact.name) = some text.toUTF8 := by
  intro h
  have rendered : RenderedBy .builtin ["html", "raml"] [Renderer.html, Renderer.raml] :=
    .cons get?_builtin_html (.cons get?_builtin_raml .nil)
  obtain ⟨view, hid, staged⟩ := exists_staged_shopTree .empty rendered (by decide)
  have hpage : (artifactOf "ApiDocs" .html view).outcome =
      .ok (Html.pageHtml view) := rfl
  have hok : (artifactOf "ApiDocs" .raml view).outcome = .ok (ramlText view) := rfl
  have hassemble : assemble (shopTree .empty) .builtin (shopSettings ["html", "raml"]) =
      (shopTree (ramlText view).toUTF8,
        .ok { written := ["out/ApiDocs.html", "out/ApiDocs.raml"] }) := by
    refine (assemble_of_artifacts staged.artifacts_eq).trans
      ((writeAll_shopTree .empty hpage (path_html hid) (lookup_html .empty)
        [artifactOf "ApiDocs" .raml view]).trans ?_)
    rw [writeAll_shopTree _ hok (path_raml hid) (lookup_raml _ true) []]
    rfl
  have hcontent := h _ _ _ _ _ (settled_shopTree .empty) staged.artifacts_eq hassemble _
    List.mem_cons_self _ hpage
  have hlast : (shopTree (ramlText view).toUTF8).content? "out/ApiDocs.html" =
      some (ramlText view).toUTF8 :=
    FileTree.content?_eq (lookup_html _) rfl
  change FileTree.content? _ (FilePath.join "out" (artifactOf "ApiDocs" .html view).name) = _
    at hcontent
  rw [path_html hid, hlast, Option.some.injEq] at hcontent
  have htexts : ramlText view = Html.pageHtml view :=
    String.toByteArray_inj.mp hcontent
  have hheads := head?_ramlText view
  rw [htexts, head?_pageHtml] at hheads
  cases hheads

end ApiManual.Publication
