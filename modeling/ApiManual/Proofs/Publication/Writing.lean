import ApiManual.Proofs.Except
import ApiManual.Proofs.FileTree.Change
import ApiManual.Publication
import Mathlib.Data.List.Nodup

/-!
Writing artifacts one after the other. What is written and what is left out depends on the artifacts
alone, and where paths end in distinct names and lead to no links, each file holds its text in the
end.
-/
namespace ApiManual.Publication

open FileNode

variable {tree after : FileTree} {output : String} {artifacts : List Artifact}
  {summary : AssemblySummary}

def renderedPaths (output : String) (artifacts : List Artifact) : List String :=
  (artifacts.filter (·.outcome.isOk)).map (FilePath.join output ·.name)

def unrenderedNames (artifacts : List Artifact) : List String :=
  (artifacts.filter (!·.outcome.isOk)).map (·.name)

theorem writeInto_eq_ok {name text path : String}
    (h : writeInto tree output name text = (after, .ok path)) :
    path = FilePath.join output name ∧ ∃ made, tree.makeDirectories output = (made, true) ∧
      made.write? path text.toUTF8 = some after := by
  rw [writeInto] at h
  rcases hmade : tree.makeDirectories output with ⟨made, done⟩
  cases done with
  | false => simp [hmade] at h
  | true =>
    cases hwrite : made.write? (FilePath.join output name) text.toUTF8 with
    | none =>
      simp only [hmade, hwrite] at h
      cases h
    | some written =>
      simp only [hmade, hwrite, Prod.mk.injEq, Except.ok.injEq] at h
      obtain ⟨rfl, rfl⟩ := h
      exact ⟨rfl, made, rfl, hwrite⟩

/-- A run of writes that succeeds leaves out what could not be rendered and writes the rest. -/
inductive Writes (output : String) :
    FileTree → List Artifact → FileTree → AssemblySummary → Prop
  | nil (tree : FileTree) : Writes output tree [] tree {}
  | left {tree after : FileTree} {artifact : Artifact} {rest : List Artifact}
      {summary : AssemblySummary} {error : RenderError} :
    artifact.outcome = .error error → Writes output tree rest after summary →
    Writes output tree (artifact :: rest) after
      { summary with failed := artifact.name :: summary.failed }
  | written {tree made between after : FileTree} {artifact : Artifact} {rest : List Artifact}
      {summary : AssemblySummary} {text : String} :
    artifact.outcome = .ok text → tree.makeDirectories output = (made, true) →
    made.write? (FilePath.join output artifact.name) text.toUTF8 = some between →
    Writes output between rest after summary →
    Writes output tree (artifact :: rest) after
      { summary with written := FilePath.join output artifact.name :: summary.written }

theorem writeAll_cons_of_error {artifact : Artifact} {error : RenderError}
    (h : artifact.outcome = .error error) (rest : List Artifact) :
    writeAll tree output (artifact :: rest) =
      ((writeAll tree output rest).1, (writeAll tree output rest).2.map fun summary =>
        { summary with failed := artifact.name :: summary.failed }) := by
  rw [writeAll, h]

theorem writeAll_cons_of_refused {artifact : Artifact} {text : String}
    {error : PublicationError} (h : artifact.outcome = .ok text)
    (hinto : writeInto tree output artifact.name text = (after, .error error))
    (rest : List Artifact) : writeAll tree output (artifact :: rest) = (after, .error error) := by
  rw [writeAll, h]
  simp only [hinto]

theorem writeAll_cons_of_written {between : FileTree} {artifact : Artifact} {text path : String}
    (h : artifact.outcome = .ok text)
    (hinto : writeInto tree output artifact.name text = (between, .ok path))
    (rest : List Artifact) :
    writeAll tree output (artifact :: rest) =
      ((writeAll between output rest).1, (writeAll between output rest).2.map fun summary =>
        { summary with written := path :: summary.written }) := by
  rw [writeAll, h]
  simp only [hinto]

theorem writes_of_writeAll (h : writeAll tree output artifacts = (after, .ok summary)) :
    Writes output tree artifacts after summary := by
  induction artifacts generalizing tree summary with
  | nil =>
    cases h
    exact .nil _
  | cons artifact rest ih =>
    cases houtcome : artifact.outcome with
    | error error =>
      rw [writeAll_cons_of_error houtcome, Prod.mk.injEq] at h
      obtain ⟨others, hothers, rfl⟩ := Except.map_eq_ok_iff.mp h.2
      exact .left houtcome (ih (Prod.ext h.1 hothers))
    | ok text =>
      rcases hinto : writeInto tree output artifact.name text with ⟨between, path⟩
      cases path with
      | error cause =>
        rw [writeAll_cons_of_refused houtcome hinto] at h
        cases h
      | ok path =>
        obtain ⟨rfl, made, hmade, hwrite⟩ := writeInto_eq_ok hinto
        rw [writeAll_cons_of_written houtcome hinto, Prod.mk.injEq] at h
        obtain ⟨others, hothers, rfl⟩ := Except.map_eq_ok_iff.mp h.2
        exact .written houtcome hmade hwrite (ih (Prod.ext h.1 hothers))

theorem writeInto_eq_error {name text : String} {error : PublicationError}
    (h : writeInto tree output name text = (after, .error error)) :
    ∃ path, error = .uncreated path ∨ error = .unwritten path := by
  rw [writeInto] at h
  rcases hmade : tree.makeDirectories output with ⟨made, done⟩
  cases done with
  | false =>
    simp only [hmade, Prod.mk.injEq, Except.error.injEq] at h
    exact ⟨output, .inl h.2.symm⟩
  | true =>
    cases hwrite : made.write? (FilePath.join output name) text.toUTF8 with
    | none =>
      simp only [hmade, hwrite, Prod.mk.injEq, Except.error.injEq] at h
      exact ⟨FilePath.join output name, .inr h.2.symm⟩
    | some written =>
      simp only [hmade, hwrite] at h
      cases h

theorem writeAll_eq_error {error : PublicationError}
    (h : writeAll tree output artifacts = (after, .error error)) :
    ∃ path, error = .uncreated path ∨ error = .unwritten path := by
  induction artifacts generalizing tree with
  | nil => cases h
  | cons artifact rest ih =>
    cases houtcome : artifact.outcome with
    | error cause =>
      rw [writeAll_cons_of_error houtcome, Prod.mk.injEq] at h
      exact ih (Prod.ext h.1 (Except.map_eq_error_iff.mp h.2))
    | ok text =>
      rcases hinto : writeInto tree output artifact.name text with ⟨between, path⟩
      cases path with
      | error cause =>
        rw [writeAll_cons_of_refused houtcome hinto] at h
        cases h
        exact writeInto_eq_error hinto
      | ok path =>
        rw [writeAll_cons_of_written houtcome hinto, Prod.mk.injEq] at h
        exact ih (Prod.ext h.1 (Except.map_eq_error_iff.mp h.2))

theorem renderedPaths_cons_of_error {artifact : Artifact} {error : RenderError}
    (h : artifact.outcome = .error error) (rest : List Artifact) :
    renderedPaths output (artifact :: rest) = renderedPaths output rest := by
  rw [renderedPaths, List.filter_cons_of_neg (by rw [h]; nofun), renderedPaths]

theorem renderedPaths_cons_of_ok {artifact : Artifact} {text : String}
    (h : artifact.outcome = .ok text) (rest : List Artifact) :
    renderedPaths output (artifact :: rest) =
      FilePath.join output artifact.name :: renderedPaths output rest := by
  rw [renderedPaths, List.filter_cons_of_pos (by rw [h]; rfl), List.map_cons, renderedPaths]

theorem mem_renderedPaths {path : String} :
    path ∈ renderedPaths output artifacts ↔ ∃ artifact ∈ artifacts, ∃ text,
      artifact.outcome = .ok text ∧ FilePath.join output artifact.name = path := by
  simp only [renderedPaths, List.mem_map, List.mem_filter, and_assoc]
  refine exists_congr fun artifact => and_congr_right fun _ => ?_
  cases artifact.outcome <;> simp [Except.isOk, Except.toBool]

def endName? (path : String) : Option String := (FileTree.trail path).getLast?

def nameAt? : Lookup → Option String
  | .present place => place.getLast?
  | _ => none

/-- Paths that end in distinct names. -/
structure Separate (paths : List String) : Prop where
  named : ∀ path ∈ paths, ∃ name, endName? path = some name ∧ name ≠ "." ∧ name ≠ ".."
  distinct : (paths.map endName?).Nodup

/-- The tree only gains nodes, files whose names are not those of the paths are as before, and what
could be rendered is in a file that has the name of its path. -/
structure Kept (output : String) (tree : FileTree) (artifacts : List Artifact)
    (after : FileTree) : Prop where
  grows : tree.Grows after
  frame {place : Place} {content : ByteArray} :
    tree.root.labelAt? place = some (.file content) →
    place.getLast? ∉ (renderedPaths output artifacts).map endName? →
    after.root.labelAt? place = some (.file content)
  holds {artifact : Artifact} {text : String} : artifact ∈ artifacts →
    artifact.outcome = .ok text →
    ∃ place, after.lookup (FilePath.join output artifact.name) = .present place ∧
      place.getLast? = endName? (FilePath.join output artifact.name) ∧
      after.root.labelAt? place = some (.file text.toUTF8)

namespace Writes

theorem summary_eq (h : Writes output tree artifacts after summary) :
    summary.written = renderedPaths output artifacts ∧
      summary.failed = unrenderedNames artifacts := by
  induction h with
  | nil => exact ⟨rfl, rfl⟩
  | left houtcome _ ih =>
    rw [renderedPaths_cons_of_error houtcome, ← ih.1]
    exact ⟨rfl, by simp [unrenderedNames, houtcome, Except.isOk, Except.toBool, ih.2]⟩
  | written houtcome _ _ _ ih =>
    rw [renderedPaths_cons_of_ok houtcome, ← ih.1]
    exact ⟨rfl, by simp [unrenderedNames, houtcome, Except.isOk, Except.toBool, ih.2]⟩

theorem kept (h : Writes output tree artifacts after summary) (settled : tree.Settled)
    (there : tree.IsThere output) (separate : Separate (renderedPaths output artifacts))
    (unlinked : ∀ path ∈ renderedPaths output artifacts, ¬ tree.IsLink path) :
    Kept output tree artifacts after := by
  induction h with
  | nil tree => exact ⟨.refl tree, fun hlabel _ => hlabel, nofun⟩
  | left houtcome _ ih =>
    rw [renderedPaths_cons_of_error houtcome] at separate unlinked
    have hrest := ih settled there separate unlinked
    refine ⟨hrest.grows, fun hlabel hname => hrest.frame hlabel ?_, ?_⟩
    · rwa [renderedPaths_cons_of_error houtcome] at hname
    intro artifact text hmem hok
    rcases List.mem_cons.mp hmem with rfl | hmem
    · rw [houtcome] at hok
      cases hok
    · exact hrest.holds hmem hok
  | @written tree made between after artifact rest summary text houtcome hmade hwrite _ ih =>
    rw [FileTree.makeDirectories_of_isThere there] at hmade
    cases hmade
    obtain ⟨place, written⟩ := FileTree.exists_writtenAt settled hwrite
    rw [renderedPaths_cons_of_ok houtcome] at separate unlinked
    obtain ⟨hunlinked, hothers⟩ := List.forall_mem_cons.mp unlinked
    obtain ⟨⟨name, hname, hdot, hdots⟩, hnamed⟩ := List.forall_mem_cons.mp separate.named
    obtain ⟨hnew, hdistinct⟩ := List.nodup_cons.mp separate.distinct
    have hend : place.getLast? = endName? (FilePath.join output artifact.name) :=
      (written.getLast? hunlinked hname hdot hdots).trans hname.symm
    have hrest := ih (written.grows.settled settled) (written.grows.isThere there)
      ⟨hnamed, hdistinct⟩ fun path hmem hlink => hothers path hmem (written.isLink hlink)
    have hfile : between.root.labelAt? place = some (.file text.toUTF8) := by
      rw [written.labelAt?, if_pos rfl]
    refine ⟨written.grows.trans hrest.grows, ?_, ?_⟩
    · intro other content hlabel hother
      rw [renderedPaths_cons_of_ok houtcome, List.map_cons, List.mem_cons, not_or] at hother
      have hne : other ≠ place := by
        rintro rfl
        exact hother.1 hend
      refine hrest.frame ?_ hother.2
      rw [written.labelAt?, if_neg hne, hlabel]
    · intro other text' hmem hok
      rcases List.mem_cons.mp hmem with rfl | hmem
      · cases houtcome.symm.trans hok
        exact ⟨place, hrest.grows.lookup_eq written.lookup, hend,
          hrest.frame hfile (hend ▸ hnew)⟩
      · exact hrest.holds hmem hok

theorem of_made (h : Writes output tree artifacts after summary) (settled : tree.Settled) :
    renderedPaths output artifacts = [] ∨
      (tree.makeDirectories output).1.IsThere output ∧
        Writes output (tree.makeDirectories output).1 artifacts after summary := by
  induction h with
  | nil => exact .inl rfl
  | left houtcome _ ih =>
    rw [renderedPaths_cons_of_error houtcome]
    exact (ih settled).imp_right fun hmade => ⟨hmade.1, .left houtcome hmade.2⟩
  | written houtcome hmade hwrite hrest =>
    have there := FileTree.isThere_of_makeDirectories settled hmade
    rw [hmade]
    exact .inr ⟨there,
      .written houtcome (FileTree.makeDirectories_of_isThere there) hwrite hrest⟩

/-- Where paths end in distinct names and lead to no links once the output directory is there, each
file holds its text, and no two paths lead to one file. -/
theorem written_apart (h : Writes output tree artifacts after summary) (settled : tree.Settled)
    (separate : Separate (renderedPaths output artifacts))
    (unlinked : ∀ path ∈ renderedPaths output artifacts,
      ¬ (tree.makeDirectories output).1.IsLink path) :
    (∀ artifact ∈ artifacts, ∀ text, artifact.outcome = .ok text →
      after.content? (FilePath.join output artifact.name) = some text.toUTF8) ∧
    ((renderedPaths output artifacts).map (after.lookup ·)).Nodup := by
  rcases h.of_made settled with hnone | ⟨there, hwrites⟩
  · refine ⟨fun artifact hmem text hok => ?_, by rw [hnone]; exact List.nodup_nil⟩
    have hpath : FilePath.join output artifact.name ∈ renderedPaths output artifacts :=
      mem_renderedPaths.mpr ⟨artifact, hmem, text, hok, rfl⟩
    rw [hnone] at hpath
    cases hpath
  · have kept := hwrites.kept ((FileTree.grows_makeDirectories settled output).settled settled)
      there separate unlinked
    constructor
    · intro artifact hmem text hok
      obtain ⟨place, hlookup, -, hfile⟩ := kept.holds hmem hok
      exact FileTree.content?_eq hlookup hfile
    · -- where a path leads to tells the name that it ends with
      have hnames : (renderedPaths output artifacts).map (nameAt? ∘ (after.lookup ·)) =
          (renderedPaths output artifacts).map endName? := by
        apply List.map_congr_left
        intro path hpath
        obtain ⟨artifact, hmem, text, hok, rfl⟩ := mem_renderedPaths.mp hpath
        obtain ⟨place, hlookup, hname, -⟩ := kept.holds hmem hok
        rw [Function.comp_apply, hlookup]
        exact hname
      apply List.Nodup.of_map nameAt?
      rw [List.map_map, hnames]
      exact separate.distinct

end Writes

end ApiManual.Publication
