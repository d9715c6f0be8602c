import ApiManual.Render
import Mathlib.Data.List.Nodup
import Mathlib.Data.List.Induction

/-!
Which renderer a registry finds. A renderer takes the place of those whose format is spelled like
its own, while a search leaves upper and lower case aside. So where one name is spelled in several
ways, the renderer found is the one whose spelling was registered last the longest time ago.
-/
namespace ApiManual.RendererRegistry

def registerAll (registry : RendererRegistry) (renderers : List Renderer) : RendererRegistry :=
  renderers.foldl register registry

theorem builtin_eq_registerAll :
    builtin = registerAll {} [Renderer.html, Renderer.raml, Renderer.json] := rfl

/-- A renderer is for a format, upper and lower case of ASCII letters alike. -/
def IsFor (format : String) (renderer : Renderer) : Prop := renderer.format.toLower = format.toLower

instance (format : String) : DecidablePred (IsFor format) := fun renderer =>
  decidable_of_iff (renderer.format.toList.map Char.toLower = format.toList.map Char.toLower) <| by
    change _ ↔ renderer.format.map Char.toLower = format.map Char.toLower
    rw [← String.toList_inj, String.toList_map, String.toList_map]

theorem isFor_iff_of_format_eq {format : String} {renderer other : Renderer}
    (h : renderer.format = other.format) : IsFor format renderer ↔ IsFor format other := by
  unfold IsFor
  rw [h]

/-- The renderers that no later one with the same spelling of its format replaces. -/
def unreplaced : List Renderer → List Renderer
  | [] => []
  | renderer :: rest =>
    if ∃ later ∈ rest, later.format = renderer.format then unreplaced rest
    else renderer :: unreplaced rest

theorem unreplaced_append_singleton (renderers : List Renderer) (last : Renderer) :
    unreplaced (renderers ++ [last]) =
      (unreplaced renderers).filter (·.format ≠ last.format) ++ [last] := by
  induction renderers with
  | nil => rfl
  | cons renderer rest ih =>
    rw [List.cons_append, unreplaced, unreplaced, ih]
    by_cases hlater : ∃ later ∈ rest, later.format = renderer.format
    · have hlater' : ∃ later ∈ rest ++ [last], later.format = renderer.format :=
        hlater.imp fun _ h => ⟨List.mem_append_left _ h.1, h.2⟩
      rw [if_pos hlater, if_pos hlater']
    · by_cases hlast : last.format = renderer.format
      · have hlater' : ∃ later ∈ rest ++ [last], later.format = renderer.format :=
          ⟨last, List.mem_append_right _ List.mem_cons_self, hlast⟩
        rw [if_neg hlater, if_pos hlater', List.filter_cons_of_neg (by simp [hlast])]
      · have hlater' : ¬ ∃ later ∈ rest ++ [last], later.format = renderer.format := by
          rintro ⟨later, hmem, hsame⟩
          rcases List.mem_append.mp hmem with hrest | hlater
          · exact hlater ⟨later, hrest, hsame⟩
          · exact hlast (List.mem_singleton.mp hlater ▸ hsame)
        rw [if_neg hlater, if_neg hlater', List.filter_cons_of_pos (by simp [Ne.symm hlast]),
          List.cons_append]

theorem renderers_registerAll (renderers : List Renderer) :
    (registerAll {} renderers).renderers = unreplaced renderers := by
  induction renderers using List.reverseRecOn with
  | nil => rfl
  | append_singleton renderers last ih =>
    rw [registerAll, List.foldl_concat, unreplaced_append_singleton, ← ih]
    rfl

theorem mem_of_mem_unreplaced {renderers : List Renderer} {renderer : Renderer}
    (h : renderer ∈ unreplaced renderers) : renderer ∈ renderers := by
  induction renderers with
  | nil => exact h
  | cons first rest ih =>
    rw [unreplaced] at h
    split at h
    · exact List.mem_cons_of_mem _ (ih h)
    · exact (List.mem_cons.mp h).elim (· ▸ List.mem_cons_self) (List.mem_cons_of_mem _ <| ih ·)

theorem exists_unreplaced {renderers : List Renderer} {renderer : Renderer}
    (h : renderer ∈ renderers) : ∃ last ∈ unreplaced renderers, last.format = renderer.format := by
  induction renderers generalizing renderer with
  | nil => exact absurd h List.not_mem_nil
  | cons first rest ih =>
    rw [unreplaced]
    split
    · rename_i hlater
      rcases List.mem_cons.mp h with rfl | hrest
      · obtain ⟨later, hmem, hsame⟩ := hlater
        exact (ih hmem).imp fun _ hlast => ⟨hlast.1, hlast.2.trans hsame⟩
      · exact ih hrest
    · rcases List.mem_cons.mp h with rfl | hrest
      · exact ⟨renderer, List.mem_cons_self, rfl⟩
      · exact (ih hrest).imp fun _ hlast => ⟨List.mem_cons_of_mem _ hlast.1, hlast.2⟩

theorem nodup_formats_unreplaced (renderers : List Renderer) :
    ((unreplaced renderers).map (·.format)).Nodup := by
  induction renderers with
  | nil => exact List.nodup_nil
  | cons renderer rest ih =>
    rw [unreplaced]
    split
    · exact ih
    · rename_i hlater
      rw [List.map_cons, List.nodup_cons]
      refine ⟨fun hmem => ?_, ih⟩
      obtain ⟨later, hmem, hsame⟩ := List.mem_map.mp hmem
      exact hlater ⟨later, mem_of_mem_unreplaced hmem, hsame⟩

/-- The renderer is for the format and is not replaced, and each one for the format before it is
replaced by this one or by a later one. -/
def FirstUnreplaced (renderers : List Renderer) (format : String) (renderer : Renderer) : Prop :=
  ∃ before after, renderers = before ++ renderer :: after ∧ IsFor format renderer ∧
    (∀ later ∈ after, later.format ≠ renderer.format) ∧
    ∀ earlier ∈ before, IsFor format earlier →
      ∃ later ∈ renderer :: after, later.format = earlier.format

theorem firstUnreplaced_cons_iff {rest : List Renderer} {format : String}
    {first renderer : Renderer} : FirstUnreplaced (first :: rest) format renderer ↔
      (first = renderer ∧ IsFor format first ∧ ∀ later ∈ rest, later.format ≠ first.format) ∨
        FirstUnreplaced rest format renderer ∧
          (IsFor format first → ∃ later ∈ rest, later.format = first.format) := by
  constructor
  · rintro ⟨before, after, hsplit, hfor, hafter, hbefore⟩
    cases before with
    | nil =>
      obtain ⟨rfl, rfl⟩ := List.cons.inj hsplit
      exact Or.inl ⟨rfl, hfor, hafter⟩
    | cons other before =>
      obtain ⟨rfl, rfl⟩ := List.cons.inj hsplit
      obtain ⟨hfirst, hbefore⟩ := List.forall_mem_cons.mp hbefore
      refine Or.inr ⟨⟨before, after, rfl, hfor, hafter, hbefore⟩, fun h => ?_⟩
      exact (hfirst h).imp fun _ hlater => ⟨List.mem_append_right _ hlater.1, hlater.2⟩
  · rintro (⟨rfl, hfor, hrest⟩ | ⟨⟨before, after, rfl, hfor, hafter, hbefore⟩, hfirst⟩)
    · exact ⟨[], rest, rfl, hfor, hrest, by simp⟩
    · refine ⟨first :: before, after, rfl, hfor, hafter,
        List.forall_mem_cons.mpr ⟨fun h => ?_, hbefore⟩⟩
      obtain ⟨later, hmem, hsame⟩ := hfirst h
      rcases List.mem_append.mp hmem with hmem | hmem
      · obtain ⟨last, hlast, hsame'⟩ := hbefore later hmem ((isFor_iff_of_format_eq hsame).mpr h)
        exact ⟨last, hlast, hsame'.trans hsame⟩
      · exact ⟨later, hmem, hsame⟩

theorem find?_unreplaced_eq_some_iff {renderers : List Renderer} {format : String}
    {renderer : Renderer} : (unreplaced renderers).find? (IsFor format ·) = some renderer ↔
      FirstUnreplaced renderers format renderer := by
  induction renderers with
  | nil => simp [unreplaced, FirstUnreplaced]
  | cons first rest ih =>
    rw [firstUnreplaced_cons_iff, ← ih, unreplaced]
    by_cases hlater : ∃ later ∈ rest, later.format = first.format
    · have hreplaced : ¬ ∀ later ∈ rest, later.format ≠ first.format := by
        simpa only [not_forall, not_not, exists_prop] using hlater
      simp [hlater, hreplaced]
    · have hkept : ∀ later ∈ rest, later.format ≠ first.format :=
        fun later hmem hsame => hlater ⟨later, hmem, hsame⟩
      rw [if_neg hlater, List.find?_cons]
      by_cases hfor : IsFor format first
      · simpa [hfor, hlater] using fun _ => hkept
      · simp [hfor]

variable (renderers : List Renderer) (format : String)

theorem get?_registerAll :
    (registerAll {} renderers).get? format = (unreplaced renderers).find? (IsFor format ·) := by
  rw [get?, renderers_registerAll]
  congr 1
  funext renderer
  exact decide_eq_decide.mpr Iff.rfl

theorem formats_registerAll :
    (registerAll {} renderers).formats = (unreplaced renderers).map (·.format) := by
  rw [formats, renderers_registerAll]

theorem mem_formats_registerAll {name : String} :
    name ∈ (registerAll {} renderers).formats ↔ ∃ renderer ∈ renderers, renderer.format = name := by
  rw [formats_registerAll, List.mem_map]
  constructor
  · exact fun ⟨renderer, hmem, hname⟩ => ⟨renderer, mem_of_mem_unreplaced hmem, hname⟩
  · rintro ⟨renderer, hmem, rfl⟩
    exact exists_unreplaced hmem

theorem get?_registerAll_eq_none_iff : (registerAll {} renderers).get? format = none ↔
    ∀ renderer ∈ renderers, ¬ IsFor format renderer := by
  simp only [get?_registerAll, List.find?_eq_none, decide_eq_true_iff]
  constructor
  · intro h renderer hmem hfor
    obtain ⟨last, hlast, hsame⟩ := exists_unreplaced hmem
    exact h last hlast ((isFor_iff_of_format_eq hsame).mpr hfor)
  · exact fun h renderer hmem => h renderer (mem_of_mem_unreplaced hmem)

def SpelledAlike : Prop :=
  ∀ renderer ∈ renderers, IsFor format renderer →
    ∀ other ∈ renderers, IsFor format other → renderer.format = other.format

instance : Decidable (SpelledAlike renderers format) :=
  inferInstanceAs (Decidable (∀ renderer ∈ renderers, IsFor format renderer →
    ∀ other ∈ renderers, IsFor format other → renderer.format = other.format))

variable {renderers format}

theorem SpelledAlike.get?_registerAll (alike : SpelledAlike renderers format) :
    (registerAll {} renderers).get? format = renderers.reverse.find? (IsFor format ·) := by
  cases hlatest : renderers.reverse.find? (IsFor format ·) with
  | none =>
    rw [get?_registerAll_eq_none_iff]
    intro renderer hmem
    exact of_decide_eq_false (Bool.eq_false_iff.mpr
      (List.find?_eq_none.mp hlatest renderer (List.mem_reverse.mpr hmem)))
  | some renderer =>
    obtain ⟨hfor, after, before, hsplit, hnone⟩ := List.find?_eq_some_iff_append.mp hlatest
    have hfor : IsFor format renderer := of_decide_eq_true hfor
    have hrenderers : renderers = before.reverse ++ renderer :: after.reverse := by
      rw [← List.reverse_reverse renderers, hsplit]
      simp
    rw [RendererRegistry.get?_registerAll, find?_unreplaced_eq_some_iff]
    refine ⟨before.reverse, after.reverse, hrenderers, hfor, ?_, ?_⟩
    · intro later hlater hsame
      have hnot := hnone later (List.mem_reverse.mp hlater)
      simp [(isFor_iff_of_format_eq hsame).mpr hfor] at hnot
    · intro earlier hearlier hearlierFor
      refine ⟨renderer, List.mem_cons_self, alike _ ?_ hfor _ ?_ hearlierFor⟩
      · rw [hrenderers]
        exact List.mem_append_right _ List.mem_cons_self
      · rw [hrenderers]
        exact List.mem_append_left _ hearlier

theorem nodup_formats_registerAll (renderers : List Renderer) :
    (registerAll {} renderers).formats.Nodup := by
  rw [formats_registerAll]
  exact nodup_formats_unreplaced renderers

theorem nodup_toLower_formats_iff (renderers : List Renderer) :
    ((registerAll {} renderers).formats.map String.toLower).Nodup ↔
      ∀ format, SpelledAlike renderers format := by
  rw [List.nodup_map_iff_inj_on (nodup_formats_registerAll renderers)]
  constructor
  · intro hinj format renderer hmem hfor other hmem' hfor'
    apply hinj _ ((mem_formats_registerAll renderers).mpr ⟨renderer, hmem, rfl⟩) _
      ((mem_formats_registerAll renderers).mpr ⟨other, hmem', rfl⟩)
    exact hfor.trans hfor'.symm
  · intro halike name hname name' hname' hlower
    obtain ⟨renderer, hmem, rfl⟩ := (mem_formats_registerAll renderers).mp hname
    obtain ⟨other, hmem', rfl⟩ := (mem_formats_registerAll renderers).mp hname'
    exact halike other.format renderer hmem hlower other hmem' rfl

/-- A search finds the first renderer for the format that no later one of the same spelling
replaces, and one if there is any. It is the renderer registered last where the spelling does not
vary. No name is listed twice as it is spelled, nor in two spellings unless it was registered in
two. -/
theorem get?_of_registered (renderers : List Renderer) (format : String) :
    let registry := registerAll {} renderers
    (∀ renderer, registry.get? format = some renderer ↔
      FirstUnreplaced renderers format renderer) ∧
    (registry.get? format = none ↔ ∀ renderer ∈ renderers, ¬ IsFor format renderer) ∧
    (SpelledAlike renderers format →
      registry.get? format = renderers.reverse.find? (IsFor format ·)) ∧
    registry.formats.Nodup ∧
    ((registry.formats.map String.toLower).Nodup ↔
      ∀ format, SpelledAlike renderers format) := by
  refine ⟨fun renderer => ?_, get?_registerAll_eq_none_iff renderers format,
    SpelledAlike.get?_registerAll, nodup_formats_registerAll renderers,
    nodup_toLower_formats_iff renderers⟩
  rw [get?_registerAll, find?_unreplaced_eq_some_iff]

/-- A renderer for pages whose format is spelled in capitals. -/
def shoutedPages : Renderer := { Renderer.html with format := "HTML", extension := "htm" }

/-- Pages are found by the spelling that was registered first, raw views by the one spelling that
they have. -/
theorem get?_of_registered_shouted :
    let renderers := [Renderer.html, Renderer.json, shoutedPages, Renderer.json]
    SpelledAlike renderers "JSON" ∧
      (registerAll {} renderers).get? "JSON" = some Renderer.json ∧
      (registerAll {} renderers).get? "html" = some Renderer.html := by
  intro renderers
  have halike : SpelledAlike renderers "JSON" := by decide
  refine ⟨halike, ?_, ?_⟩
  · rw [(get?_of_registered renderers "JSON").2.2.1 halike]
    exact List.find?_cons_of_pos (by decide)
  · refine ((get?_of_registered renderers "html").1 Renderer.html).mpr ?_
    exact ⟨[], _, rfl, by decide, by decide, by decide⟩

/-- The renderer found need not be the one registered last, and two names that are listed can be
one name. -/
theorem get?_ne_latest :
    ∃ renderers, (registerAll {} renderers).get? "html" ≠
        renderers.reverse.find? (IsFor "html" ·) ∧
      ¬ ((registerAll {} renderers).formats.map String.toLower).Nodup := by
  refine ⟨[Renderer.html, shoutedPages], fun h => ?_, fun h => ?_⟩
  · rw [get?_registerAll] at h
    have hextension := congrArg (Option.map Renderer.extension) h
    revert hextension
    decide
  · have halike := (nodup_toLower_formats_iff _).mp h "html"
    revert halike
    decide

end ApiManual.RendererRegistry
