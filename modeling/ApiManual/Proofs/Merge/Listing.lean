import ApiManual.Proofs.Html.Display
import ApiManual.Proofs.Html.Reading
import ApiManual.Proofs.Merge.Views

/-!
What the page of a merged view lists. The resources wait with what is declared above them, so a
resource is listed where the walk comes to it, with what the one way down to it declares.
-/
namespace ApiManual

open Html Resource UriPath

namespace Html

/-- A resource waits with what a way down to it declares above it. -/
def Inherits (roots : List Resource) (waiting : Resource × List UriParameter) : Prop :=
  ∃ above, WayDown roots (above ++ [waiting.1]) ∧ waiting.2 = above.flatMap (·.uriParameters)

/-- A section holds what a way down to its resource declares. -/
def Declares (roots : List Resource) (entry : Section) : Prop :=
  ∃ above, WayDown roots (above ++ [entry.resource]) ∧
    entry.parameters = (above ++ [entry.resource]).flatMap (·.uriParameters)

section

variable {roots : List Resource}

theorem Inherits.declares {waiting : Resource × List UriParameter} (h : Inherits roots waiting) :
    Declares roots (Section.of waiting) := by
  obtain ⟨above, hdown, hinherited⟩ := h
  refine ⟨above, hdown, ?_⟩
  rw [List.flatMap_append, List.flatMap_singleton, ← hinherited]
  rfl

theorem Declares.inherits_below {entry : Section} (h : Declares roots entry) :
    ∀ child ∈ entry.below, Inherits roots child := by
  obtain ⟨above, hdown, hparameters⟩ := h
  intro child hchild
  obtain ⟨resource, hresource, rfl⟩ := List.mem_map.mp hchild
  refine ⟨above ++ [entry.resource], ?_, hparameters⟩
  rw [List.append_assoc, List.singleton_append, wayDown_append_pair]
  exact ⟨hdown, hresource⟩

theorem declares_of_mem_visit {pending : List (Resource × List UriParameter)}
    (h : ∀ waiting ∈ pending, Inherits roots waiting) : ∀ entry ∈ visit pending,
      Declares roots entry := by
  induction pending using visit.induct with
  | case1 =>
    unfold visit
    nofun
  | case2 first pending ih =>
    obtain ⟨hfirst, hpending⟩ := List.forall_mem_cons.mp h
    have hwaiting := List.forall_mem_append.mpr ⟨hfirst.declares.inherits_below, hpending⟩
    unfold visit
    exact List.forall_mem_cons.mpr ⟨hfirst.declares, ih hwaiting⟩

end

theorem declares_of_mem_sections {view : ApiView} :
    ∀ entry ∈ sections view, Declares view.resources entry := by
  apply declares_of_mem_visit
  intro waiting hwaiting
  obtain ⟨root, hroot, rfl⟩ := List.mem_map.mp hwaiting
  exact ⟨[], wayDown_singleton.mpr hroot, rfl⟩

theorem map_resource_visit (pending : List (Resource × List UriParameter)) :
    (visit pending).map (·.resource) = Resource.visit (pending.map (·.1)) := by
  induction pending using visit.induct with
  | case1 =>
    unfold visit Resource.visit
    rfl
  | case2 first pending ih =>
    have hbelow : (Section.of first).below.map (·.1) = first.1.children := by
      simp [Section.below, Section.of, Function.comp_def]
    unfold visit Resource.visit
    rw [List.map_cons, ih, List.map_append, hbelow]
    rfl

theorem map_resource_sections (view : ApiView) : (sections view).map (·.resource) = view.walk := by
  rw [sections, map_resource_visit, List.map_map]
  exact congrArg Resource.visit (List.map_id _)

/-- A row with the escaped texts of a parameter. Shown to a reader they are the name, the type in
words, the description and the allowed values of the parameter. -/
structure Describes (parameter : UriParameter) (row : ParamRow) : Prop where
  name : row.name = escapeHtml parameter.name ∧ displayed row.name = parameter.name
  type : row.type = typeHtmlOr parameter.type ∧
    displayed row.type = (parameter.type.map TypeNode.inWords).getD "string"
  description : row.description = escapeOpt parameter.description ∧
    row.description.map displayed = filled? parameter.description
  allowed : row.allowed = allowedHtml parameter.allowedValues ∧
    row.allowed.map displayed = (listed? parameter.allowedValues).map (", ".intercalate ·)
  required : row.required = true

theorem map_displayed_escapeOpt (text : Option String) :
    (escapeOpt text).map displayed = filled? text := by
  rw [escapeOpt]
  cases filled? text with
  | none => rfl
  | some content => exact congrArg some (shownAs_escapeHtml content).displayed_eq

theorem map_displayed_allowedHtml (values : Option (List String)) :
    (allowedHtml values).map displayed = (listed? values).map (", ".intercalate ·) := by
  rw [allowedHtml]
  cases listed? values with
  | none => rfl
  | some values => exact congrArg some (shownAs_escapeHtml _).displayed_eq

theorem describes_ofUriParameter (parameter : UriParameter) :
    Describes parameter (.ofUriParameter parameter) where
  name := ⟨rfl, (shownAs_escapeHtml parameter.name).displayed_eq⟩
  type := ⟨rfl, (shownAs_typeHtmlOr parameter.type).displayed_eq⟩
  description := ⟨rfl, map_displayed_escapeOpt parameter.description⟩
  allowed := ⟨rfl, map_displayed_allowedHtml parameter.allowedValues⟩
  required := rfl

/-- A row describes the only declaration of a name on a way down. -/
def DescribesToken (line : List Resource) (token : Token) (row : ParamRow) : Prop :=
  ∃ parameter, (line.flatMap (·.uriParameters)).filter (·.name = token.name) = [parameter] ∧
    parameter.token = token ∧ Describes parameter row

/-- A row is shown that describes the only declaration of a name on a way down. -/
def ShowsParameter (line : List Resource) (token : Token) (shown : ListedParameter) : Prop :=
  ∃ row, DescribesToken line token row ∧ shown = listed row

/-- A resource is listed with its methods, and each method with the parameters of its path, as they
are declared on a way down to it. -/
structure Shows (line : List Resource) (resource : Resource) (shown : ListedResource) : Prop where
  anchors : shown.anchors = [resource.path]
  methods : List.Forall₂ (fun method shownMethod =>
    shownMethod.anchors = [anchor resource.path method.endpoint.method] ∧
      List.Forall₂ (ShowsParameter line) (parameters resource.path) shownMethod.parameters)
    resource.methods shown.methods

/-- The section of a resource in the page, escaped, with a section for each of its methods. -/
structure Writes (line : List Resource) (resource : Resource) (written : ResourceSection) :
    Prop where
  path : written.path = escapeHtml resource.path
  methods : List.Forall₂ (fun method writtenMethod =>
    writtenMethod.anchor = escapeHtml (anchor resource.path method.endpoint.method) ∧
      writtenMethod.method = method.endpoint.method.name ∧
      List.Forall₂ (DescribesToken line) (parameters resource.path) writtenMethod.uriParameters)
    resource.methods written.methods

section

variable {entry : Section} {above : List Resource}

theorem describesToken_parameters (h : DeclaredAlong above entry.resource)
    (hparameters : entry.parameters = (above ++ [entry.resource]).flatMap (·.uriParameters)) :
    List.Forall₂ (DescribesToken (above ++ [entry.resource])) (parameters entry.resource.path)
      (entry.parameters.map .ofUriParameter) := by
  have htokens : entry.parameters.map (·.token) = parameters entry.resource.path := by
    rw [hparameters, List.map_flatMap]
    exact h.tokens
  have honce : (entry.parameters.map (·.name)).Nodup := by
    have hnames : entry.parameters.map (·.name) =
        (entry.parameters.map (·.token)).map (·.name) := by
      rw [List.map_map]
      rfl
    rw [hnames, hparameters, List.map_flatMap]
    exact h.once
  rw [← htokens, List.forall₂_map_left_iff, List.forall₂_map_right_iff, List.forall₂_same]
  intro parameter hparameter
  refine ⟨parameter, ?_, rfl, describes_ofUriParameter parameter⟩
  rw [← hparameters]
  exact filter_key_eq_singleton honce hparameter

theorem writes_of (h : DeclaredAlong above entry.resource)
    (hparameters : entry.parameters = (above ++ [entry.resource]).flatMap (·.uriParameters)) :
    Writes (above ++ [entry.resource]) entry.resource (.of entry) where
  path := rfl
  methods := by
    rw [ResourceSection.of, List.forall₂_map_right_iff, List.forall₂_same]
    exact fun _ _ => ⟨rfl, rfl, describesToken_parameters h hparameters⟩

theorem shows_listing (h : DeclaredAlong above entry.resource)
    (hparameters : entry.parameters = (above ++ [entry.resource]).flatMap (·.uriParameters)) :
    Shows (above ++ [entry.resource]) entry.resource (listing entry) where
  anchors := rfl
  methods := by
    have hrows : List.Forall₂ (ShowsParameter (above ++ [entry.resource]))
        (parameters entry.resource.path)
        (entry.parameters.map (listed <| .ofUriParameter ·)) := by
      have hwritten := describesToken_parameters h hparameters
      rw [List.forall₂_map_right_iff] at hwritten ⊢
      exact hwritten.imp fun _ _ hrow => ⟨_, hrow, rfl⟩
    rw [listing, List.forall₂_map_right_iff, List.forall₂_same]
    exact fun _ _ => ⟨rfl, hrows⟩

end

/-- The anchors of a resource and its methods, and the names of the parameters of each method. -/
def ListedResource.outline (shown : ListedResource) :
    List String × List (List String × List (List Char)) :=
  (shown.anchors, shown.methods.map fun method =>
    (method.anchors, method.parameters.map (·.name)))

def outlineAt (path : String) (methods : List HttpMethod) :
    List String × List (List String × List (List Char)) :=
  ([path], methods.map fun method =>
    ([anchor path method], (parameters path).map (escapeText ·.name)))

theorem Shows.outline_eq {line : List Resource} {resource : Resource} {shown : ListedResource}
    (h : Shows line resource shown) :
    shown.outline = outlineAt resource.path (resource.methods.map (·.endpoint.method)) := by
  have hnames : ∀ rows, List.Forall₂ (ShowsParameter line) (parameters resource.path) rows →
      (parameters resource.path).map (escapeText ·.name) = rows.map (·.name) := by
    intro rows hrows
    apply hrows.map_eq_map
    rintro token - shown ⟨row, ⟨parameter, -, rfl, hrow⟩, rfl⟩
    rw [listed, hrow.name.1, toList_escapeHtml]
    rfl
  rw [ListedResource.outline, outlineAt, h.anchors, List.map_map]
  refine Prod.ext rfl (h.methods.map_eq_map fun method _ shown hshown => ?_).symm
  exact Prod.ext hshown.1.symm (hnames _ hshown.2)

end Html

namespace Draft.Resolved

variable {draft : Draft} {view : ApiView} (resolved : draft.Resolved view)

include resolved

theorem wayDown_unique {above above' : List Resource} {resource : Resource}
    (h : WayDown view.resources (above ++ [resource]))
    (h' : WayDown view.resources (above' ++ [resource])) : above = above' := by
  obtain ⟨normal, -, -, rfl⟩ := resolved
  obtain ⟨path, -, hresource, hline⟩ := wayDown_view _ normal.wellSlashed h
  obtain ⟨path', -, hresource', hline'⟩ := wayDown_view _ normal.wellSlashed h'
  have hpath : path = path' := by
    have hpaths := congrArg Resource.path (hresource.trans hresource'.symm)
    simpa only [resourceOf, Outline.entryOf_path] using hpaths
  rw [hpath, ← hline'] at hline
  exact List.append_cancel_right hline

/-- What is made of each section by itself is made of the resources of the walk, in their order. -/
theorem forall₂_sections {β : Type} {holds : List Resource → Resource → β → Prop}
    {make : Section → β} (made : ∀ {entry : Section} {above : List Resource},
      DeclaredAlong above entry.resource →
        entry.parameters = (above ++ [entry.resource]).flatMap (·.uriParameters) →
          holds (above ++ [entry.resource]) entry.resource (make entry)) :
    List.Forall₂ (fun resource item =>
      ∃ above, WayDown view.resources (above ++ [resource]) ∧
        (∀ other, WayDown view.resources (other ++ [resource]) → other = above) ∧
        holds (above ++ [resource]) resource item)
      view.walk ((sections view).map make) := by
  rw [← map_resource_sections, List.forall₂_map_left_iff, List.forall₂_map_right_iff,
    List.forall₂_same]
  intro entry hentry
  obtain ⟨above, hdown, hparameters⟩ := declares_of_mem_sections entry hentry
  exact ⟨above, hdown, fun _ hother => resolved.wayDown_unique hother hdown,
    made (resolved.declaredAlong hdown) hparameters⟩

end Draft.Resolved

variable {fragments : List Fragment} {options : MergeOptions} {views : List ApiView}

/-- The page of a merged view lists the resources of its walk, each with its methods in order and
each of these with the parameters of its path, as they are declared on the one way down to it. So it
is for what the page is filled with and for what is read from it. -/
theorem merge_shows_page (h : merge fragments options = .ok views) : ∀ view ∈ views,
    List.Forall₂ (fun resource shown =>
      ∃ above, WayDown view.resources (above ++ [resource]) ∧
        (∀ other, WayDown view.resources (other ++ [resource]) → other = above) ∧
        Shows (above ++ [resource]) resource shown)
      view.walk (readPage (page view)) ∧
    List.Forall₂ (fun resource written =>
      ∃ above, WayDown view.resources (above ++ [resource]) ∧
        (∀ other, WayDown view.resources (other ++ [resource]) → other = above) ∧
        Writes (above ++ [resource]) resource written)
      view.walk (Page.of view).resources := by
  intro view hview
  obtain ⟨-, drafts, -, -, -, hviews⟩ := exists_resolved h
  obtain ⟨draft, -, hresolved⟩ := hviews.exists_left hview
  refine ⟨?_, hresolved.forall₂_sections writes_of⟩
  rw [readPage_page]
  exact hresolved.forall₂_sections shows_listing

theorem merge_shows_page_shops :
    ∃ view, merge shopFragments shopOptions = .ok [view] ∧
      (readPage (page view)).map ListedResource.outline =
        [(["/shops"], [(["/shops:post"], [])]),
          (["/shops/{id}"], [(["/shops/{id}:get"], ["id".toList])]),
          (["/shops/{id}/orders/{order}"],
            [(["/shops/{id}/orders/{order}:get"], ["id".toList, "order".toList])])] := by
  have hwalk : (merge shopFragments shopOptions).map (List.map fun view =>
      view.walk.map fun resource => (resource.path, resource.methods.map (·.endpoint.method))) =
      .ok [[("/shops", [.post]), ("/shops/{id}", [.get]),
        ("/shops/{id}/orders/{order}", [.get])]] := by decide +kernel
  obtain ⟨views, hviews, hplaces⟩ := Except.map_eq_ok_iff.mp hwalk
  obtain ⟨view, rfl, hplace⟩ := List.map_eq_singleton_iff.mp hplaces
  have hpage := (merge_shows_page hviews view List.mem_cons_self).1.map_eq_map
    (f := fun resource => outlineAt resource.path (resource.methods.map (·.endpoint.method)))
    fun _ _ _ ⟨_, _, _, hshown⟩ => hshown.outline_eq.symm
  have hshops := congrArg (List.map fun place => outlineAt place.1 place.2) hplace
  rw [List.map_map] at hshops
  refine ⟨view, hviews, hpage.symm.trans (hshops.trans ?_)⟩
  decide +kernel

end ApiManual
