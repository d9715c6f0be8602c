import ApiManual.Proofs.Html.Linking
import ApiManual.Proofs.Merge.Listing
import ApiManual.Proofs.Merge.Siblings

/-!
Links into the page of a merged view. Resources and methods are told apart by their ids, except that
the path of a resource can be that of another one with a colon and a method behind it.
-/
namespace ApiManual

open Html

namespace HttpMethod

theorem key_injective : Function.Injective key := by
  have hkeys : ∀ method ∈ all, ∀ other ∈ all, method.key = other.key → method = other := by decide
  have hall : ∀ method, method ∈ all := by
    intro method
    cases method <;> decide
  exact fun method other => hkeys method (hall method) other (hall other)

theorem colon_not_mem_key (method : HttpMethod) : ':' ∉ method.key.toList := by
  cases method <;> decide

end HttpMethod

namespace Html

/-- What a link can be meant to lead to. -/
inductive Target where
  | resource (path : String)
  | operation (path : String) (method : HttpMethod)
  deriving DecidableEq, Repr

namespace Target

def path : Target → String
  | resource path => path
  | operation path _ => path

def id : Target → String
  | resource path => path
  | operation path method => anchor path method

end Target

def targetsOf (resource : Resource) : List Target :=
  .resource resource.path :: resource.methods.map (.operation resource.path ·.endpoint.method)

def targets (view : ApiView) : List Target := view.walk.flatMap targetsOf

/-- No path of a resource is that of a resource with a colon and one of its methods behind it. -/
def Unambiguous (view : ApiView) : Prop :=
  ∀ resource ∈ view.walk, ∀ owner ∈ view.walk, ∀ method ∈ owner.methods,
    resource.path ≠ anchor owner.path method.endpoint.method

/-- The first element with the id of a target is the one that was made for it. -/
def Designates (view : ApiView) (target : Target) : Prop :=
  (ids (page view)).idxOf target.id = (targets view).idxOf target

theorem mem_targets {view : ApiView} {target : Target} :
    target ∈ targets view ↔ ∃ resource ∈ view.walk,
      target = .resource resource.path ∨
        ∃ method ∈ resource.methods, target = .operation resource.path method.endpoint.method := by
  simp [targets, targetsOf, eq_comm]

theorem ids_page_eq_targets (view : ApiView) : ids (page view) = (targets view).map Target.id := by
  have hsection : ∀ resource : Resource, resource.path ::
      (resource.methods.map fun m => anchor resource.path m.endpoint.method) =
        (targetsOf resource).map Target.id := by
    intro resource
    rw [targetsOf, List.map_cons, List.map_map]
    rfl
  rw [ids_page, targets, ← map_resource_sections, List.flatMap_map, List.map_flatMap]
  simp only [hsection]

theorem addresses_page_eq_walk (view : ApiView) :
    addresses (page view) = view.walk.map ("#" ++ ·.path) := by
  rw [addresses_page, ← map_resource_sections, List.map_map]
  rfl

/-- No key holds a colon, so the last colon of an anchor is the one between path and method. -/
theorem fields_anchor (path : String) (method : HttpMethod) :
    Text.fields ':' (anchor path method).toList =
      Text.fields ':' path.toList ++ [method.key.toList] := by
  have hanchor : (anchor path method).toList = path.toList ++ ':' :: method.key.toList := by
    simp [anchor]
  rw [hanchor, Text.fields_append_cons, Text.fields_of_not_mem method.colon_not_mem_key]

theorem anchor_inj {path other : String} {method verb : HttpMethod}
    (h : anchor path method = anchor other verb) : path = other ∧ method = verb := by
  have hfields := fields_anchor path method
  rw [h, fields_anchor] at hfields
  obtain ⟨hpath, hkey⟩ := List.append_inj' hfields rfl
  have hchars := congrArg ([':'].intercalate ·) hpath
  simp only [Text.intercalate_fields] at hchars
  exact ⟨(String.toList_inj.mp hchars).symm,
    (HttpMethod.key_injective (String.toList_inj.mp (List.cons.inj hkey).1)).symm⟩

theorem unambiguous_iff {view : ApiView} :
    Unambiguous view ↔
      ∀ target ∈ targets view, ∀ other ∈ targets view, target.id = other.id → target = other := by
  constructor
  · intro h target htarget other hother hid
    obtain ⟨resource, hresource, rfl | ⟨method, hmethod, rfl⟩⟩ := mem_targets.mp htarget <;>
      obtain ⟨owner, howner, rfl | ⟨verb, hverb, rfl⟩⟩ := mem_targets.mp hother
    · exact congrArg Target.resource hid
    · exact absurd hid (h resource hresource owner howner verb hverb)
    · exact absurd hid.symm (h owner howner resource hresource method hmethod)
    · obtain ⟨hpath, hsame⟩ := anchor_inj hid
      rw [hpath, hsame]
  · intro h resource hresource owner howner method hmethod hid
    have htarget := mem_targets.mpr ⟨resource, hresource, .inl rfl⟩
    have hother := mem_targets.mpr ⟨owner, howner, .inr ⟨method, hmethod, rfl⟩⟩
    cases h _ htarget _ hother hid

theorem idxOf_map_of_inj_on {α β : Type} [DecidableEq α] [DecidableEq β] {f : α → β}
    {items : List α} {item : α} (h : ∀ other ∈ items, f other = f item → other = item) :
    (items.map f).idxOf (f item) = items.idxOf item := by
  induction items with
  | nil => rfl
  | cons first rest ih =>
    obtain ⟨hfirst, hrest⟩ := List.forall_mem_cons.mp h
    by_cases hsame : first = item
    · rw [hsame, List.map_cons, List.idxOf_cons_self, List.idxOf_cons_self]
    · rw [List.map_cons, List.idxOf_cons_ne _ fun heq => hsame (hfirst heq),
        List.idxOf_cons_ne _ hsame, ih hrest]

theorem forall_designates_iff {view : ApiView} :
    (∀ target ∈ targets view, Designates view target) ↔ Unambiguous view := by
  rw [unambiguous_iff]
  constructor
  · intro h target htarget other hother hid
    have hplace : (targets view).idxOf target = (targets view).idxOf other := by
      rw [← h target htarget, ← h other hother, hid]
    exact (List.idxOf_inj htarget).mp hplace
  · intro h target htarget
    rw [Designates, ids_page_eq_targets]
    exact idxOf_map_of_inj_on fun other hother hid => h other hother target htarget hid

theorem nodup_targets {view : ApiView} (once : (view.walk.map (·.path)).Nodup)
    (separate : view.Separate) : (targets view).Nodup := by
  rw [targets, List.nodup_flatMap]
  constructor
  · intro resource hresource
    have hmethods := (separate.within resource hresource).methods
    rw [targetsOf, List.nodup_cons]
    constructor
    · simp
    · have hinjective : Function.Injective (Target.operation resource.path) := by
        intro method other h
        cases h
        rfl
      have hoperations := hmethods.map hinjective
      rwa [List.map_map] at hoperations
  · rw [List.Nodup, List.pairwise_map] at once
    apply once.imp
    intro first second hne target hfirst hsecond
    have hpath : ∀ {resource : Resource}, target ∈ targetsOf resource →
        target.path = resource.path := by
      intro resource htarget
      rcases List.mem_cons.mp htarget with rfl | htarget
      · rfl
      · obtain ⟨_, -, rfl⟩ := List.mem_map.mp htarget
        rfl
    exact hne ((hpath hfirst).symm.trans (hpath hsecond))

end Html

variable {fragments : List Fragment} {options : MergeOptions} {views : List ApiView}

/-- The page of a merged view has one element with an id for each resource and each method, and an
index of the resources. The ids are distinct as they are written, and links lead where they are
meant to, exactly if no path of a resource reads as a method of another one. -/
theorem merge_targets (h : merge fragments options = .ok views) :
    ∀ view ∈ views,
      (ids (page view) = (targets view).map Target.id ∧ (targets view).Nodup ∧
        addresses (page view) = view.walk.map ("#" ++ ·.path)) ∧
      (((ids (page view)).map escapeText).Nodup ↔ Unambiguous view) ∧
      ((∀ target ∈ targets view, Designates view target) ↔ Unambiguous view) := by
  intro view hview
  obtain ⟨-, drafts, -, -, -, hviews⟩ := exists_resolved h
  obtain ⟨draft, -, hresolved⟩ := hviews.exists_left hview
  have hnodup : (targets view).Nodup :=
    nodup_targets hresolved.arranged.nodup (merge_separate h view hview)
  refine ⟨⟨ids_page_eq_targets view, hnodup, addresses_page_eq_walk view⟩, ?_,
    forall_designates_iff⟩
  rw [List.nodup_map_iff escapeText_injective, ids_page_eq_targets,
    List.nodup_map_iff_inj_on hnodup, unambiguous_iff]

theorem merge_targets_shops :
    ∃ view, merge shopFragments shopOptions = .ok [view] ∧
      ids (page view) = ["/shops", "/shops:post", "/shops/{id}", "/shops/{id}:get",
        "/shops/{id}/orders/{order}", "/shops/{id}/orders/{order}:get"] ∧
      ∀ target ∈ targets view, Designates view target := by
  have hmerge : (merge shopFragments shopOptions).map (List.map targets) = .ok [[
      .resource "/shops", .operation "/shops" .post,
      .resource "/shops/{id}", .operation "/shops/{id}" .get,
      .resource "/shops/{id}/orders/{order}", .operation "/shops/{id}/orders/{order}" .get]] := by
    decide +kernel
  obtain ⟨views, hviews, htargets⟩ := Except.map_eq_ok_iff.mp hmerge
  obtain ⟨view, rfl, hview⟩ := List.map_eq_singleton_iff.mp htargets
  obtain ⟨⟨hids, -⟩, hnodup, hdesignates⟩ := merge_targets hviews view List.mem_cons_self
  rw [hview] at hids
  refine ⟨view, hviews, hids.trans (by decide), hdesignates.mpr (hnodup.mp ?_)⟩
  rw [hids]
  decide +kernel

/-- Messages are deleted by a method of their own, and through a resource that is named for it. -/
def mailFragments : List Fragment :=
  [{ origin := some "mail", groupings := [{ id := some "mail", endpoints := [
      { method := .delete, paths := ["/messages"] },
      { method := .post, paths := ["/messages:delete"] }] }] }]

theorem not_nodup_ids :
    ¬ ∀ (fragments : List Fragment) (options : MergeOptions) (views : List ApiView),
      merge fragments options = .ok views → ∀ view ∈ views, (ids (page view)).Nodup := by
  intro h
  have hmerge : (merge mailFragments {}).map (List.map targets) = .ok [[
      .resource "/messages", .operation "/messages" .delete,
      .resource "/messages:delete", .operation "/messages:delete" .post]] := by
    decide +kernel
  obtain ⟨views, hviews, htargets⟩ := Except.map_eq_ok_iff.mp hmerge
  obtain ⟨view, rfl, hview⟩ := List.map_eq_singleton_iff.mp htargets
  have hnodup := h _ _ _ hviews view List.mem_cons_self
  rw [ids_page_eq_targets, hview] at hnodup
  exact absurd hnodup (by decide)

end ApiManual
