import ApiManual.Proofs.Except
import ApiManual.Proofs.Outline.PreOrder
import ApiManual.View.Resolution

/-!
Every path declares what it brings in, and this succeeds exactly if no path holds a name twice. A
name that is declared above stands in an earlier segment, so that none is ever passed over.
-/
namespace ApiManual

open UriPath (Token)

def Outline.Entry.declarations (entry : Outline.Entry) : List Declaration :=
  entry.tokens.map (⟨entry.path, ·⟩)

namespace Declaration

theorem onPath?_eq_none_iff {declared : List Declaration} {path name : String} :
    onPath? declared path name = none ↔
      ∀ declaration ∈ declared, declaration.owner = path → declaration.token.name ≠ name := by
  simp [onPath?]

theorem onPath?_eq_some {declared : List Declaration} {path name : String}
    {declaration : Declaration} (h : onPath? declared path name = some declaration) :
    declaration ∈ declared ∧ declaration.owner = path ∧ declaration.token.name = name := by
  refine ⟨List.mem_of_find?_eq_some h, ?_⟩
  simpa using List.find?_some h

theorem onPath?_append (declared later : List Declaration) (path name : String) :
    onPath? (declared ++ later) path name =
      (onPath? declared path name).or (onPath? later path name) := List.find?_append

theorem onPath?_append_own_eq_none_iff {declared : List Declaration} {path name : String}
    {token : UriPath.Token} :
    onPath? (declared ++ [⟨path, token⟩]) path name = none ↔
      onPath? declared path name = none ∧ token.name ≠ name := by
  have hlast : onPath? [⟨path, token⟩] path name = none ↔ token.name ≠ name := by
    rw [onPath?_eq_none_iff]
    simp
  rw [onPath?_append, Option.or_eq_none_iff, hlast]

theorem onChain?_eq_none_iff {declared : List Declaration} {entries : List Outline.Entry}
    {name : String} :
    onChain? declared entries name = none ↔
      ∀ entry ∈ entries, onPath? declared entry.path name = none := List.findSome?_eq_none_iff

theorem onChain?_eq_some {declared : List Declaration} {entries : List Outline.Entry}
    {name : String} {declaration : Declaration}
    (h : onChain? declared entries name = some declaration) :
    ∃ entry ∈ entries, onPath? declared entry.path name = some declaration :=
  List.exists_of_findSome?_eq_some h

theorem onChain?_append_of_not_mem {declared : List Declaration} {entries : List Outline.Entry}
    {name : String} {later : Declaration} (h : ∀ entry ∈ entries, entry.path ≠ later.owner) :
    onChain? (declared ++ [later]) entries name = onChain? declared entries name := by
  induction entries with
  | nil => rfl
  | cons entry rest ih =>
    have hentry : onPath? [later] entry.path name = none := by
      rw [onPath?_eq_none_iff]
      intro declaration hdeclaration howner
      rw [List.mem_singleton.mp hdeclaration] at howner
      exact absurd howner.symm (h entry List.mem_cons_self)
    have hrest := ih fun other hother => h other (List.mem_cons_of_mem entry hother)
    unfold onChain?
    rw [List.findSome?_cons, onPath?_append, hentry, Option.or_none, ← onChain?, hrest]
    rfl

end Declaration

namespace Resolution

open Declaration

section OnePath

variable {grouping : String} {outline : Outline} {entry : Outline.Entry}

theorem declareTokens_error {declared : List Declaration} {tokens : List Token}
    {error : ResolutionError}
    (h : declareTokens grouping outline entry declared tokens = .error error) :
    ∃ name reason, error = .ambiguousParameter name entry.path grouping reason := by
  induction tokens generalizing declared with
  | nil => simp [declareTokens] at h
  | cons token rest ih =>
    unfold declareTokens at h
    split at h
    · split at h
      · exact ih h
      · exact ⟨_, _, (Except.error.inj h).symm⟩
    · split at h
      · exact ⟨_, _, (Except.error.inj h).symm⟩
      · exact ih h

theorem declareTokens_cons_eq_ok_iff {declared result : List Declaration} {token : Token}
    {rest : List Token}
    (earlier : ∀ above,
      onChain? declared ((outline.chain entry.path).drop 1) token.name = some above →
        above.token.position ≠ token.position) :
    declareTokens grouping outline entry declared (token :: rest) = .ok result ↔
      (onChain? declared ((outline.chain entry.path).drop 1) token.name = none ∧
        onPath? declared entry.path token.name = none) ∧
      declareTokens grouping outline entry (declared ++ [⟨entry.path, token⟩]) rest =
        .ok result := by
  conv_lhs => unfold declareTokens
  cases hchain : onChain? declared ((outline.chain entry.path).drop 1) token.name with
  | some above =>
    dsimp only
    rw [if_neg (earlier above hchain)]
    simp
  | none =>
    dsimp only
    cases hown : onPath? declared entry.path token.name with
    | some other => simp
    | none => simp

theorem declareTokens_eq_ok_iff {declared result : List Declaration} {tokens : List Token}
    (outer : ∀ other ∈ (outline.chain entry.path).drop 1, other.path ≠ entry.path)
    (earlier : ∀ token ∈ tokens, ∀ above,
      onChain? declared ((outline.chain entry.path).drop 1) token.name = some above →
        above.token.position ≠ token.position) :
    declareTokens grouping outline entry declared tokens = .ok result ↔
      (∀ token ∈ tokens,
        onChain? declared ((outline.chain entry.path).drop 1) token.name = none ∧
          onPath? declared entry.path token.name = none) ∧
      (tokens.map (·.name)).Nodup ∧ result = declared ++ tokens.map (⟨entry.path, ·⟩) := by
  induction tokens generalizing declared with
  | nil => simp [declareTokens, eq_comm]
  | cons token rest ih =>
    have hchain : ∀ name, onChain? (declared ++ [⟨entry.path, token⟩])
        ((outline.chain entry.path).drop 1) name =
          onChain? declared ((outline.chain entry.path).drop 1) name :=
      fun name => onChain?_append_of_not_mem outer
    have hrest := @ih (declared ++ [⟨entry.path, token⟩]) fun other hother above h =>
      earlier other (List.mem_cons_of_mem token hother) above (by rwa [hchain] at h)
    rw [declareTokens_cons_eq_ok_iff (earlier token List.mem_cons_self), hrest]
    simp only [hchain, onPath?_append_own_eq_none_iff, List.forall_mem_cons, List.map_cons,
      List.nodup_cons, List.mem_map, List.append_assoc, List.singleton_append]
    constructor
    · rintro ⟨hfirst, hnames, hnodup, hresult⟩
      refine ⟨⟨hfirst, fun other hother => ⟨(hnames other hother).1, (hnames other hother).2.1⟩⟩,
        ⟨?_, hnodup⟩, hresult⟩
      rintro ⟨other, hother, heq⟩
      exact (hnames other hother).2.2 heq.symm
    · rintro ⟨⟨hfirst, hnames⟩, ⟨hnew, hnodup⟩, hresult⟩
      refine ⟨hfirst, fun other hother => ?_, hnodup, hresult⟩
      obtain ⟨habove, hown⟩ := hnames other hother
      exact ⟨habove, hown, fun heq => hnew ⟨other, hother, heq.symm⟩⟩

end OnePath

section AllPaths

open Outline UriPath

/-- What a path brings in holds no name twice and no name of its parent. -/
structure BringsInFresh (paths : List String) (path : String) : Prop where
  nodup : ((entryOf paths path).tokens.map (·.name)).Nodup
  fresh : ∀ parent, IsParent paths parent path →
    ∀ token ∈ (entryOf paths path).tokens, token.name ∉ parameterNames parent

variable {grouping : String} {paths : List String} (slashed : ∀ path ∈ paths, WellSlashed path)

include slashed

theorem parameterNames_eq_append {path parent : String} (hpath : path ∈ paths)
    (h : IsParent paths parent path) :
    parameterNames path = parameterNames parent ++ (entryOf paths path).tokens.map (·.name) := by
  rw [parameterNames, parameters_eq_append_tokens slashed hpath h, List.map_append]
  rfl

theorem forall_bringsInFresh_iff :
    (∀ path ∈ paths, BringsInFresh paths path) ↔ ∀ path ∈ paths, (parameterNames path).Nodup := by
  constructor
  · intro h path hpath
    induction path, hpath using nesting_induction slashed with
    | root path hpath hroot =>
      unfold parameterNames
      rw [← entryOf_tokens_root hroot]
      exact (h path hpath).nodup
    | child path hpath parent hparent ih =>
      rw [parameterNames_eq_append slashed hpath hparent, List.nodup_append']
      refine ⟨ih, (h path hpath).nodup, fun name hname hnew => ?_⟩
      obtain ⟨token, htoken, rfl⟩ := List.mem_map.mp hnew
      exact (h path hpath).fresh parent hparent token htoken hname
  · intro h path hpath
    constructor
    · exact (h path hpath).sublist
        (((entryOf_tokens_sublist slashed hpath).map _))
    · intro parent hparent token htoken hname
      have hnodup := h path hpath
      rw [parameterNames_eq_append slashed hpath hparent, List.nodup_append'] at hnodup
      exact hnodup.2.2 hname (List.mem_map_of_mem htoken)

theorem mem_above {path : String} (hpath : path ∈ paths) {entry : Entry} :
    entry ∈ ((ofPaths paths).chain path).drop 1 ↔
      ∃ parent, IsParent paths parent path ∧ entry ∈ (ofPaths paths).chain parent := by
  rw [chain_eq_cons slashed hpath, List.drop_one, List.tail_cons]
  cases hparent : (entryOf paths path).parent with
  | none =>
    rw [chainFrom_none]
    simp only [List.not_mem_nil, false_iff, not_exists, not_and]
    intro parent h
    rw [(entryOf_parent_eq_some_iff slashed hpath).mpr h] at hparent
    cases hparent
  | some parent =>
    have hp := (entryOf_parent_eq_some_iff slashed hpath).mp hparent
    rw [← chain]
    constructor
    · exact fun h => ⟨parent, hp, h⟩
    · rintro ⟨other, hother, h⟩
      rwa [hp.unique slashed hother]

/-- The place of a path in the visit: those above it are in front. -/
structure Reached (paths : List String) (before : List Entry) (path : String) : Prop where
  entries : before ⊆ (ofPaths paths).entries
  not_mem : ∀ entry ∈ before, entry.path ≠ path
  above : ((ofPaths paths).chain path).drop 1 ⊆ before

theorem reached_of_preOrder {before after : List Entry} {path : String} (hpath : path ∈ paths)
    (h : (ofPaths paths).preOrder = before ++ entryOf paths path :: after) :
    Reached paths before path := by
  have hpairwise := pairwise_preOrder slashed
  rw [h, List.pairwise_append, List.pairwise_cons] at hpairwise
  obtain ⟨-, ⟨hafter, -⟩, hbefore⟩ := hpairwise
  constructor
  · intro entry hentry
    rw [← (preOrder_perm slashed).mem_iff, h]
    exact List.mem_append_left _ hentry
  · rintro entry hentry rfl
    have hcovers := hbefore entry hentry _ List.mem_cons_self
    rw [entryOf_path] at hcovers
    exact hcovers (Covers.refl entry.path)
  · intro entry hentry
    obtain ⟨parent, hparent, hchain⟩ := (mem_above slashed hpath).mp hentry
    obtain ⟨other, hother, hcovers, rfl⟩ := (mem_chain slashed hparent.mem).mp hchain
    have hmem := (mem_preOrder slashed).mpr ⟨other, hother, rfl⟩
    rw [h, List.mem_append, List.mem_cons] at hmem
    rcases hmem with hmem | heq | hmem
    · exact hmem
    · rw [entryOf_injective paths heq] at hcovers
      exact absurd (Covers.antisymm (slashed parent hparent.mem) (slashed path hpath)
        hparent.covers hcovers) hparent.ne
    · have hnot := hafter _ hmem
      rw [entryOf_path, entryOf_path] at hnot
      exact absurd (hcovers.trans hparent.covers) hnot

omit slashed in
theorem declarations_entryOf (path : String) :
    (entryOf paths path).declarations = (entryOf paths path).tokens.map (⟨path, ·⟩) := by
  unfold Entry.declarations
  rw [entryOf_path]

omit slashed in
theorem mem_flatMap_declarations {entries : List Entry} {declaration : Declaration} :
    declaration ∈ entries.flatMap Entry.declarations ↔
      ∃ entry ∈ entries, declaration.owner = entry.path ∧ declaration.token ∈ entry.tokens := by
  obtain ⟨owner, token⟩ := declaration
  simp only [List.mem_flatMap, Entry.declarations, List.mem_map, Declaration.mk.injEq]
  constructor
  · rintro ⟨entry, hentry, other, hother, rfl, rfl⟩
    exact ⟨entry, hentry, rfl, hother⟩
  · rintro ⟨entry, hentry, rfl, htoken⟩
    exact ⟨entry, hentry, token, htoken, rfl, rfl⟩

omit slashed in
theorem eq_of_path_eq {entry other : Entry} (h : entry ∈ (ofPaths paths).entries)
    (h' : other ∈ (ofPaths paths).entries) (heq : entry.path = other.path) : entry = other := by
  obtain ⟨path, -, rfl⟩ := mem_entries.mp h
  obtain ⟨path', -, rfl⟩ := mem_entries.mp h'
  rw [entryOf_path, entryOf_path] at heq
  rw [heq]

theorem exists_entry_of_mem_parameters {path : String} (hpath : path ∈ paths) {token : Token}
    (h : token ∈ parameters path) :
    ∃ entry ∈ (ofPaths paths).chain path, token ∈ entry.tokens := by
  rw [← chain_tokens slashed hpath, List.mem_flatMap] at h
  simpa using h

theorem mem_parameters_of_entry {path : String} (hpath : path ∈ paths) {entry : Entry}
    (hentry : entry ∈ (ofPaths paths).chain path) {token : Token} (h : token ∈ entry.tokens) :
    token ∈ parameters path := by
  rw [← chain_tokens slashed hpath, List.mem_flatMap]
  exact ⟨entry, List.mem_reverse.mpr hentry, h⟩

section Step

variable {before : List Entry} {path : String} (hpath : path ∈ paths)
  (reached : Reached paths before path)

include hpath reached

omit slashed hpath in
theorem onPath?_before (name : String) :
    onPath? (before.flatMap Entry.declarations) path name = none := by
  rw [onPath?_eq_none_iff]
  intro declaration hdeclaration howner
  obtain ⟨entry, hentry, heq, -⟩ := mem_flatMap_declarations.mp hdeclaration
  exact absurd (heq.symm.trans howner) (reached.not_mem entry hentry)

theorem mem_parameters_of_onChain? {name : String} {above : Declaration}
    (h : onChain? (before.flatMap Entry.declarations) (((ofPaths paths).chain path).drop 1) name =
      some above) :
    above.token.name = name ∧ ∃ parent, IsParent paths parent path ∧
      above.token ∈ parameters parent := by
  obtain ⟨entry, hentry, hfound⟩ := onChain?_eq_some h
  obtain ⟨hmem, howner, hname⟩ := onPath?_eq_some hfound
  obtain ⟨other, hother, heq, htoken⟩ := mem_flatMap_declarations.mp hmem
  have hsame : other = entry := eq_of_path_eq (reached.entries hother)
    (reached.entries (reached.above hentry)) (heq.symm.trans howner)
  obtain ⟨parent, hparent, hchain⟩ := (mem_above slashed hpath).mp hentry
  refine ⟨hname, parent, hparent, ?_⟩
  exact mem_parameters_of_entry slashed hparent.mem hchain (hsame ▸ htoken)

theorem onChain?_above_eq_none_iff (name : String) :
    onChain? (before.flatMap Entry.declarations) (((ofPaths paths).chain path).drop 1) name =
      none ↔ ∀ parent, IsParent paths parent path → name ∉ parameterNames parent := by
  constructor
  · intro h parent hparent hname
    obtain ⟨token, htoken, rfl⟩ := List.mem_map.mp hname
    obtain ⟨entry, hentry, hmem⟩ := exists_entry_of_mem_parameters slashed hparent.mem htoken
    have habove := (mem_above slashed hpath).mpr ⟨parent, hparent, hentry⟩
    have hnone := onPath?_eq_none_iff.mp (onChain?_eq_none_iff.mp h entry habove)
    exact hnone ⟨entry.path, token⟩
      (mem_flatMap_declarations.mpr ⟨entry, reached.above habove, rfl, hmem⟩) rfl rfl
  · intro h
    cases hfound : onChain? (before.flatMap Entry.declarations)
        (((ofPaths paths).chain path).drop 1) name with
    | none => rfl
    | some above =>
      obtain ⟨rfl, parent, hparent, htoken⟩ :=
        mem_parameters_of_onChain? slashed hpath reached hfound
      exact absurd (List.mem_map_of_mem htoken) (h parent hparent)

theorem position_lt_of_onChain? {token : Token} (htoken : token ∈ (entryOf paths path).tokens)
    {name : String} {above : Declaration}
    (h : onChain? (before.flatMap Entry.declarations) (((ofPaths paths).chain path).drop 1) name =
      some above) : above.token.position < token.position := by
  obtain ⟨-, parent, hparent, hmem⟩ := mem_parameters_of_onChain? slashed hpath reached h
  exact Nat.lt_of_lt_of_le (position_lt_segmentCount hmem)
    (segmentCount_le_position slashed hpath hparent htoken)

theorem declareTokens_entry_eq_ok_iff {result : List Declaration} :
    declareTokens grouping (ofPaths paths) (entryOf paths path)
        (before.flatMap Entry.declarations) (entryOf paths path).tokens = .ok result ↔
      BringsInFresh paths path ∧
        result = (before ++ [entryOf paths path]).flatMap Entry.declarations := by
  rw [declareTokens_eq_ok_iff]
  · simp only [entryOf_path, onPath?_before reached, and_true,
      onChain?_above_eq_none_iff slashed hpath reached, List.flatMap_append,
      List.flatMap_singleton, declarations_entryOf, ← and_assoc]
    refine and_congr ⟨?_, ?_⟩ Iff.rfl
    · rintro ⟨hfresh, hnodup⟩
      exact ⟨hnodup, fun parent hparent token htoken => hfresh token htoken parent hparent⟩
    · rintro ⟨hnodup, hfresh⟩
      exact ⟨fun token htoken parent hparent => hfresh parent hparent token htoken, hnodup⟩
  · rw [entryOf_path]
    exact fun other hother => reached.not_mem other (reached.above hother)
  · rw [entryOf_path]
    exact fun token htoken above habove =>
      Nat.ne_of_lt (position_lt_of_onChain? slashed hpath reached htoken habove)

end Step

theorem foldlM_declareTokens_eq_ok_iff {before rest : List Entry} {result : List Declaration}
    (h : (ofPaths paths).preOrder = before ++ rest) :
    rest.foldlM (fun declared entry =>
        declareTokens grouping (ofPaths paths) entry declared entry.tokens)
        (before.flatMap Entry.declarations) = .ok result ↔
      (∀ path, entryOf paths path ∈ rest → BringsInFresh paths path) ∧
        result = (before ++ rest).flatMap Entry.declarations := by
  induction rest generalizing before with
  | nil =>
    rw [List.foldlM_nil, Except.pure_eq_ok_iff, eq_comm, List.append_nil]
    simp
  | cons entry rest ih =>
    have hmem : entry ∈ (ofPaths paths).preOrder := by
      rw [h]
      exact List.mem_append_right _ List.mem_cons_self
    obtain ⟨path, hpath, rfl⟩ := (mem_preOrder slashed).mp hmem
    have hreached := reached_of_preOrder slashed hpath h
    have hrest := @ih (before ++ [entryOf paths path]) (by rw [h, List.append_assoc]; rfl)
    simp only [List.append_assoc, List.singleton_append] at hrest
    rw [List.foldlM_cons, Except.bind_eq_ok_iff]
    simp only [declareTokens_entry_eq_ok_iff slashed hpath hreached]
    constructor
    · rintro ⟨_, ⟨hfresh, rfl⟩, hok⟩
      obtain ⟨hrest, hresult⟩ := hrest.mp hok
      refine ⟨fun other hother => ?_, hresult⟩
      rcases List.mem_cons.mp hother with heq | hother
      · rwa [entryOf_injective paths heq]
      · exact hrest other hother
    · rintro ⟨hfresh, hresult⟩
      refine ⟨_, ⟨hfresh path List.mem_cons_self, rfl⟩, hrest.mpr ⟨fun other hother => ?_, hresult⟩⟩
      exact hfresh other (List.mem_cons_of_mem _ hother)

/-- Declaring succeeds exactly if no path holds a name twice; then every path declares all that it
brings in. -/
theorem declare_eq_ok_iff {declared : List Declaration} :
    declare grouping (ofPaths paths) = .ok declared ↔
      (∀ path ∈ paths, (parameterNames path).Nodup) ∧
        declared = (ofPaths paths).preOrder.flatMap Entry.declarations := by
  have hall : (ofPaths paths).preOrder = [] ++ (ofPaths paths).preOrder := rfl
  unfold declare
  rw [← forall_bringsInFresh_iff slashed]
  refine (foldlM_declareTokens_eq_ok_iff slashed hall).trans (and_congr ⟨?_, ?_⟩ Iff.rfl)
  · intro h path hpath
    exact h path ((mem_preOrder slashed).mpr ⟨path, hpath, rfl⟩)
  · intro h path hmem
    obtain ⟨other, hother, heq⟩ := (mem_preOrder slashed).mp hmem
    exact entryOf_injective paths heq ▸ h other hother

omit slashed in
theorem foldlM_declareTokens_error {outline : Outline} {entries : List Entry}
    {declared : List Declaration} {error : ResolutionError}
    (h : entries.foldlM (fun declared entry =>
      declareTokens grouping outline entry declared entry.tokens) declared = .error error) :
    ∃ name path reason, error = .ambiguousParameter name path grouping reason := by
  induction entries generalizing declared with
  | nil => cases h
  | cons entry rest ih =>
    rw [List.foldlM_cons, Except.bind_eq_error_iff] at h
    rcases h with h | ⟨next, -, h⟩
    · obtain ⟨name, reason, heq⟩ := declareTokens_error h
      exact ⟨name, entry.path, reason, heq⟩
    · exact ih h

omit slashed in
theorem declare_error {outline : Outline} {error : ResolutionError}
    (h : declare grouping outline = .error error) :
    ∃ name path reason, error = .ambiguousParameter name path grouping reason :=
  foldlM_declareTokens_error h

end AllPaths

end Resolution

end ApiManual
