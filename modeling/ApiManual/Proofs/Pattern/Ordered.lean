import ApiManual.Pattern.Meaning
import ApiManual.Proofs.Pattern.Turn
import ApiManual.Proofs.Regex.Ends

/-!
The bounds of a repetition are read in order, and the expression of a pattern keeps them so.
-/
namespace ApiManual.Pattern

def InOrder (least : Nat) (most : Option Nat) : Prop := ∀ m, most = some m → least ≤ m

mutual

/-- No repetition in a pattern has its bounds the wrong way round. -/
def Ordered : Pattern → Prop
  | .repeated least most body => InOrder least most ∧ body.Ordered
  | .group _ body => body.Ordered
  | .concatenation parts => OrderedAll parts
  | .alternation branches => OrderedAll branches
  | _ => True

def OrderedAll : List Pattern → Prop
  | [] => True
  | part :: rest => part.Ordered ∧ OrderedAll rest

end

variable {verbose : Bool} {text rest : List Char}

theorem ordered_group {changes : FlagChanges} {body : Pattern} :
    (group changes body).Ordered ↔ body.Ordered := by
  rw [Ordered]

theorem OrderedAll.nil : OrderedAll [] := trivial

theorem OrderedAll.cons {part : Pattern} {parts : List Pattern} (hparts : OrderedAll parts)
    (h : part.Ordered) : OrderedAll (part :: parts) := ⟨h, hparts⟩

theorem orderedAll_iff {parts : List Pattern} :
    OrderedAll parts ↔ ∀ part ∈ parts, part.Ordered := by
  induction parts with
  | nil => simp [OrderedAll]
  | cons part rest ih => rw [OrderedAll, ih, List.forall_mem_cons]

theorem counts?_inOrder {least : Nat} {most : Option Nat}
    (h : counts? verbose text = some ((least, most), rest)) : InOrder least most := by
  rw [counts?, Option.bind_eq_bind, Option.bind_eq_some_iff] at h
  obtain ⟨⟨least', behind⟩, -, h⟩ := h
  rintro m rfl
  dsimp only at h
  split at h
  · cases h
    exact Nat.le_refl _
  · split at h
    · cases h
    · obtain ⟨⟨most', behind'⟩, -, h⟩ := Option.bind_eq_some_iff.mp h
      dsimp only at h
      split at h
      · split at h
        · cases h
          assumption
        · contradiction
      · contradiction
  · contradiction

def Turn.Ordered : Turn → Prop
  | .part pattern => pattern.Ordered
  | .again least most => InOrder least most
  | _ => True

theorem turnAt?_ordered {turn : Turn} (h : turnAt? verbose text = some (turn, rest)) :
    turn.Ordered := by
  rw [turnAt?.eq_def] at h
  split at h
  · cases h
    trivial
  · cases h
    trivial
  · cases h
    trivial
  · obtain ⟨⟨start, behind⟩, -, heq⟩ := Option.map_eq_some_iff.mp h
    cases heq
    cases start <;> trivial
  · obtain ⟨⟨set, behind⟩, -, h⟩ := Option.bind_eq_some_iff.mp h
    cases set with
    | bracketed =>
      cases h
      trivial
    | _ => contradiction
  · cases h
    exact fun m hm => Nat.zero_le m
  · cases h
    exact fun m hm => Nat.zero_le m
  · cases h
    exact fun m hm => absurd hm.symm (Option.some_ne_none m)
  · obtain ⟨⟨⟨least, most⟩, behind⟩, hcounts, h⟩ := Option.bind_eq_some_iff.mp h
    cases h
    exact counts?_inOrder hcounts
  · obtain ⟨⟨atom, behind⟩, -, heq⟩ := Option.map_eq_some_iff.mp h
    cases heq
    cases atom <;> trivial

theorem branch_ordered {parts : List Pattern} (h : OrderedAll parts) : (branch parts).Ordered := by
  rw [branch.eq_def]
  split
  · exact h.1
  · rw [Ordered, orderedAll_iff]
    simpa only [List.mem_reverse] using orderedAll_iff.mp h

theorem branches_ordered {done parts : List Pattern} (hdone : OrderedAll done)
    (hparts : OrderedAll parts) : (branches done parts).Ordered := by
  rw [branches.eq_def]
  split
  · exact branch_ordered hparts
  · have hall : OrderedAll (branch parts :: done) := ⟨branch_ordered hparts, hdone⟩
    rw [Ordered, orderedAll_iff]
    simpa only [List.mem_reverse] using orderedAll_iff.mp hall

theorem repeatLast?_ordered {least : Nat} {most : Option Nat} {parts parts' : List Pattern}
    (hbounds : InOrder least most) (hparts : OrderedAll parts)
    (h : repeatLast? least most parts = some parts') : OrderedAll parts' := by
  rw [repeatLast?.eq_def] at h
  split at h
  · contradiction
  · contradiction
  · cases h
    exact ⟨⟨hbounds, hparts.1⟩, hparts.2⟩

theorem body?_ordered {fuel : Nat} {reading : Reading} {done parts : List Pattern}
    {pattern : Pattern} {names : List String} (hdone : OrderedAll done) (hparts : OrderedAll parts)
    (h : body? fuel reading done parts text = some (pattern, names, rest)) : pattern.Ordered := by
  induction fuel generalizing reading done parts text pattern names rest with
  | zero =>
    rw [body?] at h
    contradiction
  | succ fuel ih =>
    rw [body?_succ, Option.bind_eq_some_iff] at h
    obtain ⟨⟨turn, after⟩, hturn, h⟩ := h
    have hturn := turnAt?_ordered hturn
    cases turn with
    | finished =>
      simp only [follow] at h
      split at h
      · contradiction
      · cases h
        exact branches_ordered hdone hparts
    | closing =>
      simp only [follow] at h
      split at h
      · cases h
        exact branches_ordered hdone hparts
      · contradiction
    | bar => exact ih (hdone.cons (branch_ordered hparts)) .nil h
    | flags changes =>
      have hflags : (Pattern.flags changes).Ordered := trivial
      exact ih hdone (hparts.cons hflags) h
    | part part => exact ih hdone (hparts.cons hturn) h
    | group changes name =>
      simp only [follow] at h
      split at h
      · contradiction
      · obtain ⟨⟨body, names, middle⟩, hbody, h⟩ := Option.bind_eq_some_iff.mp h
        exact ih hdone (hparts.cons (ordered_group.mpr (ih .nil .nil hbody))) h
    | again least most =>
      obtain ⟨parts, hrepeated, h⟩ := Option.bind_eq_some_iff.mp h
      exact ih hdone (repeatLast?_ordered hturn hparts hrepeated) h

theorem ofChars?_ordered {pattern : Pattern} (h : ofChars? text = some pattern) :
    pattern.Ordered := by
  rw [ofChars?, Option.bind_eq_bind, Option.bind_eq_some_iff] at h
  obtain ⟨⟨found, names, rest⟩, hbody, h⟩ := h
  simp only [Option.ite_none_right_eq_some, Option.some.injEq] at h
  exact h.2 ▸ body?_ordered .nil .nil hbody

theorem repetition_ordered {least : Nat} {most : Option Nat} {body : Regex}
    (hbounds : InOrder least most) (hbody : body.Ordered) :
    (repetition least most body).Ordered := by
  rw [repetition]
  split
  · refine ⟨?_, hbody⟩
    rintro m ⟨⟩
    cases most with
    | none => exact Nat.min_le_right _ _
    | some most =>
      have := hbounds most rfl
      simp only [Option.getD_some]
      omega
  · exact ⟨hbounds, hbody⟩

mutual

theorem regex?_ordered {flags flags' : Flags} {pattern : Pattern} {r : Regex}
    (hpattern : pattern.Ordered) (h : regex? flags pattern = some (r, flags')) : r.Ordered := by
  cases pattern with
  | repeated least most body =>
    obtain ⟨⟨inner, after⟩, hbody, h⟩ := Option.bind_eq_some_iff.mp h
    cases h
    exact repetition_ordered hpattern.1 (regex?_ordered hpattern.2 hbody)
  | group changes body =>
    obtain ⟨⟨inner, after⟩, hbody, h⟩ := Option.bind_eq_some_iff.mp h
    cases h
    exact regex?_ordered (ordered_group.mp hpattern) hbody
  | concatenation parts => exact sequence?_ordered hpattern h
  | alternation branches => exact choice?_ordered hpattern h
  | bracketed negated body =>
    obtain ⟨members, -, h⟩ := Option.bind_eq_some_iff.mp h
    obtain ⟨set, -, h⟩ := Option.bind_eq_some_iff.mp h
    cases h
    trivial
  | flags changes =>
    cases h
    trivial
  | assertion kind =>
    cases h
    trivial
  | _ =>
    obtain ⟨set, -, heq⟩ := Option.map_eq_some_iff.mp h
    cases heq
    trivial

theorem sequence?_ordered {flags flags' : Flags} {parts : List Pattern} {r : Regex}
    (hparts : OrderedAll parts) (h : sequence? flags parts = some (r, flags')) : r.Ordered := by
  cases parts with
  | nil =>
    cases h
    trivial
  | cons part rest =>
    obtain ⟨⟨first, between⟩, hfirst, h⟩ := Option.bind_eq_some_iff.mp h
    obtain ⟨⟨second, after⟩, hsecond, h⟩ := Option.bind_eq_some_iff.mp h
    cases h
    exact ⟨regex?_ordered hparts.1 hfirst, sequence?_ordered hparts.2 hsecond⟩

theorem choice?_ordered {flags flags' : Flags} {branches : List Pattern} {r : Regex}
    (hbranches : OrderedAll branches) (h : choice? flags branches = some (r, flags')) :
    r.Ordered := by
  cases branches with
  | nil =>
    cases h
    trivial
  | cons branch rest =>
    obtain ⟨⟨first, between⟩, hfirst, h⟩ := Option.bind_eq_some_iff.mp h
    obtain ⟨⟨second, after⟩, hsecond, h⟩ := Option.bind_eq_some_iff.mp h
    cases h
    exact ⟨regex?_ordered hbranches.1 hfirst, choice?_ordered hbranches.2 hsecond⟩

end

end ApiManual.Pattern
