import ApiManual.FileTree.Change
import ApiManual.Proofs.FileTree.Node

/-!
Where walks along names end. A walk that ends at a place is read back as an inductive relation, so
that what is said of walks is proved along the way that they took.
-/
namespace ApiManual.FileTree

open FileNode

def IsName (name : String) : Prop := name ≠ "." ∧ name ≠ ".." ∧ ¬ nameLimit < name.utf8ByteSize

/-- The names lead from a place to a place where there is something, or could be. -/
inductive Leads (root : FileNode) (through : Bool) :
    Nat → Place → List String → Lookup → Prop
  | here (links : Nat) (place : Place) : Leads root through links place [] (.present place)
  | current {links : Nat} {place : Place} {rest : List String} {result : Lookup} :
    Leads root through links place rest result →
    Leads root through links place ("." :: rest) result
  | parent {links : Nat} {place : Place} {rest : List String} {result : Lookup} :
    Leads root through links place.dropLast rest result →
    Leads root through links place (".." :: rest) result
  | vacant {links : Nat} {place : Place} {name : String} :
    IsName name → root.labelAt? (place ++ [name]) = none →
    Leads root through links place [name] (.vacant (place ++ [name]))
  | file {links : Nat} {place : Place} {name : String} {content : ByteArray} :
    IsName name → root.labelAt? (place ++ [name]) = some (.file content) →
    Leads root through links place [name] (.present (place ++ [name]))
  | directory {links : Nat} {place : Place} {name : String} {rest : List String}
      {result : Lookup} :
    IsName name → root.labelAt? (place ++ [name]) = some .directory →
    Leads root through links (place ++ [name]) rest result →
    Leads root through links place (name :: rest) result
  | link {links : Nat} {place : Place} {name target : String} :
    IsName name → root.labelAt? (place ++ [name]) = some (.link target) → through = false →
    Leads root through links place [name] (.present (place ++ [name]))
  | follow {links : Nat} {place : Place} {name target : String} {rest : List String}
      {result : Lookup} :
    IsName name → root.labelAt? (place ++ [name]) = some (.link target) →
    rest ≠ [] ∨ through = true →
    Leads root through links (if FilePath.isAbsolute target then [] else place)
      (trail target ++ rest) result →
    Leads root through (links + 1) place (name :: rest) result

variable {root root' : FileNode} {through : Bool} {links : Nat} {place : Place}
  {names : List String} {result : Lookup}

theorem walk_eq_of_leads (h : Leads root through links place names result) :
    walk root through links place names = result := by
  induction h with
  | here => rw [walk]
  | current _ ih => rw [walk, if_pos rfl, ih]
  | parent _ ih => rw [walk, if_neg (by decide), if_pos rfl, ih]
  | vacant hname hlabel =>
    rw [walk, if_neg hname.1, if_neg hname.2.1, if_neg hname.2.2]
    simp [labelAt?_eq_none.mp hlabel]
  | file hname hlabel =>
    rw [walk, if_neg hname.1, if_neg hname.2.1, if_neg hname.2.2]
    simp [labelAt?_eq_file.mp hlabel]
  | directory hname hlabel _ ih =>
    obtain ⟨entries, hget⟩ := labelAt?_eq_directory.mp hlabel
    rw [walk, if_neg hname.1, if_neg hname.2.1, if_neg hname.2.2]
    simp [hget, ih]
  | link hname hlabel hthrough =>
    rw [walk, if_neg hname.1, if_neg hname.2.1, if_neg hname.2.2]
    simp [labelAt?_eq_link.mp hlabel, hthrough]
  | follow hname hlabel hthrough _ ih =>
    rw [walk, if_neg hname.1, if_neg hname.2.1, if_neg hname.2.2]
    rename_i links place name target rest result _
    have hlast : ¬ (rest.isEmpty && !through) = true := by
      rcases hthrough with hrest | hthrough <;> simp_all
    simp only [labelAt?_eq_link.mp hlabel, hlast]
    exact ih

theorem leads_walk (hmissing : walk root through links place names ≠ .missing)
    (hbarred : walk root through links place names ≠ .barred) :
    Leads root through links place names (walk root through links place names) := by
  fun_induction walk root through links place names with
  | case1 links place => exact .here links place
  | case2 links place rest ih => exact .current (ih hmissing hbarred)
  | case3 links place rest _ ih => exact .parent (ih hmissing hbarred)
  | case4 => exact absurd rfl hbarred
  | case5 links place name rest hdot hdots hlong next hget hrest =>
    rw [List.isEmpty_iff.mp hrest]
    exact .vacant ⟨hdot, hdots, hlong⟩ (labelAt?_eq_none.mpr hget)
  | case6 => exact absurd rfl hmissing
  | case7 links place name rest hdot hdots hlong next content hget hrest =>
    rw [List.isEmpty_iff.mp hrest]
    exact .file ⟨hdot, hdots, hlong⟩ (labelAt?_eq_file.mpr hget)
  | case8 => exact absurd rfl hbarred
  | case9 links place name rest hdot hdots hlong next entries hget ih =>
    exact .directory ⟨hdot, hdots, hlong⟩ (labelAt?_eq_directory.mpr ⟨entries, hget⟩)
      (ih hmissing hbarred)
  | case10 links place name rest hdot hdots hlong next target hget hstop =>
    obtain ⟨hrest, hthrough⟩ := (Bool.and_eq_true _ _).to_iff.mp hstop
    rw [List.isEmpty_iff.mp hrest]
    exact .link ⟨hdot, hdots, hlong⟩ (labelAt?_eq_link.mpr hget) (by simpa using hthrough)
  | case11 => exact absurd rfl hbarred
  | case12 place name rest hdot hdots hlong next target hget hgo links ih =>
    refine .follow ⟨hdot, hdots, hlong⟩ (labelAt?_eq_link.mpr hget) ?_ (ih hmissing hbarred)
    by_contra hstop
    push Not at hstop
    exact hgo (by simp [hstop])

theorem leads_of_walk_eq (h : walk root through links place names = result)
    (hmissing : result ≠ .missing) (hbarred : result ≠ .barred) :
    Leads root through links place names result := by
  subst h
  exact leads_walk hmissing hbarred

namespace Leads

theorem unique {result' : Lookup} (h : Leads root through links place names result)
    (h' : Leads root through links place names result') : result = result' :=
  (walk_eq_of_leads h).symm.trans (walk_eq_of_leads h')

/-- There is no link at the place where a lookup ends. -/
def NotLink (root : FileNode) (result : Lookup) : Prop :=
  ∀ place target, result = .present place → root.labelAt? place ≠ some (.link target)

theorem through_of_notLink (h : Leads root false links place names result)
    (hend : NotLink root result) : Leads root true links place names result := by
  induction h with
  | here links place => exact .here links place
  | current _ ih => exact .current (ih hend)
  | parent _ ih => exact .parent (ih hend)
  | vacant hname hlabel => exact .vacant hname hlabel
  | file hname hlabel => exact .file hname hlabel
  | directory hname hlabel _ ih => exact .directory hname hlabel (ih hend)
  | link _ hlabel _ => exact absurd hlabel (hend _ _ rfl)
  | follow hname hlabel _ _ ih => exact .follow hname hlabel (.inr rfl) (ih hend)

theorem exists_stopping (h : Leads root true links place names result) :
    ∃ result', Leads root false links place names result' := by
  induction h with
  | here links place => exact ⟨_, .here links place⟩
  | current _ ih => exact ih.imp fun _ => .current
  | parent _ ih => exact ih.imp fun _ => .parent
  | vacant hname hlabel => exact ⟨_, .vacant hname hlabel⟩
  | file hname hlabel => exact ⟨_, .file hname hlabel⟩
  | directory hname hlabel _ ih => exact ih.imp fun _ => .directory hname hlabel
  | link _ _ hthrough => cases hthrough
  | @follow links place name target rest result hname hlabel _ _ ih =>
    cases rest with
    | nil => exact ⟨_, .link hname hlabel rfl⟩
    | cons next rest => exact ih.imp fun _ => .follow hname hlabel (.inl nofun)

theorem stopping_of_notLink (h : Leads root true links place names result)
    (hend : NotLink root (walk root false links place names)) :
    Leads root false links place names result := by
  obtain ⟨result', hstop⟩ := h.exists_stopping
  rw [walk_eq_of_leads hstop] at hend
  rw [h.unique (hstop.through_of_notLink hend)]
  exact hstop

theorem getLast?_rest {name last : String} {rest : List String}
    (h : (name :: rest).getLast? = some last) (hne : last ≠ name) : rest.getLast? = some last := by
  cases rest with
  | nil => exact absurd (Option.some.inj h).symm hne
  | cons next rest => rwa [List.getLast?_cons_cons] at h

theorem getLast?_eq {last : String} {place' : Place}
    (h : Leads root false links place names result) (hlast : names.getLast? = some last)
    (hdot : last ≠ ".") (hdots : last ≠ "..")
    (hend : result = .present place' ∨ result = .vacant place') : place'.getLast? = some last := by
  have hconcat : ∀ {place : Place} {name : String}, [name].getLast? = some last →
      place' = place ++ [name] → place'.getLast? = some last := by
    rintro place name hname rfl
    rwa [List.getLast?_concat]
  induction h with
  | here => cases hlast
  | current _ ih => exact ih (getLast?_rest hlast hdot) hend
  | parent _ ih => exact ih (getLast?_rest hlast hdots) hend
  | vacant => exact hconcat hlast (by simpa [eq_comm] using hend)
  | file => exact hconcat hlast (by simpa [eq_comm] using hend)
  | @directory links place name rest result _ _ hrest ih =>
    cases rest with
    | nil =>
      cases hrest
      exact hconcat hlast (by simpa [eq_comm] using hend)
    | cons next rest => exact ih (by rwa [List.getLast?_cons_cons] at hlast) hend
  | link => exact hconcat hlast (by simpa [eq_comm] using hend)
  | @follow links place name target rest result _ _ hgo _ ih =>
    have hne : rest ≠ [] := hgo.resolve_right nofun
    refine ih ?_ hend
    rw [List.getLast?_append_of_ne_nil _ hne]
    obtain ⟨next, rest, rfl⟩ := List.exists_cons_of_ne_nil hne
    rwa [List.getLast?_cons_cons] at hlast

theorem exists_parent {place' : Place} (h : Leads root through links place names result)
    (hplace : root.labelAt? place = some .directory) (hend : result = .vacant place') :
    ∃ parent name, place' = parent ++ [name] ∧ root.labelAt? parent = some .directory ∧
      root.labelAt? place' = none := by
  induction h with
  | here => cases hend
  | current _ ih => exact ih hplace hend
  | parent _ ih => exact ih (labelAt?_dropLast hplace) hend
  | vacant hname hlabel =>
    cases hend
    exact ⟨_, _, rfl, hplace, hlabel⟩
  | file => cases hend
  | directory _ hlabel _ ih => exact ih hlabel hend
  | link => cases hend
  | follow _ hlabel _ _ ih =>
    refine ih ?_ hend
    split
    · exact labelAt?_nil hplace
    · exact hplace

/-- A walk that ends at something ends there also when nothing is taken away, and one that ends
where something could be ends there when a file or a directory has been put there. -/
theorem of_keeps {place' : Place} (h : Leads root through links place names result)
    (keeps : Keeps root root')
    (hend : result = .present place' ∨ result = .vacant place' ∧
      (root'.labelAt? place' = some .directory ∨
        ∃ content, root'.labelAt? place' = some (.file content))) :
    Leads root' through links place names (.present place') := by
  induction h with
  | here links place =>
    rcases hend with hend | ⟨hend, -⟩
    · cases hend
      exact .here links _
    · cases hend
  | current _ ih => exact .current (ih hend)
  | parent _ ih => exact .parent (ih hend)
  | vacant hname =>
    rcases hend with hend | ⟨hend, hfilled⟩
    · cases hend
    · cases hend
      rcases hfilled with hlabel | ⟨content, hlabel⟩
      · exact .directory hname hlabel (.here _ _)
      · exact .file hname hlabel
  | file hname hlabel =>
    rcases hend with hend | ⟨hend, -⟩
    · cases hend
      obtain ⟨content, hlabel'⟩ := keeps.file hlabel
      exact .file hname hlabel'
    · cases hend
  | directory hname hlabel _ ih => exact .directory hname (keeps.directory hlabel) (ih hend)
  | link hname hlabel hthrough =>
    rcases hend with hend | ⟨hend, -⟩
    · cases hend
      exact .link hname (keeps.link hlabel) hthrough
    · cases hend
  | follow hname hlabel hgo _ ih => exact .follow hname (keeps.link hlabel) hgo (ih hend)

/-- Where a tree has no directories and links that another one has not, a walk that stops at a link
stops at it in the other one as well. -/
theorem of_link {place' : Place} {target : String}
    (h : Leads root' false links place names (.present place'))
    (hlink : root'.labelAt? place' = some (.link target))
    (hdirectories : ∀ {place}, root'.labelAt? place = some .directory →
      root.labelAt? place = some .directory)
    (hlinks : ∀ {place target}, root'.labelAt? place = some (.link target) →
      root.labelAt? place = some (.link target)) :
    Leads root false links place names (.present place') := by
  generalize hend : Lookup.present place' = result at h
  induction h with
  | here => exact .here _ _
  | current _ ih => exact .current (ih hend)
  | parent _ ih => exact .parent (ih hend)
  | vacant => cases hend
  | file _ hlabel =>
    cases hend
    rw [hlink] at hlabel
    cases hlabel
  | directory hname hlabel _ ih => exact .directory hname (hdirectories hlabel) (ih hend)
  | link hname hlabel hthrough =>
    cases hend
    exact .link hname (hlinks hlabel) hthrough
  | follow hname hlabel hgo _ ih => exact .follow hname (hlinks hlabel) hgo (ih hend)

end Leads

end ApiManual.FileTree
