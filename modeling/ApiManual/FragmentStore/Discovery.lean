import ApiManual.FragmentStore

/-!
The search for fragment files below directories. Symbolic links are followed. A link to a directory
that the search is inside of would lead in a circle; it ends the search.
-/
namespace ApiManual.FragmentStore

def asFragment (path : String) : List String := if isFragmentPath path then [path] else []

mutual

/-- The fragment files at a path, which leads to a node at a place. The search is inside of those
directories that `closed` leaves out. -/
def searchNode (tree : FileTree) (closed : List Place) (path : String) (place : Place)
    (node : FileNode) : Except Inaccessible (List String) :=
  match node with
  | .file _ => .ok (asFragment path)
  | .directory entries => searchEntries tree (closed.erase place) path place entries
  | .link _ =>
    match tree.lookup path with
    | .present target =>
      match tree.root.get? target with
      | some (.directory entries) =>
        if target ∈ closed then searchEntries tree (closed.erase target) path target entries
        else .error ⟨path⟩
      | _ => .ok (asFragment path)
    | _ => .error ⟨path⟩
termination_by (closed.length, sizeOf node)
decreasing_by
  · rcases Nat.lt_or_eq_of_le (List.length_erase_le (a := place) (l := closed)) with h | h
    · exact Prod.Lex.left _ _ h
    · rw [h]
      exact Prod.Lex.right _ (by simp)
  · next h =>
    have := List.length_pos_of_mem h
    exact Prod.Lex.left _ _ (by rw [List.length_erase_of_mem h]; omega)

def searchEntries (tree : FileTree) (closed : List Place) (path : String) (place : Place)
    (entries : List (String × FileNode)) : Except Inaccessible (List String) :=
  match entries with
  | [] => .ok []
  | (name, node) :: rest => do
    let found ← searchNode tree closed (FilePath.join path name) (place ++ [name]) node
    return found ++ (← searchEntries tree closed path place rest)
termination_by (closed.length, sizeOf entries)

end

/-- The fragment files at a root of the search. A root that is a file is one whatever its name. -/
def searchRoot (tree : FileTree) (root : String) : Except Inaccessible (List String) :=
  if tree.isFile root then .ok [root]
  else
    match tree.lookup root false with
    | .present place =>
      match tree.root.get? place with
      | some node => searchNode tree (tree.root.directories []) root place node
      | none => .error ⟨root⟩
    | _ => .error ⟨root⟩

def discover (tree : FileTree) (roots : List String) : Except Inaccessible (List String) :=
  (roots.mapM (searchRoot tree)).map fun found => FilePath.inOrder found.flatten

def load (tree : FileTree) (roots : List String) : Except LoadError (List Fragment) := do
  let paths ← (discover tree roots).mapError .inaccessible
  paths.mapM (read tree)

end ApiManual.FragmentStore
