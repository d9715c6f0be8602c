import ApiManual.FileTree.Lookup

/-! Making directories, links and files. -/
namespace ApiManual.FileTree

def put (tree : FileTree) (place : Place) (node : FileNode) : FileTree :=
  { tree with root := tree.root.put place node }

/-- Writes a file, in place of the one that the path leads to. `none` says that it cannot be. -/
def write? (tree : FileTree) (path : String) (content : ByteArray) : Option FileTree :=
  match tree.lookup path with
  | .present place =>
    match tree.root.get? place with
    | some (.file _) => some (tree.put place (.file content))
    | _ => none
  | .vacant place => some (tree.put place (.file content))
  | _ => none

/-- Makes a symbolic link, unless there is something where it would be. -/
def link? (tree : FileTree) (path target : String) : Option FileTree :=
  match tree.lookup path false with
  | .vacant place => some (tree.put place (.link target))
  | _ => none

inductive Making where
  | made (tree : FileTree)
  /-- The directory above does not exist. -/
  | missing
  | refused

def makeOne (tree : FileTree) (start : Place) (names : List String) : Making :=
  match walk tree.root false linkLimit start names with
  | .vacant place => .made (tree.put place (.directory []))
  | .missing => .missing
  | _ => .refused

def isDirectoryAt (tree : FileTree) (start : Place) (names : List String) : Bool :=
  match walk tree.root true linkLimit start names with
  | .present place =>
    match tree.root.get? place with
    | some (.directory _) => true
    | _ => false
  | _ => false

/-- Makes a directory and those above it that do not exist, where `above` lists the names of the
directory above, the last one first. The answer says whether the directory is there now. -/
def makeAll (tree : FileTree) (start : Place) (names above : List String) : FileTree × Bool :=
  match tree.makeOne start names with
  | .made tree => (tree, true)
  | .refused => (tree, tree.isDirectoryAt start names)
  | .missing =>
    let (tree, done) := match above with
      | [] => (tree, true)
      | last :: rest => makeAll tree start (last :: rest).reverse rest
    if !done then (tree, false)
    else
      match tree.makeOne start names with
      | .made tree => (tree, true)
      | _ => (tree, tree.isDirectoryAt start names)
termination_by structural above

def significantNames (path : String) : List String :=
  (FilePath.pieces path).filter (· ≠ ".")

/-- Makes the directory at a path and those above it that do not exist. The answer says whether it
is there now; directories that could be made stay even when it is not. -/
def makeDirectories (tree : FileTree) (path : String) : FileTree × Bool :=
  if path = "" then (tree, true)
  else if !isWithinLimits path then (tree, false)
  else tree.makeAll (tree.start path) (FilePath.pieces path)
    (significantNames path).dropLast.reverse

end ApiManual.FileTree
