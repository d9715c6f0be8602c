import ApiManual.Program

/-!
The program. It copies the files that a command line concerns into a file tree, runs on that tree,
and writes back what has changed.
-/
namespace ApiManual.Main

/-- How much of a directory is copied. -/
inductive Extent where
  /-- Nothing that is in it. -/
  | itself
  /-- The names in it, and what kind of thing they are. -/
  | listing
  /-- All that is in it, with the contents of fragment files. -/
  | everything
  deriving DecidableEq

def textOf (place : Place) : String := "/" ++ "/".intercalate place

def pathOf (place : Place) := System.mkFilePath [textOf place]

def kindAt (place : Place) : IO (Option IO.FS.FileType) := do
  try return some (← (pathOf place).symlinkMetadata).type catch _ => return none

def targetOf (place : Place) : IO (Option Place) := do
  try return some (FilePath.pieces (← IO.FS.realPath (pathOf place)).toString)
  catch _ => return none

/-- What cannot be read is copied as a link to itself, which leads nowhere. -/
def unreadable (place : Place) : FileNode := .link (textOf place)

def readNode (place : Place) : IO FileNode := do
  try return .file (← IO.FS.readBinFile (pathOf place)) catch _ => return unreadable place

def namesIn (place : Place) : IO (List String) := do
  try return (← (pathOf place).readDir).toList.map (·.fileName) catch _ => return []

def withDirectory (tree : FileTree) (place : Place) : FileTree :=
  (tree.makeDirectories (textOf place)).1

structure Copy where
  tree : FileTree
  complete : List Place := []

mutual

/-- Copies what is at a place, in a directory that was copied. -/
partial def copyNode (copy : Copy) (place : Place) (extent : Extent) (read : Bool) : IO Copy := do
  match ← kindAt place with
  | some .dir => copyDirectory copy place extent
  | some .symlink =>
    match ← targetOf place with
    | none => return { copy with tree := copy.tree.put place (unreadable place) }
    | some target =>
      let copy := { copy with tree := withDirectory copy.tree target.dropLast }
      let copy ← copyNode copy target extent read
      return { copy with tree := copy.tree.put place (.link (textOf target)) }
  | some _ =>
    if read then return { copy with tree := copy.tree.put place (← readNode place) }
    else
      match copy.tree.root.get? place with
      | some _ => return copy
      | none => return { copy with tree := copy.tree.put place (.file .empty) }
  | none => return copy

partial def copyDirectory (copy : Copy) (place : Place) (extent : Extent) : IO Copy := do
  let mut copy := { copy with tree := withDirectory copy.tree place }
  if extent = .itself || copy.complete.contains place then return copy
  if extent = .everything then copy := { copy with complete := place :: copy.complete }
  for name in ← namesIn place do
    let inner := if extent = .everything then Extent.everything else .itself
    copy ← copyNode copy (place ++ [name]) inner
      (extent = .everything && FragmentStore.isFragmentPath name)
  return copy

end

/-- Copies what a path leads along, and what it leads to. -/
partial def copyAlong (copy : Copy) (place : Place) (names : List String) (extent : Extent) :
    IO Copy := do
  match names with
  | [] => copyNode copy place extent true
  | "." :: rest => copyAlong copy place rest extent
  | ".." :: rest => copyAlong copy place.dropLast rest extent
  | name :: rest =>
    let next := place ++ [name]
    let copy ← copyNode copy next .itself rest.isEmpty
    match ← kindAt next with
    | some .dir => copyAlong copy next rest extent
    | some .symlink =>
      match ← targetOf next with
      | some target => copyAlong copy target rest extent
      | none => return copy
    | _ => return copy

def copyPath (copy : Copy) (path : String) (extent : Extent) : IO Copy :=
  copyAlong copy (copy.tree.start path) (FilePath.pieces path) extent

def folderOf (path : String) : String :=
  String.ofList (path.toList.reverse.dropWhile (· ≠ '/')).reverse

def concerned (options : Options) : IO FileTree := do
  let current := FilePath.pieces (← IO.FS.realPath (System.mkFilePath ["."])).toString
  let start : Copy := { tree := withDirectory { current } current }
  let path := options.configuration.getD Configuration.defaultPath
  let mut copy ← copyPath start path .itself
  match Configuration.load copy.tree options.configuration with
  | .error _ => return copy.tree
  | .ok configuration =>
    let settings := AssemblySettings.resolve options configuration
    for input in settings.selection.inputs do
      copy ← copyPath copy input .everything
    copy ← copyPath copy (folderOf (FilePath.join settings.output settings.name)) .listing
    return copy.tree

def writeChanges (before after : FileTree) : IO Unit := do
  let oldDirectories := before.root.directories []
  for place in after.root.directories [] do
    if !oldDirectories.contains place then IO.FS.createDirAll (pathOf place)
  let oldFiles := before.root.files []
  for (place, content) in after.root.files [] do
    if !oldFiles.any fun (old, oldContent) => old = place && oldContent.data = content.data then
      IO.FS.writeBinFile (pathOf place) content

end ApiManual.Main

def main (arguments : List String) : IO UInt32 := do
  let tree ← match ApiManual.CommandLine.request arguments with
    | .ok (.run _ options) => ApiManual.Main.concerned options
    | _ => pure {}
  let outcome := ApiManual.Program.run tree arguments
  ApiManual.Main.writeChanges tree outcome.tree
  IO.print outcome.output
  if let some complaint := outcome.complaint then IO.eprintln complaint
  return outcome.exitCode
