import ApiManual.FilePath
import ApiManual.FileTree

/-!
Where a path leads. Symbolic links are followed, at the end of the path only when that is asked for.
A lookup may follow a limited number of links, so that it ends also where links lead in a circle.
-/
namespace ApiManual

inductive Lookup where
  /-- There is something. -/
  | present (place : Place)
  /-- There is nothing, but the directory above exists. -/
  | vacant (place : Place)
  /-- A directory on the way does not exist. -/
  | missing
  /-- The path is too long, passes through a file, or follows too many links. -/
  | barred
  deriving DecidableEq, Repr

namespace FileTree

def linkLimit : Nat := 40

def nameLimit : Nat := 255

def pathLimit : Nat := 4096

/-- The names that a path leads along. A slash at the end asks for a directory, as `.` does. -/
def trail (path : String) : List String :=
  let pieces := FilePath.pieces path
  if FilePath.isDirectoryPath path && !pieces.isEmpty then pieces ++ ["."] else pieces

/-- Follows names from a directory on. `through` says whether a link at the end is followed. -/
def walk (root : FileNode) (through : Bool) (links : Nat) (place : Place) (names : List String) :
    Lookup :=
  match names with
  | [] => .present place
  | name :: rest =>
    if name = "." then walk root through links place rest
    else if name = ".." then walk root through links place.dropLast rest
    else if nameLimit < name.utf8ByteSize then .barred
    else
      let next := place ++ [name]
      match root.get? next with
      | none => if rest.isEmpty then .vacant next else .missing
      | some (.file _) => if rest.isEmpty then .present next else .barred
      | some (.directory _) => walk root through links next rest
      | some (.link target) =>
        if rest.isEmpty && !through then .present next
        else
          match links with
          | 0 => .barred
          | links + 1 =>
            walk root through links (if FilePath.isAbsolute target then [] else place)
              (trail target ++ rest)
termination_by (links, names.length)

variable (tree : FileTree)

def start (path : String) : Place := if FilePath.isAbsolute path then [] else tree.current

def isWithinLimits (path : String) : Bool :=
  path.utf8ByteSize < pathLimit && !path.toList.contains '\x00'

def lookup (path : String) (through : Bool := true) : Lookup :=
  if path = "" then .missing
  else if !isWithinLimits path then .barred
  else walk tree.root through linkLimit (tree.start path) (trail path)

def node? (path : String) : Option FileNode :=
  match tree.lookup path with
  | .present place => tree.root.get? place
  | _ => none

def content? (path : String) : Option ByteArray :=
  match tree.node? path with
  | some (.file content) => some content
  | _ => none

def text? (path : String) : Option String := (tree.content? path).bind String.fromUTF8?

def isFile (path : String) : Bool := (tree.content? path).isSome

def isDirectory (path : String) : Bool :=
  match tree.node? path with
  | some (.directory _) => true
  | _ => false

end FileTree

end ApiManual
