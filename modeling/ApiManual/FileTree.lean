/-!
A tree of files, directories and symbolic links, and the directory in it that relative paths begin
in. A place in the tree is the list of the names that lead to it from the root.
-/
namespace ApiManual

inductive FileNode where
  | file (content : ByteArray)
  | link (target : String)
  | directory (entries : List (String × FileNode))
  deriving Inhabited

abbrev Place := List String

namespace FileNode

/-- What is at a place. Links are not followed. -/
def get? : FileNode → Place → Option FileNode
  | node, [] => some node
  | directory entries, name :: rest => (entries.lookup name).bind (get? · rest)
  | _, _ :: _ => none

def putEntry (name : String) (node : FileNode) : List (String × FileNode) → List (String × FileNode)
  | [] => [(name, node)]
  | (other, old) :: rest =>
    if other = name then (name, node) :: rest else (other, old) :: putEntry name node rest

def put (node : FileNode) (place : Place) (new : FileNode) : FileNode :=
  match node, place with
  | _, [] => new
  | directory entries, name :: rest =>
    match entries.lookup name with
    | some child => directory (putEntry name (put child rest new) entries)
    | none => directory (if rest.isEmpty then putEntry name new entries else entries)
  | node, _ :: _ => node

mutual

def directories (place : Place) : FileNode → List Place
  | directory entries => place :: directoriesAmong place entries
  | _ => []

def directoriesAmong (place : Place) : List (String × FileNode) → List Place
  | [] => []
  | (name, node) :: rest => directories (place ++ [name]) node ++ directoriesAmong place rest

end

mutual

def files (place : Place) : FileNode → List (Place × ByteArray)
  | file content => [(place, content)]
  | link _ => []
  | directory entries => filesAmong place entries

def filesAmong (place : Place) : List (String × FileNode) → List (Place × ByteArray)
  | [] => []
  | (name, node) :: rest => files (place ++ [name]) node ++ filesAmong place rest

end

end FileNode

structure FileTree where
  root : FileNode := .directory []
  current : Place := []
  deriving Inhabited

end ApiManual
