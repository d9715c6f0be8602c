import ApiManual.Distinct
import ApiManual.UriPath

/-!
How the paths of an interface nest. A path lies below the longest path of the interface that is a
proper initial part of it; it declares the parameters that its own part brings in and that none
above it declares.
-/
namespace ApiManual

open UriPath (Token)

/-- A path, the one that it lies below, what is written below that, and the parameters in there,
with their positions in the whole path. -/
structure Outline.Entry where
  path : String
  parent : Option String
  relativePath : String
  tokens : List Token
  deriving DecidableEq, Repr

structure Outline where
  entries : List Outline.Entry
  deriving DecidableEq, Repr

/-- A parameter and the path that declares it for all that lies below. -/
structure Declaration where
  owner : String
  token : Token
  deriving DecidableEq, Repr

namespace Declaration

def onPath? (declared : List Declaration) (path name : String) : Option Declaration :=
  declared.find? fun declaration => declaration.owner = path && declaration.token.name = name

/-- What is declared under a name by the first of some entries that declares it. -/
def onChain? (declared : List Declaration) (entries : List Outline.Entry) (name : String) :
    Option Declaration :=
  entries.findSome? fun entry => onPath? declared entry.path name

end Declaration

namespace Outline

/-- The longer one of two paths, and the second one if both have as many segments. -/
def longer (best : Option String) (path : String) : Option String :=
  match best with
  | none => some path
  | some other =>
    if UriPath.segmentCount other ≤ UriPath.segmentCount path then some path else some other

def parentAmong (paths : List String) (path : String) : Option String :=
  (paths.filter (UriPath.isProperPrefix · path)).foldl longer none

def Entry.ofPath (paths : List String) (path : String) : Entry :=
  match parentAmong paths path with
  | none => ⟨path, none, path, UriPath.parameters path⟩
  | some parent =>
    let relativePath := UriPath.relativeTo parent path
    let offset := UriPath.segmentCount parent
    ⟨path, some parent, relativePath,
      (UriPath.parameters relativePath).map fun token =>
        { token with position := offset + token.position }⟩

def ofPaths (paths : List String) : Outline :=
  let paths := distinct paths
  ⟨paths.map (Entry.ofPath paths)⟩

def entryAt? (outline : Outline) (path : String) : Option Entry :=
  outline.entries.find? (·.path = path)

def below (outline : Outline) (parent : Option String) : List Entry :=
  outline.entries.filter (·.parent = parent)

/-- The entries of a path and of all paths that it lies below, innermost first. The fuel is their
number. -/
def chainFrom (outline : Outline) : Nat → Option String → List Entry
  | 0, _ => []
  | _, none => []
  | fuel + 1, some path =>
    match outline.entryAt? path with
    | none => []
    | some entry => entry :: outline.chainFrom fuel entry.parent

def chain (outline : Outline) (path : String) : List Entry :=
  outline.chainFrom outline.entries.length (some path)

/-- The entries that wait to be visited, each one followed by all that lie below it. The fuel is the
number of steps. -/
def visit (outline : Outline) : Nat → List Entry → List Entry
  | 0, _ => []
  | _, [] => []
  | fuel + 1, entry :: pending =>
    entry :: outline.visit fuel (outline.below (some entry.path) ++ pending)

def preOrder (outline : Outline) : List Entry :=
  outline.visit outline.entries.length (outline.below none)

end Outline

end ApiManual
