import ApiManual.Text.Fields

/-!
Paths in a file tree, as texts. Two texts that differ only in repeated slashes, in slashes at the
end or in steps `.` after the first one have the same steps; paths are compared and put in order by
their steps.
-/
namespace ApiManual.FilePath

inductive Step where
  | root
  | current
  | parent
  | name (text : String)
  deriving DecidableEq, Repr

def pieces (path : String) : List String :=
  ((Text.fields '/' path.toList).filter (· ≠ [])).map String.ofList

def isAbsolute (path : String) : Bool := path.toList.head? = some '/'

def isDirectoryPath (path : String) : Bool := path.toList.getLast? = some '/'

def stepOf (piece : String) : Step := if piece = ".." then .parent else .name piece

/-- The steps of a path. A step `.` counts only where a relative path begins with it. -/
def steps (path : String) : List Step :=
  let named := ((pieces path).filter (· ≠ ".")).map stepOf
  if isAbsolute path then .root :: named
  else if (pieces path).head? = some "." then .current :: named
  else named

/-- Steps in order: the root, `.`, `..` and then the names by their code points, which is the order
of their UTF-8 bytes. -/
def Step.key : Step → List Nat
  | root => [0]
  | current => [1]
  | parent => [2]
  | name text => 3 :: text.toList.map Char.toNat

def key (path : String) : List (List Nat) := (steps path).map Step.key

def isAtMost (first second : String) : Bool :=
  !(key second).lex (key first) fun step step' => step.lex step' (· < ·)

/-- Leaves out the paths that have the steps of the one before them. -/
def withoutRepeats : List String → List String
  | [] => []
  | path :: rest =>
    match withoutRepeats rest with
    | [] => [path]
    | next :: others => if steps next = steps path then path :: others else path :: next :: others

/-- The paths in order. Of several with the same steps the first one stays, as it is spelled. -/
def inOrder (paths : List String) : List String := withoutRepeats (paths.mergeSort isAtMost)

def fileName? (path : String) : Option String :=
  match (steps path).getLast? with
  | some (.name text) => some text
  | _ => none

def join (directory path : String) : String :=
  if isAbsolute path then path
  else if directory = "" || isDirectoryPath directory then directory ++ path
  else directory ++ "/" ++ path

end ApiManual.FilePath
