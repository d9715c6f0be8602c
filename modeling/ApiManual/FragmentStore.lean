import ApiManual.FileTree.Change
import ApiManual.Fragment.Codec

/-!
Fragments in files. The fragment of a unit lies in the directory `restdoc` of a build directory, in
a file that is named for the unit.
-/
namespace ApiManual

structure Inaccessible where
  path : String
  deriving DecidableEq, Repr

def Inaccessible.message (error : Inaccessible) : String := "failed to access " ++ error.path

inductive LoadError where
  | inaccessible (cause : Inaccessible)
  | malformed (cause : Fragment.Malformed)
  deriving DecidableEq, Repr

def LoadError.message : LoadError → String
  | inaccessible cause => cause.message
  | malformed cause => cause.message

namespace FragmentStore

def suffix : String := ".restdoc.json"

def directory (buildDirectory : String) : String := FilePath.join buildDirectory "restdoc"

def flatName (unit : String) : String :=
  unit.map fun c => if c = '/' || c = '\\' || c = ':' then '.' else c

def path (buildDirectory unit : String) : String :=
  FilePath.join (directory buildDirectory) (flatName unit ++ suffix)

def isFragmentPath (path : String) : Bool :=
  match FilePath.fileName? path with
  | some name => suffix.toList.isSuffixOf name.toList
  | none => false

def read (tree : FileTree) (path : String) : Except LoadError Fragment :=
  match tree.text? path with
  | none => .error (.inaccessible ⟨path⟩)
  | some text => (Fragment.load text path).mapError .malformed

def save (tree : FileTree) (buildDirectory unit : String) (fragment : Fragment) :
    FileTree × Except Inaccessible String :=
  let directory := directory buildDirectory
  let path := path buildDirectory unit
  match tree.makeDirectories directory with
  | (tree, false) => (tree, .error ⟨directory⟩)
  | (tree, true) =>
    match tree.write? path fragment.toText.toUTF8 with
    | some tree => (tree, .ok path)
    | none => (tree, .error ⟨path⟩)

end FragmentStore

end ApiManual
