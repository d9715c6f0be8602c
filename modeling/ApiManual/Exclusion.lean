import ApiManual.Pattern.Meaning

/-! Patterns for paths that are left out. -/
namespace ApiManual

/-- A text is no pattern, or one that would take too much room. -/
structure InvalidPattern where
  pattern : String
  deriving DecidableEq, Repr

def InvalidPattern.message (error : InvalidPattern) : String :=
  "invalid exclusion pattern " ++ error.pattern

structure ExclusionSet where
  expressions : List Regex := []
  deriving DecidableEq, Repr

namespace ExclusionSet

/-- The text of a pattern between anchors for the beginning and the end of a path. -/
def anchored (pattern : String) : List Char := "^(?:".toList ++ pattern.toList ++ ")$".toList

def compile (pattern : String) : Except InvalidPattern Regex :=
  match Pattern.ofChars? (anchored pattern) >>= Pattern.regex? {} with
  | some (expression, _) =>
    if expression.cost ≤ Regex.costLimit then .ok expression else .error ⟨pattern⟩
  | none => .error ⟨pattern⟩

def ofPatterns (patterns : List String) : Except InvalidPattern ExclusionSet :=
  (patterns.mapM compile).map ExclusionSet.mk

def isEmpty (set : ExclusionSet) : Bool := set.expressions.isEmpty

def isExcluded (set : ExclusionSet) (path : String) : Bool :=
  set.expressions.any (·.matchesIn path.toList)

end ExclusionSet

end ApiManual
