import ApiManual.Draft
import ApiManual.Outline
import ApiManual.View

/-!
The view of a draft. A path declares a parameter once, no method is documented twice on one path,
and all endpoints that list the allowed values of a parameter list the same ones.
-/
namespace ApiManual

inductive Ambiguity where
  | declaredAbove (position : Nat) (owner : String)
  | repeated
  | allowedValues (stated : List String) (earlier : List String)
  deriving DecidableEq, Repr

inductive ResolutionError where
  | ambiguousParameter (name path grouping : String) (reason : Ambiguity)
  | duplicateOperation (method : HttpMethod) (path grouping first second : String)
  deriving DecidableEq, Repr

structure Mount where
  path : String
  sourced : SourcedEndpoint
  deriving DecidableEq, Repr

structure Statement where
  owner : String
  parameter : Parameter
  deriving DecidableEq, Repr

namespace Draft

def mounts (draft : Draft) : List Mount :=
  draft.endpoints.flatMap fun sourced => sourced.endpoint.paths.map (⟨·, sourced⟩)

def outline (draft : Draft) : Outline := .ofPaths (draft.mounts.map (·.path))

end Draft

/-- What a mount says about declared parameters of its path. A parameter that the path does not have
is passed over. -/
def Mount.statements (outline : Outline) (declared : List Declaration) (mount : Mount) :
    List Statement :=
  mount.sourced.endpoint.pathParameters.filterMap fun parameter =>
    (Declaration.onChain? declared (outline.chain mount.path) parameter.name).map
      (⟨·.owner, parameter⟩)

/-- Adds what an endpoint says about a declared parameter; what was said before stays. -/
def UriParameter.document (declared : UriParameter) (parameter : Parameter) : UriParameter :=
  { declared with
    description := match filled? declared.description, filled? parameter.description with
      | none, some description => some description
      | _, _ => declared.description
    type := match declared.type with
      | none => parameter.type
      | some type => some type
    allowedValues := match declared.allowedValues, listed? parameter.allowedValues with
      | none, some values => some values
      | _, _ => declared.allowedValues }

namespace Statement

def about (owner name : String) (statements : List Statement) : List Statement :=
  statements.filter fun statement => statement.owner = owner && statement.parameter.name = name

def allowedValues? (statement : Statement) : Option (List String) :=
  listed? statement.parameter.allowedValues

def summarize (declaration : Declaration) (statements : List Statement) : UriParameter :=
  (about declaration.owner declaration.token.name statements).foldl
    (fun declared statement => declared.document statement.parameter)
    { name := declaration.token.name, position := declaration.token.position }

end Statement

namespace Resolution

/-- Declares the parameters that a path brings in, in addition to those `declared` before. One
that is declared above for the same segment is passed over. -/
def declareTokens (grouping : String) (outline : Outline) (entry : Outline.Entry) :
    List Declaration → List UriPath.Token → Except ResolutionError (List Declaration)
  | declared, [] => .ok declared
  | declared, token :: rest =>
    match Declaration.onChain? declared ((outline.chain entry.path).drop 1) token.name with
    | some above =>
      if above.token.position = token.position then
        declareTokens grouping outline entry declared rest
      else .error (.ambiguousParameter token.name entry.path grouping
        (.declaredAbove above.token.position above.owner))
    | none =>
      if (Declaration.onPath? declared entry.path token.name).isSome then
        .error (.ambiguousParameter token.name entry.path grouping .repeated)
      else declareTokens grouping outline entry (declared ++ [⟨entry.path, token⟩]) rest

def declare (grouping : String) (outline : Outline) :
    Except ResolutionError (List Declaration) :=
  outline.preOrder.foldlM
    (fun declared entry => declareTokens grouping outline entry declared entry.tokens) []

/-- Checks the allowed values of statements against the first that came before them. -/
def checkStatements (grouping : String) :
    List Statement → List Statement → Except ResolutionError Unit
  | _, [] => .ok ()
  | earlier, statement :: rest =>
    let name := statement.parameter.name
    let declared :=
      (Statement.about statement.owner name earlier).findSome? Statement.allowedValues?
    match statement.allowedValues?, declared with
    | some stated, some declared =>
      if stated = declared then checkStatements grouping (earlier ++ [statement]) rest
      else .error (.ambiguousParameter name statement.owner grouping
        (.allowedValues stated declared))
    | _, _ => checkStatements grouping (earlier ++ [statement]) rest

def checkOperation (grouping : String) (earlier : List Mount) (mount : Mount) :
    Except ResolutionError Unit :=
  let method := mount.sourced.endpoint.method
  match earlier.find? fun other =>
      other.path = mount.path && other.sourced.endpoint.method = method with
  | some first =>
    .error (.duplicateOperation method mount.path grouping first.sourced.origin
      mount.sourced.origin)
  | none => .ok ()

def checkMounts (grouping : String) (statements : Mount → List Statement) :
    List Mount → List Mount → Except ResolutionError Unit
  | _, [] => .ok ()
  | earlier, mount :: rest => do
    checkOperation grouping earlier mount
    checkStatements grouping (earlier.flatMap statements) (statements mount)
    checkMounts grouping statements (earlier ++ [mount]) rest

/-- The resources below a path, or those below none. The fuel bounds their nesting. -/
def resources (outline : Outline) (declared : List Declaration) (mounts : List Mount)
    (statements : List Statement) : Nat → Option String → List Resource
  | 0, _ => []
  | fuel + 1, parent => (outline.below parent).map fun entry => {
      path := entry.path
      relativePath := entry.relativePath
      uriParameters :=
        (declared.filter (·.owner = entry.path)).map (Statement.summarize · statements)
      methods := (mounts.filter (·.path = entry.path)).map fun mount => {
        endpoint := mount.sourced.endpoint
        traits := mount.sourced.endpoint.traits.foldl pushNew []
        origin := mount.sourced.origin }
      children := resources outline declared mounts statements fuel (some entry.path) }

/-- Traits are sorted by their rank, those that have none by the largest index. -/
def place (tag : StabilityTrait) : Nat := tag.rank?.getD 18446744073709551615

def insertTrait (tag : StabilityTrait) : List StabilityTrait → List StabilityTrait
  | [] => [tag]
  | other :: rest =>
    if place tag ≤ place other then tag :: other :: rest else other :: insertTrait tag rest

/-- The known traits among those used, and then the others as they are first used. -/
def declaredTraits (used : List StabilityTrait) : List StabilityTrait :=
  (used.foldl pushNew []).foldr insertTrait []

/-- Adds the scopes of a requirement to its scheme, which comes to the end if it is a new one. -/
def addRequirement (schemes : List SecurityScheme) (requirement : Security) :
    List SecurityScheme :=
  let withScopes (scheme : SecurityScheme) : SecurityScheme :=
    { scheme with scopes := requirement.scopes.foldl pushNew scheme.scopes }
  match schemes.findIdx? (·.name = requirement.scheme) with
  | some position => schemes.modify position withScopes
  | none => schemes ++ [withScopes ⟨requirement.scheme, []⟩]

def securitySchemes (requirements : List Security) : List SecurityScheme :=
  requirements.foldl addRequirement []

end Resolution

def Draft.view (draft : Draft) (declared : List Declaration) : ApiView :=
  let statements := draft.mounts.flatMap (Mount.statements draft.outline declared)
  let endpoints := draft.endpoints.map (·.endpoint)
  { id := draft.id
    title := (filled? draft.title <|> draft.id).getD "API"
    version := filled? draft.version
    basePath := filled? draft.basePath
    documentation := draft.documentation
    resources := Resolution.resources draft.outline declared draft.mounts statements
      draft.outline.entries.length none
    traits := Resolution.declaredTraits (endpoints.flatMap (·.traits))
    securitySchemes := Resolution.securitySchemes (endpoints.filterMap (·.security))
    origins := draft.origins }

/-- The view of a draft whose paths are in normal form, or the first thing that is wrong with it. -/
def Draft.resolve (draft : Draft) : Except ResolutionError ApiView := do
  let declared ← Resolution.declare draft.label draft.outline
  Resolution.checkMounts draft.label (Mount.statements draft.outline declared) [] draft.mounts
  return draft.view declared

end ApiManual
