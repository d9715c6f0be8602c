import ApiManual.Draft
import ApiManual.UriPath

/-! Drafts without what is not to be documented. -/
namespace ApiManual.Draft

/-- Brings the paths of an endpoint into normal form and leaves out those that are excluded. An
endpoint without a path is none. -/
def keepPaths (excluded : String → Bool) (sourced : SourcedEndpoint) : Option SourcedEndpoint :=
  let paths := (distinct (sourced.endpoint.paths.map UriPath.normalize)).filter (!excluded ·)
  if paths.isEmpty then none
  else some { sourced with endpoint := { sourced.endpoint with paths } }

def withoutExcluded (excluded : String → Bool) (draft : Draft) : Draft :=
  { draft with endpoints := draft.endpoints.filterMap (keepPaths excluded) }

def withinScope (scope : Scope) (draft : Draft) : Draft :=
  { draft with endpoints := draft.endpoints.filter (·.endpoint.isInScope scope) }

end ApiManual.Draft
