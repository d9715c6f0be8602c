import ApiManual.Main
import ApiManual.Proofs.Merge.Hidden
import ApiManual.Proofs.Merge.Narrowing
import ApiManual.Proofs.Merge.Precedence
import ApiManual.Proofs.Merge.Reordering
import ApiManual.TypeRegistry.Expansion
import ApiManual.Proofs.Merge.Isolation
import ApiManual.Proofs.TypeRegistry.Recursion
import ApiManual.Proofs.TypeRegistry.Stack
import ApiManual.Proofs.TypeRegistry.Reference
import ApiManual.Proofs.Json.Record
import ApiManual.Proofs.TypeNode.RoundTrip
import ApiManual.Proofs.Endpoint.RoundTrip
import ApiManual.Proofs.Fragment.RoundTrip
import ApiManual.Proofs.Schema.Reference
import ApiManual.Proofs.Assembly.Naming
import ApiManual.Proofs.Assembly.Outcome
import ApiManual.Proofs.Yaml.Mapping
import ApiManual.Proofs.Merge.Siblings
import ApiManual.Proofs.Raml.Reading
import ApiManual.Proofs.Raml.Uri
import ApiManual.Proofs.Render.Registry
import ApiManual.Proofs.Merge.Extension
import ApiManual.Proofs.Html.Document
import ApiManual.Proofs.Publication.Outcome
import ApiManual.Proofs.Template.Escape
import ApiManual.Proofs.TypeNode.References
import ApiManual.Proofs.TypeRegistry.Reachability
import ApiManual.Proofs.TypeRegistry.Use
import ApiManual.Proofs.TypeRegistry.Cycle
import ApiManual.Proofs.Merge.Documentation
import ApiManual.Proofs.Merge.Usage
import ApiManual.Proofs.UriPath.NormalForm
import ApiManual.Proofs.Merge.Repetition
import ApiManual.Proofs.Yaml.Reading
import ApiManual.Proofs.Raml.Security
import ApiManual.Proofs.Merge.Spelling
import ApiManual.Proofs.UriPath.Below
import ApiManual.Proofs.Merge.Listing
import ApiManual.Proofs.Merge.Linking
import ApiManual.Proofs.FragmentStore.Saving
import ApiManual.Proofs.Exclusion
import ApiManual.Proofs.Merge.Traversal
