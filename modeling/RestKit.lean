import RestKit.App.Router
import RestKit.Demo.Contacts
import RestKit.Net.Socket
import RestKit.Proofs.App.Registration
import RestKit.Proofs.App.Routable
import RestKit.Proofs.Auth.RoundTrip
import RestKit.Proofs.Body.Collection
import RestKit.Proofs.Body.Form
import RestKit.Proofs.Body.Validation
import RestKit.Proofs.Demo.Book
import RestKit.Proofs.Endpoint.FilterLimit
import RestKit.Proofs.Endpoint.Interrupted
import RestKit.Proofs.Endpoint.Order
import RestKit.Proofs.Endpoint.Policy
import RestKit.Proofs.Param.Reading
import RestKit.Proofs.Query.Acceptance
import RestKit.Proofs.Query.Built
import RestKit.Proofs.Query.Canonical
import RestKit.Proofs.Query.Dates
import RestKit.Proofs.Query.Disclosure
import RestKit.Proofs.Query.Faithful
import RestKit.Proofs.Query.FirstError
import RestKit.Proofs.Query.Given
import RestKit.Proofs.Query.Injection
import RestKit.Proofs.Query.Meaning
import RestKit.Proofs.Query.Merged
import RestKit.Proofs.Query.Projection
import RestKit.Proofs.Query.Recheck
import RestKit.Proofs.Query.Relations
import RestKit.Proofs.Query.Reread
import RestKit.Proofs.Query.Restored
import RestKit.Proofs.Query.Scopes
import RestKit.Proofs.Query.Shape
import RestKit.Proofs.Query.Strict
import RestKit.Proofs.RateLimit.Interleaving
import RestKit.Proofs.RateLimit.Keys
import RestKit.Proofs.RateLimit.Sweep
import RestKit.Proofs.Schema.Bounds
import RestKit.Proofs.Schema.Leaves
import RestKit.Proofs.Schema.Levels
import RestKit.Proofs.Schema.Memo
import RestKit.Proofs.Upload.Chunking
import RestKit.Proofs.Upload.FormSize
import RestKit.Proofs.Upload.StoredName
import RestKit.Sample.Handlers
import RestKit.Sample.Models
import RestKit.Sample.Parsers
import RestKit.Schema.Description
import RestKit.Proofs.Double.Nearest
