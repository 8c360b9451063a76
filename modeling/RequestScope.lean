import RequestScope.Failure
import RequestScope.Form.ResetPassword
import RequestScope.Form.RoleUpdate
import RequestScope.Form.Submission
import RequestScope.Identifier
import RequestScope.Json.Reader
import RequestScope.Json.Record
import RequestScope.Proofs.Context.Aliasing
import RequestScope.Proofs.Context.Beginning
import RequestScope.Proofs.Context.Erasure
import RequestScope.Proofs.Context.Snapshots
import RequestScope.Proofs.Extent.Accounts
import RequestScope.Proofs.Extent.Events
import RequestScope.Proofs.Extent.Forking
import RequestScope.Proofs.Extent.Lending
import RequestScope.Proofs.Extent.Restoration
import RequestScope.Proofs.Extent.Sequence
import RequestScope.Proofs.Extent.Wrapping
import RequestScope.Proofs.Form.Details
import RequestScope.Proofs.Form.Gate
import RequestScope.Proofs.Form.Secrecy
import RequestScope.Proofs.Form.Serialization
import RequestScope.Proofs.Form.Storage
import RequestScope.Proofs.Form.WireNames
import RequestScope.Proofs.Http.Headers
import RequestScope.Proofs.Http.Identifiers
import RequestScope.Proofs.Http.Spelling
import RequestScope.Proofs.Json.Strings
import RequestScope.Proofs.Service.Around
import RequestScope.Proofs.Service.Browsers
import RequestScope.Proofs.Service.Extractors
import RequestScope.Proofs.Service.Hops
import RequestScope.Proofs.Service.Isolation
import RequestScope.Proofs.Service.NormalPaths
import RequestScope.Proofs.Service.SafeEcho
import RequestScope.Proofs.Service.Sharing
import RequestScope.Proofs.Service.Snapshot
import RequestScope.Proofs.Service.TextAccess
import RequestScope.Proofs.Service.Untrusted
import RequestScope.Proofs.Settings.HeaderNames
import RequestScope.Proofs.Settings.Keywords
import RequestScope.Proofs.Settings.Layering
import RequestScope.Proofs.Settings.Reading
import RequestScope.Proofs.Settings.StartUp
import RequestScope.Proofs.Text.Unsigned
import RequestScope.Script.Report
import RequestScope.Service.Site
import RequestScope.Settings.Context
import RequestScope.Settings.EnvFile
import RequestScope.Settings.Server
import RequestScope.Text.Alphanumeric
import RequestScope.Text.Unsigned
