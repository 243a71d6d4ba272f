import RegistryProxy.Binary64.Basic
import RegistryProxy.Binary64.Decimal
import RegistryProxy.Certificate.Armor
import RegistryProxy.Certificate.Element
import RegistryProxy.Certificate.Form
import RegistryProxy.Client.Basic
import RegistryProxy.Client.Download
import RegistryProxy.Client.Metadata
import RegistryProxy.Client.Network
import RegistryProxy.Client.Outbound
import RegistryProxy.Client.Proxy
import RegistryProxy.Client.Search
import RegistryProxy.Dict
import RegistryProxy.Duration
import RegistryProxy.Error
import RegistryProxy.Http.Headers
import RegistryProxy.Interval
import RegistryProxy.Json.Basic
import RegistryProxy.Json.Fields
import RegistryProxy.Json.Parser
import RegistryProxy.Json.Printer
import RegistryProxy.Log
import RegistryProxy.Package.Basic
import RegistryProxy.Package.Document
import RegistryProxy.Package.Edit
import RegistryProxy.Package.Latest
import RegistryProxy.Package.Merge
import RegistryProxy.Package.Name
import RegistryProxy.Proofs.Client.Admission
import RegistryProxy.Proofs.Client.Poll
import RegistryProxy.Proofs.Client.Address
import RegistryProxy.Proofs.Client.Apart
import RegistryProxy.Proofs.Client.Revisit
import RegistryProxy.Proofs.Client.Way
import RegistryProxy.Proofs.Interval.Exactness
import RegistryProxy.Proofs.Package.Authority
import RegistryProxy.Proofs.Package.Convergence
import RegistryProxy.Proofs.Package.Dangling
import RegistryProxy.Proofs.Package.Latest
import RegistryProxy.Proofs.Package.Passage
import RegistryProxy.Proofs.Package.Redelivery
import RegistryProxy.Proofs.Package.Segment
import RegistryProxy.Proofs.Search.Chunking
import RegistryProxy.Proofs.Search.Listing
import RegistryProxy.Proofs.Search.Protocol
import RegistryProxy.Proofs.Search.Retention
import RegistryProxy.Proofs.Store.Commit
import RegistryProxy.Proofs.Store.Custody
import RegistryProxy.Proofs.Store.Delivery
import RegistryProxy.Proofs.Store.Errand
import RegistryProxy.Proofs.Store.Reservation
import RegistryProxy.Proofs.Store.Residue
import RegistryProxy.Proofs.Store.Serial
import RegistryProxy.Proofs.Transfer.Blob
import RegistryProxy.Proofs.Transfer.Channel
import RegistryProxy.Proofs.Transfer.Dialogue
import RegistryProxy.Proofs.Transfer.Outcome
import RegistryProxy.Proofs.Transfer.Protocol
import RegistryProxy.Proofs.Uplink.Recovery
import RegistryProxy.Proofs.Uplink.Suffixes
import RegistryProxy.Proofs.Uplink.Warnings
import RegistryProxy.Proofs.Version.Canonical
import RegistryProxy.Proofs.Version.Semver
import RegistryProxy.Proofs.Version.Sorting
import RegistryProxy.Search.Result
import RegistryProxy.Search.Results
import RegistryProxy.Search.Scanner
import RegistryProxy.Store.Basic
import RegistryProxy.Store.Locks
import RegistryProxy.Store.Session
import RegistryProxy.Store.Tarballs
import RegistryProxy.Store.Update
import RegistryProxy.Text.Blank
import RegistryProxy.Text.CodeTable
import RegistryProxy.Text.CombiningClass
import RegistryProxy.Text.Composition
import RegistryProxy.Text.Decomposition
import RegistryProxy.Text.Direction
import RegistryProxy.Text.Joining
import RegistryProxy.Text.Mark
import RegistryProxy.Text.Percent
import RegistryProxy.Text.Utf8
import RegistryProxy.Toml.Basic
import RegistryProxy.Toml.Cursor
import RegistryProxy.Toml.Parser
import RegistryProxy.Toml.Quoted
import RegistryProxy.Toml.Scalar
import RegistryProxy.Toml.Shape
import RegistryProxy.Toml.Table
import RegistryProxy.Transfer.Body
import RegistryProxy.Transfer.Pipe
import RegistryProxy.Transfer.Session
import RegistryProxy.Transfer.Stream
import RegistryProxy.Transfer.Upload
import RegistryProxy.Uplink.Authorize
import RegistryProxy.Uplink.Basic
import RegistryProxy.Uplink.Breaker
import RegistryProxy.Uplink.Bypass
import RegistryProxy.Uplink.Configuration
import RegistryProxy.Uplink.Credential
import RegistryProxy.Uplink.Freshness
import RegistryProxy.Uplink.Resolve
import RegistryProxy.Uplink.Settings
import RegistryProxy.Url.Basic
import RegistryProxy.Url.Domain
import RegistryProxy.Url.Domain.Mapping
import RegistryProxy.Url.Host
import RegistryProxy.Url.Parser
import RegistryProxy.Url.Punycode
import RegistryProxy.Version.Basic
import RegistryProxy.Version.Document
import RegistryProxy.Version.Order
import RegistryProxy.Version.Parser
