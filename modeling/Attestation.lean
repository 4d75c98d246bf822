import Attestation.Claims.Basic
import Attestation.Command.Arguments
import Attestation.Command.Invocation
import Attestation.Command.Program
import Attestation.Dialogue
import Attestation.Ed25519.Curve
import Attestation.Ed25519.Scheme
import Attestation.Ed25519.Sha512
import Attestation.Encoding.Base64
import Attestation.Encoding.Der
import Attestation.Encoding.KeyDocument
import Attestation.Encoding.Pem
import Attestation.Error
import Attestation.Identity
import Attestation.Json.Basic
import Attestation.Json.Parser
import Attestation.Json.Printer
import Attestation.Json.Record
import Attestation.Key
import Attestation.Keyed
import Attestation.Loading
import Attestation.Main
import Attestation.Network.Address
import Attestation.Numeral.Double
import Attestation.Numeral.Reading
import Attestation.Numeral.Shortest
import Attestation.Policy.Agent
import Attestation.Policy.Constraint
import Attestation.Policy.Engine
import Attestation.Policy.Operand
import Attestation.Policy.Operator
import Attestation.Policy.Rule
import Attestation.Proofs.Claims.Building
import Attestation.Proofs.Claims.Canonical
import Attestation.Proofs.Claims.Correspondence
import Attestation.Proofs.Claims.Json
import Attestation.Proofs.Claims.Routes
import Attestation.Proofs.Computation
import Attestation.Proofs.Ed25519.Edwards
import Attestation.Proofs.Ed25519.Encoding
import Attestation.Proofs.Ed25519.Field
import Attestation.Proofs.Ed25519.Points
import Attestation.Proofs.Ed25519.Prime
import Attestation.Proofs.Ed25519.Scheme
import Attestation.Proofs.Encoding.Base64
import Attestation.Proofs.Encoding.ByteRuns
import Attestation.Proofs.Encoding.Grammar
import Attestation.Proofs.Encoding.KeyDocument
import Attestation.Proofs.Encoding.Layout
import Attestation.Proofs.Encoding.Pem
import Attestation.Proofs.Encoding.Scan
import Attestation.Proofs.Json.Bytes
import Attestation.Proofs.Json.Extent
import Attestation.Proofs.Json.Layout
import Attestation.Proofs.Json.Literal
import Attestation.Proofs.Json.Printer
import Attestation.Proofs.Json.Reading
import Attestation.Proofs.Json.Record
import Attestation.Proofs.Json.Value
import Attestation.Proofs.Key
import Attestation.Proofs.KeyText
import Attestation.Proofs.Keyed
import Attestation.Proofs.Loading
import Attestation.Proofs.Network.Address
import Attestation.Proofs.Network.Block
import Attestation.Proofs.Numeral.Rounding
import Attestation.Proofs.Numeral.Text
import Attestation.Proofs.Policy.Carriage
import Attestation.Proofs.Policy.Case
import Attestation.Proofs.Policy.ClaimKey
import Attestation.Proofs.Policy.Coherence
import Attestation.Proofs.Policy.Corroboration
import Attestation.Proofs.Policy.Diagnosis
import Attestation.Proofs.Policy.Honesty
import Attestation.Proofs.Policy.Inquiry
import Attestation.Proofs.Policy.Membership
import Attestation.Proofs.Policy.Networks
import Attestation.Proofs.Policy.Ordering
import Attestation.Proofs.Policy.Protocols
import Attestation.Proofs.Policy.Spelling
import Attestation.Proofs.Policy.Stability
import Attestation.Proofs.Policy.TimeWindow
import Attestation.Proofs.Policy.Verdict
import Attestation.Proofs.Registry.Address
import Attestation.Proofs.Registry.Boundary
import Attestation.Proofs.Registry.Caching
import Attestation.Proofs.Registry.History
import Attestation.Proofs.Registry.Settings
import Attestation.Proofs.Registry.Wire
import Attestation.Proofs.Text.Boundary
import Attestation.Proofs.Text.Bytes
import Attestation.Proofs.Text.Case
import Attestation.Proofs.Text.Order
import Attestation.Proofs.Text.Runs
import Attestation.Proofs.Time.Calendar
import Attestation.Proofs.Time.Rfc3339
import Attestation.Proofs.Url.Child
import Attestation.Proofs.Url.Path
import Attestation.Proofs.Url.Percent
import Attestation.Proofs.Url.Segment
import Attestation.Proofs.Verification
import Attestation.Registry.Client
import Attestation.Registry.Directory
import Attestation.Registry.Query
import Attestation.Registry.Transfer
import Attestation.Registry.Wire
import Attestation.Settings.Basic
import Attestation.Settings.Document
import Attestation.Text.Blank
import Attestation.Text.Bytes
import Attestation.Text.CaseTable
import Attestation.Text.CodeTable
import Attestation.Text.Lowercase
import Attestation.Text.Normal
import Attestation.Text.NormalTable
import Attestation.Time.Instant
import Attestation.Time.Rfc3339
import Attestation.Url.Basic
import Attestation.Url.Domain
import Attestation.Url.DomainTable
import Attestation.Url.Host
import Attestation.Url.Label
import Attestation.Url.LabelTable
import Attestation.Url.Parser
import Attestation.Url.Percent
import Attestation.Url.Punycode
import Attestation.Verification
import Attestation.Warning
import Attestation.Yaml.Cursor
import Attestation.Yaml.Node
import Attestation.Yaml.Scalar
import Attestation.Yaml.Token
