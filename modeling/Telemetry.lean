import Telemetry.Aggregation
import Telemetry.Attribute.Value
import Telemetry.Binary64
import Telemetry.Bytes.Base64
import Telemetry.Bytes.Hex
import Telemetry.Command.Invocation
import Telemetry.Command.Run
import Telemetry.Compression.Compressor
import Telemetry.Compression.Gzip
import Telemetry.Configuration.Exporter
import Telemetry.Configuration.Model
import Telemetry.Configuration.Otlp
import Telemetry.Configuration.Shape
import Telemetry.Decimal.Read
import Telemetry.Decimal.Shortest
import Telemetry.Decimal.Style
import Telemetry.Document.File
import Telemetry.Document.FileTree
import Telemetry.Document.Format
import Telemetry.Document.Reader
import Telemetry.Export.Capability
import Telemetry.Export.Creation
import Telemetry.Export.Delivery
import Telemetry.Export.Exporter
import Telemetry.Export.Fault
import Telemetry.Export.Request
import Telemetry.Export.Store
import Telemetry.Json.Reader
import Telemetry.Json.Writer
import Telemetry.Log.Clock
import Telemetry.Log.Event
import Telemetry.Log.Filter
import Telemetry.Log.Pattern
import Telemetry.Log.Pattern.Reader
import Telemetry.Log.Rolling
import Telemetry.Log.Setup
import Telemetry.Metric
import Telemetry.Plugin.Sample
import Telemetry.Properties
import Telemetry.Provider.Linked
import Telemetry.Provider.Loader
import Telemetry.Provider.Registry
import Telemetry.Reference.Expansion
import Telemetry.Reference.Piece
import Telemetry.Reference.Substitution
import Telemetry.Temporality
import Telemetry.Text.Alphanumeric
import Telemetry.Text.Blank
import Telemetry.Text.Quoted
import Telemetry.Toml.Lexical
import Telemetry.Toml.Moment
import Telemetry.Toml.Reader
import Telemetry.Toml.Scalar
import Telemetry.Toml.Table
import Telemetry.Tree
import Telemetry.Yaml.Cursor
import Telemetry.Yaml.Node
import Telemetry.Yaml.Reader
import Telemetry.Yaml.Scalar
import Telemetry.Yaml.Token.Layout
import Telemetry.Yaml.Token.Scalar
import Telemetry.Yaml.Token.Tag
import Telemetry.Main
import Telemetry.Proofs.Configuration.Reading
import Telemetry.Proofs.Configuration.Independence
import Telemetry.Proofs.Configuration.RoundTrip
import Telemetry.Proofs.Export.Accounting
import Telemetry.Proofs.Export.Ending
import Telemetry.Proofs.Reference.Grammar
import Telemetry.Proofs.Reference.Escaping
import Telemetry.Proofs.Bytes.Base64
import Telemetry.Proofs.Export.Decoding
import Telemetry.Proofs.Compression.Resolution
import Telemetry.Proofs.Configuration.Properties
import Telemetry.Proofs.Export.Acceptance
import Telemetry.Proofs.Provider.Registry
import Telemetry.Proofs.Export.Journal
import Telemetry.Proofs.Export.Closing
import Telemetry.Proofs.Export.Resolution
import Telemetry.Proofs.Provider.Loading
import Telemetry.Proofs.Provider.Linking
import Telemetry.Proofs.Export.Lookup
import Telemetry.Proofs.Export.Layering
import Telemetry.Proofs.Export.Freshness
import Telemetry.Proofs.Command.Validation
import Telemetry.Proofs.Bytes.Order
import Telemetry.Proofs.Export.Methods
import Telemetry.Proofs.Export.Sending
import Telemetry.Proofs.Tree.Locality
import Telemetry.Proofs.Export.Sight
import Telemetry.Proofs.Export.Isolation
import Telemetry.Proofs.Command.Listing
import Telemetry.Proofs.Configuration.Nodes
import Telemetry.Proofs.Reference.Whole
import Telemetry.Proofs.Yaml.Node
import Telemetry.Proofs.Yaml.Growth
import Telemetry.Proofs.Yaml.Unbroken
import Telemetry.Proofs.Yaml.Plain
import Telemetry.Proofs.Yaml.Reading
import Telemetry.Proofs.Reference.Retyping
import Telemetry.Proofs.Yaml.Word
import Telemetry.Proofs.Export.Headers
import Telemetry.Proofs.Export.Reporting
import Telemetry.Proofs.Configuration.Nulls
import Telemetry.Proofs.Configuration.Building
import Telemetry.Proofs.Bytes.Codes
import Telemetry.Proofs.Attribute.Hashing
import Telemetry.Proofs.Export.Measurements
