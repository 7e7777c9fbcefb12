import HttpGet.Text.Alphanumeric
import HttpGet.Text.Blank
import HttpGet.Text.CombiningClass
import HttpGet.Text.Composite
import HttpGet.Text.Equivalent
import HttpGet.Text.Hex
import HttpGet.Text.Mark
import HttpGet.Text.NormalForm
import HttpGet.Text.Pattern
import HttpGet.Text.Position
import HttpGet.Text.Quoted
import HttpGet.Text.Ranges
import HttpGet.Text.Search
import HttpGet.Text.Similarity
import HttpGet.Text.Split
import HttpGet.Text.Terminal
import HttpGet.Text.Utf8
import HttpGet.Text.Visible
import HttpGet.Decimal.Binary64
import HttpGet.Decimal.Shortest
import HttpGet.Mismatch
import HttpGet.Json.Failure
import HttpGet.Json.Literal
import HttpGet.Json.Number
import HttpGet.Json.Parser
import HttpGet.Json.Printer
import HttpGet.Json.Record
import HttpGet.Json.Typed
import HttpGet.Json.Value
import HttpGet.Toml.Excerpt
import HttpGet.Toml.Literal
import HttpGet.Toml.Parser
import HttpGet.Toml.Scalar
import HttpGet.Toml.Table
import HttpGet.Toml.Tree
import HttpGet.Url.Address
import HttpGet.Url.Basic
import HttpGet.Url.Domain
import HttpGet.Url.Domain.Direction
import HttpGet.Url.Domain.Joining
import HttpGet.Url.Domain.Label
import HttpGet.Url.Domain.Letters
import HttpGet.Url.Domain.Mapping
import HttpGet.Url.Domain.Sequences
import HttpGet.Url.File
import HttpGet.Url.Host
import HttpGet.Url.Parser
import HttpGet.Url.Percent
import HttpGet.Url.Punycode
import HttpGet.Url.Request
import HttpGet.Url.Segments
import HttpGet.Batch
import HttpGet.Client
import HttpGet.GetError
import HttpGet.Network
import HttpGet.Response
import HttpGet.Servers
import HttpGet.Session
import HttpGet.Transport
import HttpGet.Wire
import HttpGet.Config.Directory
import HttpGet.Config.File
import HttpGet.Config.Form
import HttpGet.Config.Resolution
import HttpGet.Config.Settings
import HttpGet.Config.Substitution
import HttpGet.CommandLine.Parser
import HttpGet.CommandLine.Usage
import HttpGet.Log.Event
import HttpGet.Log.Filter
import HttpGet.Main
import HttpGet.Run
import HttpGet.Proofs.Lookup
import HttpGet.Proofs.Pointwise
import HttpGet.Proofs.Decimal.Rounding
import HttpGet.Proofs.Decimal.Shortest
import HttpGet.Proofs.Json.Grammar
import HttpGet.Proofs.Json.Numeral
import HttpGet.Proofs.Json.NumberLiteral
import HttpGet.Proofs.Json.Members
import HttpGet.Proofs.Json.Reading
import HttpGet.Proofs.Json.Acceptance
import HttpGet.Proofs.Json.Printing
import HttpGet.Proofs.Json.InOrder
import HttpGet.Proofs.Json.Records
import HttpGet.Proofs.Json.Scaling
import HttpGet.Proofs.Json.Layout
import HttpGet.Proofs.Json.Inversion
import HttpGet.Proofs.Json.Characters
import HttpGet.Proofs.Json.Tightening
import HttpGet.Proofs.Json.Legibility
import HttpGet.Proofs.Json.Unambiguity
import HttpGet.Proofs.Json.Shortening
import HttpGet.Proofs.Json.ShortenedValues
import HttpGet.Proofs.Decoding
import HttpGet.Proofs.Integers
import HttpGet.Proofs.Rereading
import HttpGet.Proofs.Forms
import HttpGet.Proofs.Reporting
import HttpGet.Proofs.Substitution
import HttpGet.Proofs.PlainValues
import HttpGet.Proofs.Toml.Writing
import HttpGet.Proofs.Toml.Sections
import HttpGet.Proofs.Toml.Order
import HttpGet.Proofs.Configuration
import HttpGet.Proofs.Toml.Records
import HttpGet.Proofs.Schema
import HttpGet.Proofs.Url.Cutting
import HttpGet.Proofs.Url.Percent
import HttpGet.Proofs.Url.Address
import HttpGet.Proofs.Url.Domain
import HttpGet.Proofs.Url.Host
import HttpGet.Proofs.Url.Normal
import HttpGet.Proofs.Redirection
import HttpGet.Proofs.Normalisation
import HttpGet.Proofs.Batches
import HttpGet.Proofs.Sessions
import HttpGet.Proofs.Ranking
import HttpGet.Proofs.Independence
import HttpGet.Proofs.Arguments
import HttpGet.Proofs.Presentation
import HttpGet.Proofs.Rearrangement
import HttpGet.Proofs.Truncation
import HttpGet.Proofs.Text.Encoding
import HttpGet.Proofs.Text.Segmentation
import HttpGet.Proofs.MediaType
import HttpGet.Proofs.Framing
import HttpGet.Proofs.Messages
import HttpGet.Proofs.Clients
import HttpGet.Proofs.Delivery
import HttpGet.Proofs.Traffic
import HttpGet.Proofs.Codecs
import HttpGet.Proofs.Spellings
import HttpGet.Proofs.LogLines
import HttpGet.Proofs.Layers
import HttpGet.Proofs.Validation
import HttpGet.Proofs.Verbosity
