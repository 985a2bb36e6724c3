import MalwareScan.Batch.Opening
import MalwareScan.Batch.ResultLine
import MalwareScan.Batch.Schedule
import MalwareScan.Batch.Target
import MalwareScan.Bytes
import MalwareScan.Client.ActiveScans
import MalwareScan.Client.Address
import MalwareScan.Client.Calls
import MalwareScan.Client.Connection
import MalwareScan.Client.Credentials
import MalwareScan.Client.Line
import MalwareScan.Client.Settings
import MalwareScan.CommandLine.Arguments
import MalwareScan.CommandLine.Program
import MalwareScan.CommandLine.Usage
import MalwareScan.Content.Basic
import MalwareScan.Content.Buffer
import MalwareScan.Content.LocalFile
import MalwareScan.Content.Remote
import MalwareScan.Decimal.Shortest
import MalwareScan.Digest.Basic
import MalwareScan.Digest.Block
import MalwareScan.Digest.Sha1
import MalwareScan.Digest.Sha256
import MalwareScan.Encoding.Base64
import MalwareScan.Encoding.Hex
import MalwareScan.Error
import MalwareScan.Files.Mount
import MalwareScan.Files.System
import MalwareScan.Files.Tree
import MalwareScan.Files.Walk
import MalwareScan.Json.Canonical
import MalwareScan.Json.Codec
import MalwareScan.Json.Fault
import MalwareScan.Json.Number
import MalwareScan.Json.Reading
import MalwareScan.Json.Value
import MalwareScan.Log.Basic
import MalwareScan.Log.Check
import MalwareScan.Log.Filter
import MalwareScan.Main
import MalwareScan.Net.Address
import MalwareScan.Net.Uri
import MalwareScan.Options
import MalwareScan.Proxy.Duplex
import MalwareScan.Proxy.Endpoint
import MalwareScan.Proxy.HttpConnect
import MalwareScan.Proxy.Selection
import MalwareScan.Proxy.Socks5
import MalwareScan.Proxy.Tunnel
import MalwareScan.Region
import MalwareScan.Rehearsal.Call
import MalwareScan.Rehearsal.Material
import MalwareScan.Rehearsal.Offline
import MalwareScan.Rehearsal.Run
import MalwareScan.Rehearsal.Script
import MalwareScan.Rehearsal.Stream
import MalwareScan.Rehearsal.World
import MalwareScan.Remote.BucketObject
import MalwareScan.Remote.HttpObject
import MalwareScan.Remote.Locator
import MalwareScan.Remote.Open
import MalwareScan.Remote.Response
import MalwareScan.Session.Basic
import MalwareScan.Session.Channel
import MalwareScan.Session.Opening
import MalwareScan.Session.Run
import MalwareScan.Settings.Basic
import MalwareScan.Settings.File
import MalwareScan.Settings.Variables
import MalwareScan.Text.Alphanumeric
import MalwareScan.Text.Blank
import MalwareScan.Text.CodeTable
import MalwareScan.Text.Composition
import MalwareScan.Text.Numeral
import MalwareScan.Text.Quoted
import MalwareScan.Text.Utf8
import MalwareScan.Text.Visible
import MalwareScan.Toml.Document
import MalwareScan.Toml.Node
import MalwareScan.Toml.Quotation
import MalwareScan.Toml.Scalar
import MalwareScan.Toml.Scanner
import MalwareScan.Url.Basic
import MalwareScan.Url.Domain
import MalwareScan.Url.Domain.Direction
import MalwareScan.Url.Domain.Folding
import MalwareScan.Url.Domain.Joining
import MalwareScan.Url.Host
import MalwareScan.Url.Parse
import MalwareScan.Url.PercentEncoding
import MalwareScan.Url.Punycode
import MalwareScan.Verdict.Basic
import MalwareScan.Verdict.Detailed
import MalwareScan.Wire.ClientMessage
import MalwareScan.Wire.Record
import MalwareScan.Wire.ServerMessage
import MalwareScan.Wire.Stage
import MalwareScan.Wire.Status
import MalwareScan.Wire.Varint
import MalwareScan.Proofs.Session.Malformed
import MalwareScan.Proofs.Session.Moves
import MalwareScan.Proofs.Session.Outcome
import MalwareScan.Proofs.Content.Reading
import MalwareScan.Proofs.Content.Agreement
import MalwareScan.Proofs.Session.Budget
import MalwareScan.Proofs.Session.Serving
import MalwareScan.Proofs.Session.Splitting
import MalwareScan.Proofs.Remote.RangedReads
import MalwareScan.Proofs.Session.Channel
import MalwareScan.Proofs.Session.Traffic
import MalwareScan.Proofs.Client.Endings
import MalwareScan.Proofs.Url.Paths
import MalwareScan.Proofs.Remote.ObjectNames
import MalwareScan.Proofs.Client.Admission
import MalwareScan.Proofs.Client.Messages
import MalwareScan.Proofs.Client.Histories
import MalwareScan.Proofs.Client.Answers
import MalwareScan.Proofs.Wire.RoundTrip
import MalwareScan.Proofs.Remote.Redaction
import MalwareScan.Proofs.Remote.Failures
import MalwareScan.Proofs.Session.Deadline
import MalwareScan.Proofs.Proxy.Variables
import MalwareScan.Proofs.Client.Closing
import MalwareScan.Proofs.Client.Locality
import MalwareScan.Proofs.Wire.Spellings
import MalwareScan.Proofs.Wire.Layouts
import MalwareScan.Proofs.Batch.Runs
import MalwareScan.Proofs.CommandLine.Scans
import MalwareScan.Proofs.Json.Grammar
import MalwareScan.Proofs.Json.Numbers
import MalwareScan.Proofs.Json.Strings
import MalwareScan.Proofs.Json.Values
import MalwareScan.Proofs.Json.Texts
import MalwareScan.Proofs.Json.Statements
import MalwareScan.Proofs.Json.Codecs
import MalwareScan.Proofs.Json.Omissions
import MalwareScan.Proofs.Json.Maps
import MalwareScan.Proofs.Json.Canonical
import MalwareScan.Proofs.Json.Lines
import MalwareScan.Proofs.Verdict.RoundTrip
import MalwareScan.Proofs.Verdict.Additions
import MalwareScan.Proofs.Net.AddressBytes
import MalwareScan.Proofs.Text.Numerals
import MalwareScan.Proofs.Proxy.Streams
import MalwareScan.Proofs.Proxy.HeaderBlocks
import MalwareScan.Proofs.Proxy.Negotiation
import MalwareScan.Proofs.Proxy.SentMessages
import MalwareScan.Proofs.Remote.StatedSizes
import MalwareScan.Proofs.Proxy.Versions
import MalwareScan.Proofs.Client.Addresses
import MalwareScan.Proofs.Content.Changes
import MalwareScan.Proofs.Remote.Fetches
import MalwareScan.Proofs.Encoding.Codes
import MalwareScan.Proofs.Encoding.Base64
import MalwareScan.Proofs.Remote.Checksums
import MalwareScan.Proofs.Content.Digests
import MalwareScan.Proofs.Digest.Messages
import MalwareScan.Proofs.Remote.WholeBodies
import MalwareScan.Proofs.Verdict.Counts
import MalwareScan.Proofs.Files.Trees
import MalwareScan.Proofs.Files.Paths
import MalwareScan.Proofs.Files.Walks
import MalwareScan.Proofs.Batch.Expansion
import MalwareScan.Proofs.Batch.ResultLines
import MalwareScan.Proofs.Text.Characters
import MalwareScan.Proofs.Text.Composing
import MalwareScan.Proofs.Net.AddressTexts
import MalwareScan.Proofs.Url.Names
import MalwareScan.Proofs.Url.Hosts
import MalwareScan.Proofs.Url.Schemes
import MalwareScan.Proofs.Url.Authorities
import MalwareScan.Proofs.Proxy.Endpoints
import MalwareScan.Proofs.Lists.Places
import MalwareScan.Proofs.Proxy.Exceptions
import MalwareScan.Proofs.Settings.Layers
import MalwareScan.Proofs.Client.Waiting
