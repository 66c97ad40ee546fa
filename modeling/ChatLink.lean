import ChatLink.Address
import ChatLink.Callback
import ChatLink.Client
import ChatLink.Client.Calls
import ChatLink.Client.Log
import ChatLink.Client.Peer
import ChatLink.Client.Script
import ChatLink.Client.Service
import ChatLink.Endpoint
import ChatLink.Envelope
import ChatLink.Error
import ChatLink.Event
import ChatLink.Event.Frame
import ChatLink.Event.Record
import ChatLink.Event.Timestamp
import ChatLink.Json.Cursor
import ChatLink.Json.Escape
import ChatLink.Json.Lexeme
import ChatLink.Json.Lexer
import ChatLink.Json.Links
import ChatLink.Json.Token
import ChatLink.Json.Value
import ChatLink.Lifecycle
import ChatLink.Outbox
import ChatLink.Settings
import ChatLink.Settings.Document
import ChatLink.Text.Blank
import ChatLink.Text.Combining
import ChatLink.Text.Composition
import ChatLink.Text.Digit
import ChatLink.Text.Direction
import ChatLink.Text.Hidden
import ChatLink.Text.Joining
import ChatLink.Text.Mark
import ChatLink.Text.Normal
import ChatLink.Text.Quoted
import ChatLink.Text.Table
import ChatLink.Text.Utf8
import ChatLink.Url.Fault
import ChatLink.Url.Host
import ChatLink.Url.Ipv4
import ChatLink.Url.Ipv6
import ChatLink.Url.Label
import ChatLink.Url.NameCharacter
import ChatLink.Url.Parts
import ChatLink.Url.Path
import ChatLink.Url.Percent
import ChatLink.Url.Punycode
import ChatLink.Url.Reader
import ChatLink.Yaml.Document
import ChatLink.Yaml.Number
import ChatLink.Yaml.Scalar
import ChatLink.Yaml.Scalar.Block
import ChatLink.Yaml.Scalar.Plain
import ChatLink.Yaml.Scalar.Quoted
import ChatLink.Yaml.Spot
import ChatLink.Yaml.Tag
import ChatLink.Yaml.Token
import ChatLink.Proofs.Json.Listing
import ChatLink.Proofs.Json.Lookup
import ChatLink.Proofs.Event.Decoding
import ChatLink.Proofs.Text.Utf8
import ChatLink.Proofs.Json.Escaping
import ChatLink.Proofs.Event.Timestamp
import ChatLink.Proofs.Event.RoundTrip
import ChatLink.Proofs.Client.Calls
import ChatLink.Proofs.Client.State
import ChatLink.Proofs.Client.Ledger
import ChatLink.Proofs.Client.Trace
import ChatLink.Proofs.Client.Recasting
import ChatLink.Proofs.Client.Renewal
import ChatLink.Proofs.Envelope
import ChatLink.Proofs.Json.Nesting
import ChatLink.Proofs.Json.Words
import ChatLink.Proofs.Client.Rejection
import ChatLink.Proofs.Client.Chronicle
import ChatLink.Proofs.Client.Course
import ChatLink.Proofs.Client.Progress
import ChatLink.Proofs.Client.Standing
import ChatLink.Proofs.Client.Succession
import ChatLink.Proofs.Client.Delivery
import ChatLink.Proofs.Client.Noise
import ChatLink.Proofs.Client.Answers
import ChatLink.Proofs.Outbox
import ChatLink.Proofs.Client.Stopping
import ChatLink.Proofs.Client.Aftermath
import ChatLink.Proofs.Lifecycle.Threads
import ChatLink.Proofs.Client.Interleaving
import ChatLink.Proofs.Client.Shadowing
import ChatLink.Proofs.Client.Waiting
import ChatLink.Proofs.Client.Closing
import ChatLink.Proofs.Json.Links
import ChatLink.Proofs.Json.Brackets
import ChatLink.Proofs.Json.Refusal
import ChatLink.Proofs.Json.Nodes
import ChatLink.Proofs.Json.Capacity
import ChatLink.Proofs.Event.Capacity
import ChatLink.Proofs.Event.Root
import ChatLink.Proofs.Json.Later
import ChatLink.Proofs.Json.Shift
import ChatLink.Proofs.Json.Root
import ChatLink.Proofs.Json.Segments
import ChatLink.Proofs.Json.Keys
import ChatLink.Proofs.Json.Passing
import ChatLink.Proofs.Event.Forwarding
import ChatLink.Proofs.Client.Promptness
import ChatLink.Proofs.Settings.Loading
import ChatLink.Envelope.Writer
import ChatLink.Proofs.Envelope.Reservation
import ChatLink.Proofs.Event.Clamping
import ChatLink.Json.Trail
import ChatLink.Json.Turns
import ChatLink.Proofs.Json.Turns
import ChatLink.Proofs.Json.Trail
