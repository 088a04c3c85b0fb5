import DemandNet.Address.Bind
import DemandNet.Address.Ip
import DemandNet.Address.Socket
import DemandNet.Bytes
import DemandNet.Client.Call
import DemandNet.Client.Response
import DemandNet.Config.Load
import DemandNet.Config.Options
import DemandNet.Config.Schema
import DemandNet.Config.Toml.Document
import DemandNet.Config.Toml.Scalar
import DemandNet.Config.Toml.Tree
import DemandNet.Config.Validation
import DemandNet.Config.Value
import DemandNet.Connection.Info
import DemandNet.Connection.Link
import DemandNet.Connection.Pipeline
import DemandNet.Connection.Reader
import DemandNet.Connection.Sink
import DemandNet.Connection.StageSpec
import DemandNet.Connection.Status
import DemandNet.Connection.Tracker
import DemandNet.Connection.Writer
import DemandNet.Error
import DemandNet.Flow.Bridge
import DemandNet.Flow.Describe
import DemandNet.Flow.Exchange
import DemandNet.Flow.Feeder
import DemandNet.Flow.Handles
import DemandNet.Flow.Window
import DemandNet.Http.Exchange
import DemandNet.Http.Files
import DemandNet.Http.Handler
import DemandNet.Http.Headers
import DemandNet.Http.Intake
import DemandNet.Http.KeepAlive
import DemandNet.Http.Multipart.Body
import DemandNet.Http.Multipart.Boundary
import DemandNet.Http.Multipart.Decoder
import DemandNet.Http.Multipart.Part
import DemandNet.Http.RequestId
import DemandNet.Http.Serving
import DemandNet.Http.Site
import DemandNet.Http.Status
import DemandNet.Lifecycle.Phase
import DemandNet.Lifecycle.Service
import DemandNet.Lifecycle.Signal
import DemandNet.Main
import DemandNet.Proofs.Client.Verdict
import DemandNet.Proofs.Connection.Answers
import DemandNet.Proofs.Connection.Closing
import DemandNet.Proofs.Connection.Flushing
import DemandNet.Proofs.Connection.IdleTimeout
import DemandNet.Proofs.Connection.Inflow
import DemandNet.Proofs.Connection.Outflow
import DemandNet.Proofs.Connection.Pipeline
import DemandNet.Proofs.Connection.Schedule
import DemandNet.Proofs.Connection.Sending
import DemandNet.Proofs.Connection.Tracking
import DemandNet.Proofs.Connection.WriteOrder
import DemandNet.Proofs.Flow.BridgeLemmas
import DemandNet.Proofs.Flow.Conservation
import DemandNet.Proofs.Flow.Effect
import DemandNet.Proofs.Flow.Handles
import DemandNet.Proofs.Flow.History
import DemandNet.Proofs.Flow.Hosted
import DemandNet.Proofs.Flow.Reachable
import DemandNet.Proofs.Flow.ReadingEnd
import DemandNet.Proofs.Flow.Safety
import DemandNet.Proofs.Flow.Seating
import DemandNet.Proofs.Flow.Unused
import DemandNet.Proofs.Flow.WindowAccount
import DemandNet.Proofs.Http.Acts
import DemandNet.Proofs.Http.Chain
import DemandNet.Proofs.Http.Files
import DemandNet.Proofs.Http.Gathering
import DemandNet.Proofs.Http.Head
import DemandNet.Proofs.Http.ListHeaders
import DemandNet.Proofs.Http.Mounts
import DemandNet.Proofs.Http.Multipart.Boundary
import DemandNet.Proofs.Http.Multipart.Buffering
import DemandNet.Proofs.Http.Multipart.Calls
import DemandNet.Proofs.Http.Multipart.Course
import DemandNet.Proofs.Http.Multipart.Disposition
import DemandNet.Proofs.Http.Multipart.Failures
import DemandNet.Proofs.Http.Multipart.HeaderBlock
import DemandNet.Proofs.Http.Multipart.HeaderLimit
import DemandNet.Proofs.Http.Multipart.LastChunk
import DemandNet.Proofs.Http.Multipart.Looks
import DemandNet.Proofs.Http.Multipart.Operations
import DemandNet.Proofs.Http.Multipart.Overflow
import DemandNet.Proofs.Http.Multipart.PartBody
import DemandNet.Proofs.Http.Multipart.Progress
import DemandNet.Proofs.Http.Multipart.Refused
import DemandNet.Proofs.Http.Multipart.RoundTrip
import DemandNet.Proofs.Http.Multipart.Search
import DemandNet.Proofs.Http.Multipart.Skipping
import DemandNet.Proofs.Http.Multipart.Transcript
import DemandNet.Proofs.Http.Multipart.Whole
import DemandNet.Proofs.Http.Outgoing
import DemandNet.Proofs.Http.Readers
import DemandNet.Proofs.Http.Underway
import DemandNet.Proofs.Http.Upgrade
import DemandNet.Proofs.Http.Values
import DemandNet.Proofs.Lifecycle.Drain
import DemandNet.Proofs.Lifecycle.Laws
import DemandNet.Proofs.Lifecycle.Schedule
import DemandNet.Proofs.Lifecycle.Signal
import DemandNet.Proofs.Lifecycle.Standing
import DemandNet.Proofs.Lifecycle.Tending
import DemandNet.Proofs.Routing.Pattern
import DemandNet.Proofs.Routing.Selection
import DemandNet.Proofs.Routing.Template
import DemandNet.Proofs.Schedule
import DemandNet.Proofs.Server.Listener
import DemandNet.Proofs.Server.Slots
import DemandNet.Proofs.Text.Split
import DemandNet.Proofs.Text.Utf8
import DemandNet.Proofs.Udp.Delivery
import DemandNet.Proofs.Udp.Moves
import DemandNet.Proofs.Udp.Peer
import DemandNet.Proofs.Udp.Schedule
import DemandNet.Proofs.Udp.Table
import DemandNet.Proofs.WebSocket.Acknowledgements
import DemandNet.Proofs.WebSocket.Calls
import DemandNet.Proofs.WebSocket.Delivery
import DemandNet.Proofs.WebSocket.Negotiation
import DemandNet.Proofs.WebSocket.Outgoing
import DemandNet.Proofs.WebSocket.Schedule
import DemandNet.Proofs.WebSocket.Stages
import DemandNet.Routing.Pattern
import DemandNet.Routing.Table
import DemandNet.Routing.Template
import DemandNet.Server.EventLoops
import DemandNet.Server.Host
import DemandNet.Server.Instance
import DemandNet.Server.Listener
import DemandNet.Server.Slots
import DemandNet.Text.Blank
import DemandNet.Text.Duration
import DemandNet.Text.Printable
import DemandNet.Text.Quoted
import DemandNet.Text.Split
import DemandNet.Udp.Bind
import DemandNet.Udp.Membership
import DemandNet.Udp.Peers
import DemandNet.Url.Defect
import DemandNet.Url.Domain
import DemandNet.Url.Host
import DemandNet.Url.Parse
import DemandNet.Url.Path
import DemandNet.Url.Percent
import DemandNet.Url.Punycode
import DemandNet.WebSocket.Codec
import DemandNet.WebSocket.Describe
import DemandNet.WebSocket.Duet
import DemandNet.WebSocket.Frame
import DemandNet.WebSocket.Handshake
import DemandNet.WebSocket.Session
import DemandNet.WebSocket.Sha1
import DemandNet.Flow.Handles
