import Sightline.App
import Sightline.Bench.Basic
import Sightline.Bench.Clock
import Sightline.Bench.Engine
import Sightline.Bench.Leases
import Sightline.Bench.Link
import Sightline.Bench.Rig
import Sightline.Bench.Server
import Sightline.Bench.Service
import Sightline.Bench.Speech
import Sightline.Bench.Transcript
import Sightline.Bench.Wire
import Sightline.Bytes
import Sightline.Channel.Error
import Sightline.Channel.Pipe
import Sightline.Channel.Piped
import Sightline.Channel.Session
import Sightline.Channel.Streams
import Sightline.Decimal.Double
import Sightline.Decimal.Notation
import Sightline.Decimal.Shortest
import Sightline.Disk
import Sightline.Disk.FileTree
import Sightline.Disk.Path
import Sightline.Engine
import Sightline.Event
import Sightline.Frame
import Sightline.Frame.Incoming
import Sightline.Frame.Outgoing
import Sightline.Http.Address
import Sightline.Http.Chunked
import Sightline.Http.Escape
import Sightline.Http.Head
import Sightline.Http.Host
import Sightline.Http.Letters
import Sightline.Http.Reply
import Sightline.Http.Request
import Sightline.Identity
import Sightline.Json.Document
import Sightline.Json.Fault
import Sightline.Json.Form
import Sightline.Json.Literal
import Sightline.Json.Number
import Sightline.Json.Parsed
import Sightline.Json.Reader
import Sightline.Json.Record
import Sightline.Json.Skip
import Sightline.Json.Value
import Sightline.Json.Value.Reader
import Sightline.Json.Word
import Sightline.Lease.Guard
import Sightline.Lease.Host
import Sightline.Lease.Timed
import Sightline.Link.Manager
import Sightline.Link.Radio
import Sightline.Link.Report
import Sightline.Link.State
import Sightline.Pipeline
import Sightline.Proofs.Channel.Completion
import Sightline.Proofs.Channel.Ledger
import Sightline.Proofs.Channel.Pipe
import Sightline.Proofs.Channel.Piped
import Sightline.Proofs.Channel.Reception
import Sightline.Proofs.Channel.Sends
import Sightline.Proofs.Channel.Session
import Sightline.Proofs.Channel.Transfer
import Sightline.Proofs.Channel.Wakeup
import Sightline.Proofs.Channel.Wire
import Sightline.Proofs.Disk
import Sightline.Proofs.Engine.Exclusion
import Sightline.Proofs.Engine.Log
import Sightline.Proofs.Engine.Reports
import Sightline.Proofs.Engine.Requests
import Sightline.Proofs.Engine.Sent
import Sightline.Proofs.Engine.Turnover
import Sightline.Proofs.Frame.Incoming
import Sightline.Proofs.Frame.Outgoing
import Sightline.Proofs.Frame.Parsing
import Sightline.Proofs.Frame.Pumping
import Sightline.Proofs.Frame.Stream
import Sightline.Proofs.Frame.Words
import Sightline.Proofs.Identity.Memory
import Sightline.Proofs.Identity.Recovery
import Sightline.Proofs.Identity.Run
import Sightline.Proofs.Json.Form
import Sightline.Proofs.Json.Literal
import Sightline.Proofs.Json.Lookup
import Sightline.Proofs.Json.Number
import Sightline.Proofs.Json.Reading
import Sightline.Proofs.Json.Record
import Sightline.Proofs.Json.Skip
import Sightline.Proofs.Json.Spelling
import Sightline.Proofs.Json.Tree
import Sightline.Proofs.Json.Verdict
import Sightline.Proofs.Lease.Lots
import Sightline.Proofs.Lease.Phases
import Sightline.Proofs.Lease.Timed
import Sightline.Proofs.Link.Answers
import Sightline.Proofs.Link.Completion
import Sightline.Proofs.Link.Custody
import Sightline.Proofs.Link.Delivery
import Sightline.Proofs.Link.Disconnect
import Sightline.Proofs.Link.Final
import Sightline.Proofs.Link.History
import Sightline.Proofs.Link.Invariant
import Sightline.Proofs.Link.Moves
import Sightline.Proofs.Link.PowerLoss
import Sightline.Proofs.Link.PowerOn
import Sightline.Proofs.Link.Reconnect
import Sightline.Proofs.Link.Renumbering
import Sightline.Proofs.Link.Reopening
import Sightline.Proofs.Link.Run
import Sightline.Proofs.Link.Scan
import Sightline.Proofs.Link.Sends
import Sightline.Proofs.Link.Steps
import Sightline.Proofs.Link.Strangers
import Sightline.Proofs.Link.Timeout
import Sightline.Proofs.Link.Unbound
import Sightline.Proofs.Pipeline.Lease
import Sightline.Proofs.Pipeline.Revocation
import Sightline.Proofs.Pipeline.Run
import Sightline.Proofs.Settings
import Sightline.Proofs.Settings.Overlay
import Sightline.Proofs.Speech.Description
import Sightline.Proofs.Uuid
import Sightline.Settings
import Sightline.Settings.File
import Sightline.Settings.Json
import Sightline.Speech
import Sightline.Speech.Client
import Sightline.Speech.Description
import Sightline.Text.Base64
import Sightline.Text.Blank
import Sightline.Text.Mended
import Sightline.Text.Quoted
import Sightline.Text.Unprinted
import Sightline.Uuid
import Sightline.Uuid.Parse
import Sightline.Proofs.Frame.Rounds
