import Availability.Address
import Availability.Arguments
import Availability.Audit
import Availability.Audit.Submission
import Availability.Audit.Verdict
import Availability.Base64
import Availability.Bytes
import Availability.Chain
import Availability.Chain.Ledger
import Availability.Client
import Availability.Client.Gateway
import Availability.Client.Network
import Availability.Client.ProvingService
import Availability.Config
import Availability.Config.Json
import Availability.Config.Options
import Availability.Config.Overrides
import Availability.Digest
import Availability.Digest.Blake2b
import Availability.Duration
import Availability.Erasure
import Availability.Erasure.Field
import Availability.Hex
import Availability.Http
import Availability.Http.Input
import Availability.Http.MediaType
import Availability.Http.Multipart
import Availability.Http.Router
import Availability.Indexed
import Availability.Json
import Availability.Json.Fields
import Availability.Json.Fragment
import Availability.Json.Number
import Availability.Json.Reader
import Availability.Json.Shape
import Availability.Json.Writer
import Availability.Logging
import Availability.Logging.File
import Availability.Logging.Filter
import Availability.Logging.Pattern
import Availability.Logging.Pattern.Atom
import Availability.Logging.Pattern.Class
import Availability.Message
import Availability.Percent
import Availability.Program
import Availability.Proofs.Audit.Broadcast
import Availability.Proofs.Audit.Decision
import Availability.Proofs.Audit.Docket
import Availability.Proofs.Audit.Overlap
import Availability.Proofs.Audit.Pledge
import Availability.Proofs.Audit.Repeated
import Availability.Proofs.Audit.Scheduled
import Availability.Proofs.Audit.Submission
import Availability.Proofs.Audit.Unchallenged
import Availability.Proofs.Audit.Underway
import Availability.Proofs.Base64
import Availability.Proofs.Client.Network
import Availability.Proofs.Commitment
import Availability.Proofs.Config.Overrides
import Availability.Proofs.Environment
import Availability.Proofs.Erasure.CodingMatrix
import Availability.Proofs.Erasure.Determined
import Availability.Proofs.Erasure.Field
import Availability.Proofs.Erasure.Interpolation
import Availability.Proofs.Erasure.Recovery
import Availability.Proofs.Erasure.Refusal
import Availability.Proofs.Erasure.Systematic
import Availability.Proofs.Except
import Availability.Proofs.Faults
import Availability.Proofs.Fetched
import Availability.Proofs.Http
import Availability.Proofs.Http.Origins
import Availability.Proofs.Http.SpotCheck
import Availability.Proofs.Http.Submission
import Availability.Proofs.Http.Upload
import Availability.Proofs.InTurn
import Availability.Proofs.Indexed
import Availability.Proofs.Indexed.Completion
import Availability.Proofs.Json.Members
import Availability.Proofs.Json.Reader
import Availability.Proofs.Lookup
import Availability.Proofs.Loss
import Availability.Proofs.Message
import Availability.Proofs.Percent
import Availability.Proofs.Protocol
import Availability.Proofs.Publish
import Availability.Proofs.Publish.Acceptance
import Availability.Proofs.Publish.Anchored
import Availability.Proofs.Publish.Apart
import Availability.Proofs.Publish.Filed
import Availability.Proofs.Publish.Refusal
import Availability.Proofs.Publish.Stored
import Availability.Proofs.Publish.Traffic
import Availability.Proofs.Record
import Availability.Proofs.Recoverable
import Availability.Proofs.Retrieve
import Availability.Proofs.Retrieve.Committed
import Availability.Proofs.Retrieve.Served
import Availability.Proofs.Retrieve.Settled
import Availability.Proofs.Retrieve.SpotCheck
import Availability.Proofs.Rollup.AltDa
import Availability.Proofs.Rollup.Rollkit
import Availability.Proofs.Schedule
import Availability.Proofs.Shuffle
import Availability.Proofs.Shuffle.Arrangements
import Availability.Proofs.Shuffle.Rearrangement
import Availability.Proofs.Steps
import Availability.Proofs.Storage.Call
import Availability.Proofs.Storage.Kept
import Availability.Proofs.Storage.Memory
import Availability.Proofs.Storage.Placed
import Availability.Proofs.Storage.Routing
import Availability.Proofs.Store
import Availability.Proofs.Store.Indices
import Availability.Proofs.Text
import Availability.Proofs.Transcript
import Availability.Proofs.Url
import Availability.Proofs.Utf8
import Availability.Proofs.Watcher.Cursor
import Availability.Proofs.Watcher.Run
import Availability.Proofs.Watcher.Scan
import Availability.Proofs.Watcher.Scheduled
import Availability.Proofs.Wire
import Availability.Proofs.Wire.Canonical
import Availability.Proofs.Wire.Records
import Availability.Proofs.World
import Availability.Prover
import Availability.Publish
import Availability.Random.ChaCha20
import Availability.Record
import Availability.Retrieve
import Availability.Rollup
import Availability.Schedule
import Availability.Shuffle
import Availability.Storage
import Availability.Storage.Memory
import Availability.Store
import Availability.Table
import Availability.Text
import Availability.Text.Alphanumeric
import Availability.Text.Normal
import Availability.Text.Normal.Tables
import Availability.Text.Quoted
import Availability.Url
import Availability.Url.Domain
import Availability.Url.Domain.Direction
import Availability.Url.Domain.Expansions
import Availability.Url.Domain.Joining
import Availability.Url.Domain.Mapping
import Availability.Url.Domain.Shifts
import Availability.Url.Host
import Availability.Url.Punycode
import Availability.Url.Reader
import Availability.Utf8
import Availability.Watcher
import Availability.Wire
import Availability.World
