import Decoding.Backend.Basic
import Decoding.Backend.ByteTokens
import Decoding.Backend.Context
import Decoding.Backend.Either
import Decoding.Backend.Engine
import Decoding.Backend.Error
import Decoding.Backend.Family
import Decoding.Backend.Payload
import Decoding.Backend.Stub
import Decoding.Boundary.Basic
import Decoding.Boundary.Calls
import Decoding.Boundary.Status
import Decoding.Buffer
import Decoding.Bytes
import Decoding.Config
import Decoding.Host.Basic
import Decoding.Host.Call
import Decoding.Host.Families
import Decoding.Host.Sessions
import Decoding.Keystream
import Decoding.Model.File
import Decoding.Model.FileTable
import Decoding.Outcome
import Decoding.Proofs.Backend.Contract
import Decoding.Proofs.Backend.Payload
import Decoding.Proofs.Backend.Stub
import Decoding.Proofs.Except
import Decoding.Proofs.Outcome
import Decoding.Proofs.Session.Agreement
import Decoding.Proofs.Session.Alike
import Decoding.Proofs.Session.Embedding
import Decoding.Proofs.Session.History
import Decoding.Proofs.Session.Reachable
import Decoding.Proofs.Session.Transitions
import Decoding.Proofs.Simulation.Cache
import Decoding.Proofs.Simulation.Engine
import Decoding.Proofs.Simulation.RoundTrip
import Decoding.Proofs.Simulation.Session
import Decoding.Proofs.Snapshot.Envelope
import Decoding.Reference
import Decoding.Score
import Decoding.Session.Basic
import Decoding.Session.Call
import Decoding.Session.Error
import Decoding.Session.Id
import Decoding.Session.Snapshot
import Decoding.Simulation.Engine
import Decoding.Simulation.Families
import Decoding.Simulation.World
import Decoding.Simulation.Wrapper
import Decoding.Snapshot.Header
import Decoding.Text.Blank
import Decoding.Text.Numeral
import Decoding.Text.Quoted
import Decoding.Text.Utf8
import Decoding.Text.Visible
import Decoding.Proofs.Session.Refusal
import Decoding.Proofs.Host.Balance
import Decoding.Proofs.Simulation.Refusal
import Decoding.Proofs.Host.Bracket
import Decoding.Proofs.Host.Freshness
import Decoding.Boundary.Call
import Decoding.Proofs.Host.Isolation
import Decoding.Proofs.Simulation.Scores
import Decoding.Proofs.Snapshot.Canonical
import Decoding.Proofs.Boundary.Requests
import Decoding.Proofs.Host.Poisoning
import Decoding.Proofs.Boundary.Poisoning
import Decoding.Proofs.Snapshot.Export
import Decoding.Proofs.Session.Commands
import Decoding.Proofs.Session.Faults
import Decoding.Proofs.Boundary.Answers
import Decoding.Proofs.Boundary.Buffers
import Decoding.Proofs.Session.Rollbacks
import Decoding.Proofs.Simulation.Rollbacks
import Decoding.Proofs.Session.Batches
import Decoding.Proofs.Simulation.Batches
import Decoding.Proofs.Simulation.Payload
import Decoding.Proofs.Snapshot.Kinds
import Decoding.Proofs.Session.Keeping
import Decoding.Proofs.Backend.Engine
import Decoding.Proofs.Backend.Window
import Decoding.Proofs.Backend.Atomicity
import Decoding.Proofs.Session.Bounds
import Decoding.Proofs.Host.Opening
import Decoding.Proofs.Boundary.Bounds
import Decoding.Proofs.Session.Peeks
import Decoding.Proofs.Reference.Printing
import Decoding.Proofs.Backend.Truncation
import Decoding.Proofs.Snapshot.Size
import Decoding.Proofs.Host.Validation
import Decoding.Proofs.Reference.Schemes
import Decoding.Proofs.Boundary.Texts
import Decoding.Proofs.Backend.Runs
import Decoding.Proofs.Bytes
import Decoding.Proofs.Snapshot.Header
