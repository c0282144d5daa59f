import SnmpSet.Access
import SnmpSet.Agent
import SnmpSet.Batch.Run
import SnmpSet.Batch.Target
import SnmpSet.CapabilityTable
import SnmpSet.Clients
import SnmpSet.CommandLine.Arguments
import SnmpSet.CommandLine.Report
import SnmpSet.ConceptualRow
import SnmpSet.Config.Basic
import SnmpSet.Config.Build
import SnmpSet.Config.Reader
import SnmpSet.Digest.Basic
import SnmpSet.Digest.Sha2
import SnmpSet.Digest.Sha256
import SnmpSet.Digest.Sha512
import SnmpSet.Fault
import SnmpSet.Json.Basic
import SnmpSet.Json.Codec
import SnmpSet.Json.Reader
import SnmpSet.KeyChange.Algorithm
import SnmpSet.KeyChange.Column
import SnmpSet.KeyChange.Derivation
import SnmpSet.KeyChange.Protocol
import SnmpSet.KeyChange.Rotation
import SnmpSet.Kind
import SnmpSet.Main
import SnmpSet.ManagedObject
import SnmpSet.Oid.Basic
import SnmpSet.Oid.Dotted
import SnmpSet.Oid.Index
import SnmpSet.PendingWrite
import SnmpSet.Phase
import SnmpSet.Proofs.Batch.Stages
import SnmpSet.Proofs.Batch.Steps
import SnmpSet.Proofs.Judgement
import SnmpSet.Proofs.KeyChange.Commit
import SnmpSet.Proofs.Store
import SnmpSet.Refusal
import SnmpSet.Rule
import SnmpSet.Session
import SnmpSet.SortedMap
import SnmpSet.Store
import SnmpSet.TestAndIncr
import SnmpSet.Text.CodePoint
import SnmpSet.Text.Decimal
import SnmpSet.Text.Hex
import SnmpSet.Text.Quoted
import SnmpSet.Text.Segments
import SnmpSet.Text.Unprintable
import SnmpSet.Text.Utf8
import SnmpSet.TimeStamp
import SnmpSet.Toml.Basic
import SnmpSet.Toml.DateTime
import SnmpSet.Toml.Number
import SnmpSet.Toml.Reader
import SnmpSet.Toml.Strings
import SnmpSet.Toml.Table
import SnmpSet.Usm
import SnmpSet.Value.Basic
import SnmpSet.Value.Text
import SnmpSet.Word
import SnmpSet.Proofs.Batch.Course
import SnmpSet.Proofs.Agent.Blame
import SnmpSet.Proofs.Agent.Outcomes
import SnmpSet.Proofs.Agent.Atomicity
import SnmpSet.Proofs.Agent.Guarantees
import SnmpSet.Proofs.Agent.Precedence
import SnmpSet.Proofs.Completeness
import SnmpSet.Proofs.KeyChange.Derivation
import SnmpSet.Proofs.Agent.DigestKeys
import SnmpSet.Proofs.Session.Basic
import SnmpSet.Proofs.Session.Writes
import SnmpSet.Proofs.KeyChange.Masking
import SnmpSet.Proofs.Session.Authorisation
import SnmpSet.Proofs.Session.Counter
import SnmpSet.Proofs.Session.KeyRotation
import SnmpSet.Proofs.KeyChange.Secrecy
import SnmpSet.Proofs.Batch.Secrecy
import SnmpSet.Proofs.Agent.Frame
import SnmpSet.Proofs.Session.Secrecy
import SnmpSet.Proofs.Session.Rules
import SnmpSet.Proofs.Session.SingleBindings
import SnmpSet.Proofs.Clients.Places
import SnmpSet.Proofs.Clients.Admission
import SnmpSet.Proofs.Clients.Moves
import SnmpSet.Proofs.Clients.Locks
import SnmpSet.Proofs.Clients.Underway
import SnmpSet.Proofs.Clients.Serial
import SnmpSet.Proofs.Clients.Progress
import SnmpSet.Proofs.Config.InitialValues
import SnmpSet.Proofs.Change
import SnmpSet.Proofs.Agent.Notifications
import SnmpSet.Proofs.Session.History
import SnmpSet.Proofs.KeyChange.Coding
import SnmpSet.Proofs.Session.BaseTypes
import SnmpSet.Proofs.Session.Events
import SnmpSet.Proofs.Config.ValueRanges
import SnmpSet.Proofs.CapabilityTable.Calls
import SnmpSet.Proofs.CapabilityTable.History
import SnmpSet.Proofs.PendingWrite
import SnmpSet.Proofs.Oid.Index
import SnmpSet.Proofs.KeyChange.Owner
import SnmpSet.Proofs.Json.Text
import SnmpSet.Proofs.Json.Values
import SnmpSet.Proofs.Oid.Dotted
import SnmpSet.Proofs.KeyChange.Chain
import SnmpSet.Proofs.KeyChange.Limits
import SnmpSet.Proofs.Traversal
import SnmpSet.Proofs.Oid.Spelling
import SnmpSet.Proofs.Oid.Canonical
import SnmpSet.Proofs.Session.Proposals
import SnmpSet.Proofs.Config.Enforcement
import SnmpSet.Proofs.Config.Assembly
import SnmpSet.Proofs.Config.Keys
import SnmpSet.Proofs.Agent.Strangers
import SnmpSet.Proofs.KeyChange.Diagnostics
import SnmpSet.Proofs.Session.CounterRules
import SnmpSet.Proofs.Session.Stamps
import SnmpSet.Proofs.Oid.Order
import SnmpSet.Proofs.RuleOrder
import SnmpSet.Proofs.ConceptualRow
import SnmpSet.Proofs.Session.Membership
import SnmpSet.Proofs.Value.Text
import SnmpSet.Proofs.Oid.Decoding
