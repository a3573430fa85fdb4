import HandleLedger.Action
import HandleLedger.Check
import HandleLedger.Code
import HandleLedger.Config
import HandleLedger.Config.File
import HandleLedger.Context
import HandleLedger.ContextId
import HandleLedger.Interception.Child
import HandleLedger.Interception.Creation
import HandleLedger.Interception.Destruction
import HandleLedger.Interception.Layer
import HandleLedger.Interception.Passage
import HandleLedger.Interception.Request
import HandleLedger.Interception.Use
import HandleLedger.Kind
import HandleLedger.Ledger
import HandleLedger.Ledger.Leak
import HandleLedger.Ledger.Lifecycle
import HandleLedger.Ledger.Operation
import HandleLedger.Ledger.Registration
import HandleLedger.Ledger.Removal
import HandleLedger.Ledger.Validation
import HandleLedger.Log
import HandleLedger.Proofs.Config.Decoding
import HandleLedger.Proofs.Config.Loading
import HandleLedger.Proofs.Interception.Arguments
import HandleLedger.Proofs.Interception.Custody
import HandleLedger.Proofs.Interception.Diagnosis
import HandleLedger.Proofs.Interception.Exchange
import HandleLedger.Proofs.Interception.Failure
import HandleLedger.Proofs.Interception.Freeing
import HandleLedger.Proofs.Interception.Gate
import HandleLedger.Proofs.Interception.Run
import HandleLedger.Proofs.Interception.Teardown
import HandleLedger.Proofs.Interception.Unknown
import HandleLedger.Proofs.Interception.Verdicts
import HandleLedger.Proofs.Ledger.Arrival
import HandleLedger.Proofs.Ledger.Classification
import HandleLedger.Proofs.Ledger.Confinement
import HandleLedger.Proofs.Ledger.Departure
import HandleLedger.Proofs.Ledger.Effect
import HandleLedger.Proofs.Ledger.Exchange
import HandleLedger.Proofs.Ledger.Interleaving
import HandleLedger.Proofs.Ledger.Leakage
import HandleLedger.Proofs.Ledger.Overlap
import HandleLedger.Proofs.Ledger.Parentage
import HandleLedger.Proofs.Ledger.Phase
import HandleLedger.Proofs.Ledger.Recognition
import HandleLedger.Proofs.Ledger.Replay
import HandleLedger.Proofs.Ledger.Sequence
import HandleLedger.Proofs.Ledger.Sweep
import HandleLedger.Proofs.Ledger.Validation
import HandleLedger.Proofs.Lifetime.Alarm
import HandleLedger.Proofs.Lifetime.Clearance
import HandleLedger.Proofs.Lifetime.Families
import HandleLedger.Proofs.Lifetime.Images
import HandleLedger.Proofs.Lifetime.Lineage
import HandleLedger.Proofs.Lifetime.Mirror
import HandleLedger.Proofs.Lifetime.Pairing
import HandleLedger.Proofs.Lifetime.Return
import HandleLedger.Proofs.Lifetime.Shadow
import HandleLedger.Proofs.Lifetime.World
import HandleLedger.Proofs.Registry.Account
import HandleLedger.Proofs.Registry.Custody
import HandleLedger.Proofs.Registry.Drop
import HandleLedger.Proofs.Registry.Inventory
import HandleLedger.Proofs.Registry.LookUp
import HandleLedger.Proofs.Registry.Remainder
import HandleLedger.Proofs.Registry.Renumber
import HandleLedger.Proofs.Registry.Width
import HandleLedger.Proofs.Toml.Keys
import HandleLedger.Record
import HandleLedger.Registry
import HandleLedger.Registry.Operation
import HandleLedger.Registry.Tally
import HandleLedger.Report
import HandleLedger.Severity
import HandleLedger.Sink
import HandleLedger.Status
import HandleLedger.Table
import HandleLedger.Text.Hexadecimal
import HandleLedger.Toml.Blank
import HandleLedger.Toml.Decoder
import HandleLedger.Toml.Document
import HandleLedger.Toml.Expression
import HandleLedger.Toml.Moment
import HandleLedger.Toml.Number
import HandleLedger.Toml.Outline
import HandleLedger.Toml.Quoted
import HandleLedger.Toml.Reader
import HandleLedger.Toml.Value
import HandleLedger.Trace
