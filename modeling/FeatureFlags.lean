import FeatureFlags.Backend
import FeatureFlags.Backend.Document
import FeatureFlags.Clock
import FeatureFlags.ContextType
import FeatureFlags.ContextType.Named
import FeatureFlags.Database.FlagTables
import FeatureFlags.Database.Migration
import FeatureFlags.Database.Program
import FeatureFlags.Database.Session
import FeatureFlags.Database.Statement
import FeatureFlags.Failure
import FeatureFlags.Feature
import FeatureFlags.FeatureState
import FeatureFlags.Http.Address
import FeatureFlags.Http.CrossOrigin
import FeatureFlags.Http.Endpoint
import FeatureFlags.Http.Message
import FeatureFlags.Http.Payload
import FeatureFlags.Http.Route
import FeatureFlags.Identifier
import FeatureFlags.Json
import FeatureFlags.Json.Display
import FeatureFlags.Json.Encoding
import FeatureFlags.Json.Reader
import FeatureFlags.Json.Writer
import FeatureFlags.Lifetime
import FeatureFlags.Log
import FeatureFlags.Log.Line
import FeatureFlags.Log.Template
import FeatureFlags.Main
import FeatureFlags.Number.Binary64
import FeatureFlags.Number.Notation
import FeatureFlags.Number.Reader
import FeatureFlags.Number.Shortest
import FeatureFlags.Populate
import FeatureFlags.Populate.Command
import FeatureFlags.Proofs.Backend
import FeatureFlags.Proofs.Database.Contract
import FeatureFlags.Proofs.Database.FlagTables
import FeatureFlags.Proofs.Database.Guarded
import FeatureFlags.Proofs.Database.Ledger
import FeatureFlags.Proofs.Database.Listing
import FeatureFlags.Proofs.Database.Migrated
import FeatureFlags.Proofs.Database.OpenPool
import FeatureFlags.Proofs.Database.Program
import FeatureFlags.Proofs.Database.Reference
import FeatureFlags.Proofs.Database.Renaming
import FeatureFlags.Proofs.Database.Reported
import FeatureFlags.Proofs.Database.SideBySide
import FeatureFlags.Proofs.Database.Simulation
import FeatureFlags.Proofs.Database.StateUpdate
import FeatureFlags.Proofs.Database.Tables
import FeatureFlags.Proofs.Database.Trace
import FeatureFlags.Proofs.Database.UpgradeTrace
import FeatureFlags.Proofs.Failure
import FeatureFlags.Proofs.Http.Answer
import FeatureFlags.Proofs.Http.Document
import FeatureFlags.Proofs.Http.Invariant
import FeatureFlags.Proofs.Http.Payload
import FeatureFlags.Proofs.Http.Route
import FeatureFlags.Proofs.Http.Surface
import FeatureFlags.Proofs.Identifier
import FeatureFlags.Proofs.Json
import FeatureFlags.Proofs.Lifetime
import FeatureFlags.Proofs.Payload
import FeatureFlags.Proofs.Payload.Grammar
import FeatureFlags.Proofs.Populate
import FeatureFlags.Proofs.Populate.Closure
import FeatureFlags.Proofs.RoundTrip
import FeatureFlags.Proofs.Settings
import FeatureFlags.Proofs.Store.Failing
import FeatureFlags.Proofs.Store.Frame
import FeatureFlags.Proofs.Store.Growth
import FeatureFlags.Proofs.Store.History
import FeatureFlags.Proofs.Store.Interrupted
import FeatureFlags.Proofs.Store.Invariant
import FeatureFlags.Proofs.Store.LockedKey
import FeatureFlags.Proofs.Store.Procedure
import FeatureFlags.Proofs.Store.Published
import FeatureFlags.Proofs.Store.Refusal
import FeatureFlags.Proofs.Store.Step
import FeatureFlags.Proofs.Store.Unused
import FeatureFlags.Proofs.Table
import FeatureFlags.Proofs.Targeting.Adequacy
import FeatureFlags.Proofs.Targeting.Canonical
import FeatureFlags.Proofs.Targeting.Effective
import FeatureFlags.Proofs.Targeting.Overrides
import FeatureFlags.Proofs.Targeting.RoundTrip
import FeatureFlags.Proofs.Targeting.RuleOrder
import FeatureFlags.Proofs.Text
import FeatureFlags.Proofs.Timestamp
import FeatureFlags.Proofs.Validation
import FeatureFlags.Proofs.Validation.Grammar
import FeatureFlags.Settings
import FeatureFlags.Settings.EnvFile
import FeatureFlags.Settings.Kept
import FeatureFlags.Store
import FeatureFlags.Store.Operation
import FeatureFlags.Store.Outage
import FeatureFlags.Table
import FeatureFlags.Targeting
import FeatureFlags.Targeting.Compile
import FeatureFlags.Targeting.Evaluation
import FeatureFlags.Text.Blank
import FeatureFlags.Text.Case
import FeatureFlags.Text.CaseTable
import FeatureFlags.Text.CasedTable
import FeatureFlags.Text.Percent
import FeatureFlags.Text.PrintableTable
import FeatureFlags.Text.Quoted
import FeatureFlags.Timestamp
import FeatureFlags.Timestamp.Reader
import FeatureFlags.Validation
import FeatureFlags.Validation.Fields
import FeatureFlags.Validation.Values
