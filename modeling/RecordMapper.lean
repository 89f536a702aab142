import RecordMapper.Config
import RecordMapper.Config.Load
import RecordMapper.Config.Toml
import RecordMapper.Config.Validate
import RecordMapper.Database
import RecordMapper.Database.Datum
import RecordMapper.Database.Engine
import RecordMapper.Database.Fault
import RecordMapper.Database.Settings
import RecordMapper.Decimal
import RecordMapper.Decimal.Shortest
import RecordMapper.Dialect
import RecordMapper.Entity
import RecordMapper.Fault
import RecordMapper.Files.Content
import RecordMapper.Files.Folder
import RecordMapper.Files.Path
import RecordMapper.InstanceKey
import RecordMapper.Json.Basic
import RecordMapper.Json.Decode
import RecordMapper.Json.Reader
import RecordMapper.Log.Event
import RecordMapper.Log.Sink
import RecordMapper.NameSet
import RecordMapper.Outcome
import RecordMapper.Predicate
import RecordMapper.Proofs.Config
import RecordMapper.Proofs.Database.Opening
import RecordMapper.Proofs.Database.Use
import RecordMapper.Proofs.Decimal
import RecordMapper.Proofs.Entity
import RecordMapper.Proofs.Entity.Isomorphism
import RecordMapper.Proofs.Faults
import RecordMapper.Proofs.Files.Folder
import RecordMapper.Proofs.Files.Path
import RecordMapper.Proofs.Hydration
import RecordMapper.Proofs.InstanceKey
import RecordMapper.Proofs.Json.Forms
import RecordMapper.Proofs.Json.Printable
import RecordMapper.Proofs.Json.Reading
import RecordMapper.Proofs.Log.Reading
import RecordMapper.Proofs.Log.Writing
import RecordMapper.Proofs.NameSet
import RecordMapper.Proofs.Query
import RecordMapper.Proofs.Reading
import RecordMapper.Proofs.Record
import RecordMapper.Proofs.Record.Change
import RecordMapper.Proofs.Registry
import RecordMapper.Proofs.Runs
import RecordMapper.Proofs.Session.Announced
import RecordMapper.Proofs.Session.Counterpart
import RecordMapper.Proofs.Session.Creation
import RecordMapper.Proofs.Session.Failure
import RecordMapper.Proofs.Session.Fetch
import RecordMapper.Proofs.Session.Footprint
import RecordMapper.Proofs.Session.History
import RecordMapper.Proofs.Session.InsertCourse
import RecordMapper.Proofs.Session.Lifecycle
import RecordMapper.Proofs.Session.Mutation
import RecordMapper.Proofs.Session.Order
import RecordMapper.Proofs.Session.Pairing
import RecordMapper.Proofs.Session.Resaved
import RecordMapper.Proofs.Session.SelectCourse
import RecordMapper.Proofs.Session.Selected
import RecordMapper.Proofs.Session.Trace
import RecordMapper.Proofs.Session.Trail
import RecordMapper.Proofs.Session.Triple
import RecordMapper.Proofs.Session.Typed
import RecordMapper.Proofs.Session.Use
import RecordMapper.Proofs.Session.Writes
import RecordMapper.Proofs.Simulation
import RecordMapper.Proofs.Statement.Acceptance
import RecordMapper.Proofs.Statement.Admitted
import RecordMapper.Proofs.Statement.Apart
import RecordMapper.Proofs.Statement.Change
import RecordMapper.Proofs.Statement.Definition
import RecordMapper.Proofs.Statement.Determined
import RecordMapper.Proofs.Statement.Ending
import RecordMapper.Proofs.Statement.Form
import RecordMapper.Proofs.Statement.Insertion
import RecordMapper.Proofs.Statement.Layout
import RecordMapper.Proofs.Statement.Mutation
import RecordMapper.Proofs.Statement.Rows
import RecordMapper.Proofs.Statement.Selection
import RecordMapper.Proofs.Statement.Structure
import RecordMapper.Proofs.Statement.Target
import RecordMapper.Proofs.Statement.Unambiguous
import RecordMapper.Proofs.Statement.Validity
import RecordMapper.Proofs.Statement.Write
import RecordMapper.Proofs.StoredNumber
import RecordMapper.Proofs.Text
import RecordMapper.Proofs.Text.Quoted
import RecordMapper.Proofs.Token
import RecordMapper.Query
import RecordMapper.Record
import RecordMapper.Registry
import RecordMapper.Row
import RecordMapper.Schema
import RecordMapper.Schema.Json
import RecordMapper.Schema.Lookup
import RecordMapper.Session
import RecordMapper.Session.Connection
import RecordMapper.Session.Fetch
import RecordMapper.Simulation
import RecordMapper.Simulation.Address
import RecordMapper.Simulation.Handle
import RecordMapper.Simulation.Image
import RecordMapper.Simulation.Place
import RecordMapper.Simulation.Sql
import RecordMapper.Statement.Condition
import RecordMapper.Statement.CreateTable
import RecordMapper.Statement.Select
import RecordMapper.Statement.Write
import RecordMapper.System
import RecordMapper.Text.Blank
import RecordMapper.Text.Hex
import RecordMapper.Text.Quoted
import RecordMapper.Text.Split
import RecordMapper.Toml
import RecordMapper.Toml.Decode
import RecordMapper.Toml.Moment
import RecordMapper.Toml.Number
import RecordMapper.Toml.Reader
import RecordMapper.Value
