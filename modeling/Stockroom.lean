import Stockroom.Adjustment
import Stockroom.Availability
import Stockroom.Cache
import Stockroom.Command
import Stockroom.Command.Reply
import Stockroom.Database.Browser
import Stockroom.Database.Cells
import Stockroom.Database.ClientFailure
import Stockroom.Database.Connection
import Stockroom.Database.Description
import Stockroom.Database.Row
import Stockroom.Database.RowJson
import Stockroom.Database.Statement
import Stockroom.Database.Store
import Stockroom.Database.Tables
import Stockroom.Dispatch
import Stockroom.Json.DecodeError
import Stockroom.Json.Decoder
import Stockroom.Json.Document
import Stockroom.Json.Edit
import Stockroom.Json.Reader
import Stockroom.Json.RecordForm
import Stockroom.Json.Source
import Stockroom.Json.Text
import Stockroom.Json.Value
import Stockroom.Main
import Stockroom.Number.Binary64
import Stockroom.ProductId
import Stockroom.Program
import Stockroom.Proofs.Agreement.Lockstep
import Stockroom.Proofs.Agreement.Operations
import Stockroom.Proofs.Agreement.Returned
import Stockroom.Proofs.Agreement.Runs
import Stockroom.Proofs.Agreement.Stores
import Stockroom.Proofs.Agreement.Sweeps
import Stockroom.Proofs.Cache
import Stockroom.Proofs.Cache.History
import Stockroom.Proofs.Concurrency.CachedCalls
import Stockroom.Proofs.Concurrency.CachedReads
import Stockroom.Proofs.Concurrency.Coherence
import Stockroom.Proofs.Concurrency.Commuting
import Stockroom.Proofs.Concurrency.Linearizable
import Stockroom.Proofs.Concurrency.Linearization
import Stockroom.Proofs.Concurrency.Order
import Stockroom.Proofs.Concurrency.Process
import Stockroom.Proofs.Concurrency.Redelivery
import Stockroom.Proofs.Concurrency.RowAccess
import Stockroom.Proofs.Concurrency.Rows
import Stockroom.Proofs.Concurrency.SerialDeliveries
import Stockroom.Proofs.Concurrency.Units
import Stockroom.Proofs.Concurrency.WaitFor
import Stockroom.Proofs.Database.Alone
import Stockroom.Proofs.Database.Calls
import Stockroom.Proofs.Database.Columns
import Stockroom.Proofs.Database.Contents
import Stockroom.Proofs.Database.Decoding
import Stockroom.Proofs.Database.Editing
import Stockroom.Proofs.Database.Holdings
import Stockroom.Proofs.Database.Inverse
import Stockroom.Proofs.Database.Listings
import Stockroom.Proofs.Database.Mirroring
import Stockroom.Proofs.Database.Overdue
import Stockroom.Proofs.Database.ReadBack
import Stockroom.Proofs.Database.Readable
import Stockroom.Proofs.Database.Regrouping
import Stockroom.Proofs.Database.Resting
import Stockroom.Proofs.Database.Rows
import Stockroom.Proofs.Database.Serving
import Stockroom.Proofs.Database.Succeeding
import Stockroom.Proofs.Database.Transaction
import Stockroom.Proofs.Database.TwoPhase
import Stockroom.Proofs.Json.Canonical
import Stockroom.Proofs.Json.Ordering
import Stockroom.Proofs.Json.Reading
import Stockroom.Proofs.Json.Scalars
import Stockroom.Proofs.Json.Texts
import Stockroom.Proofs.Json.Yielding
import Stockroom.Proofs.Program
import Stockroom.Proofs.Service.Accounting
import Stockroom.Proofs.Service.Caching
import Stockroom.Proofs.Service.Calls
import Stockroom.Proofs.Service.Checking
import Stockroom.Proofs.Service.Confirming
import Stockroom.Proofs.Service.Contest
import Stockroom.Proofs.Service.Contested
import Stockroom.Proofs.Service.Deadlines
import Stockroom.Proofs.Service.Delivery
import Stockroom.Proofs.Service.Dispatching
import Stockroom.Proofs.Service.Draining
import Stockroom.Proofs.Service.Effects
import Stockroom.Proofs.Service.Failing
import Stockroom.Proofs.Service.GivingBack
import Stockroom.Proofs.Service.Issued
import Stockroom.Proofs.Service.Ledger
import Stockroom.Proofs.Service.Lifecycle
import Stockroom.Proofs.Service.Occasion
import Stockroom.Proofs.Service.Paging
import Stockroom.Proofs.Service.Reading
import Stockroom.Proofs.Service.Recording
import Stockroom.Proofs.Service.Remembering
import Stockroom.Proofs.Service.Replay
import Stockroom.Proofs.Service.Requested
import Stockroom.Proofs.Service.Reserving
import Stockroom.Proofs.Service.Settling
import Stockroom.Proofs.Service.Sweeping
import Stockroom.Proofs.Service.ToldApart
import Stockroom.Proofs.Service.Validating
import Stockroom.Proofs.SortedMap
import Stockroom.Proofs.Sorting
import Stockroom.Proofs.Stock.Arithmetic
import Stockroom.Proofs.Stock.Consolidating
import Stockroom.Proofs.Stock.ExactUnits
import Stockroom.Proofs.Stock.InPlace
import Stockroom.Proofs.Stock.Lines
import Stockroom.Proofs.Stock.Summing
import Stockroom.Proofs.Store.Confirming
import Stockroom.Proofs.Store.Draining
import Stockroom.Proofs.Store.Effects
import Stockroom.Proofs.Store.Expiring
import Stockroom.Proofs.Store.Footprint
import Stockroom.Proofs.Store.LockOrder
import Stockroom.Proofs.Store.Locking
import Stockroom.Proofs.Store.Overflowing
import Stockroom.Proofs.Store.Paging
import Stockroom.Proofs.Store.Perform
import Stockroom.Proofs.Store.Reserving
import Stockroom.Proofs.Store.Settling
import Stockroom.Proofs.Store.Touched
import Stockroom.Proofs.Store.WorkingCopy
import Stockroom.Proofs.Ties
import Stockroom.Proofs.Time.Calendar
import Stockroom.Proofs.Time.Holds
import Stockroom.Proofs.Time.Rfc3339
import Stockroom.Proofs.Uuid
import Stockroom.Proofs.Wire.Records
import Stockroom.Proofs.Wire.Reply
import Stockroom.Proofs.Wire.Results
import Stockroom.Proofs.Wire.RoundTrip
import Stockroom.Quantity
import Stockroom.Quantity.Arithmetic
import Stockroom.Rehearsal.Backing
import Stockroom.Rehearsal.Fault
import Stockroom.Rehearsal.Hook
import Stockroom.Rehearsal.Label
import Stockroom.Reservation
import Stockroom.Reservation.Status
import Stockroom.Service
import Stockroom.Service.Request
import Stockroom.Service.Surroundings
import Stockroom.Settings
import Stockroom.Settings.CommandLine
import Stockroom.SortedMap
import Stockroom.Sorting
import Stockroom.StockError
import Stockroom.StockRecord
import Stockroom.Store.Call
import Stockroom.Store.Hold
import Stockroom.Store.Memory
import Stockroom.Store.Page
import Stockroom.Store.UnitOfWork
import Stockroom.Sweep
import Stockroom.Text.Blank
import Stockroom.Text.Integer
import Stockroom.Text.Printable
import Stockroom.Text.Quoted
import Stockroom.Time.Calendar
import Stockroom.Time.Instant
import Stockroom.Time.Microsecond
import Stockroom.Time.Rfc3339
import Stockroom.Uuid
import Stockroom.Violation
import Stockroom.Wire.Catalogue
import Stockroom.Wire.Command
import Stockroom.Wire.Failure
import Stockroom.Wire.Report
import Stockroom.Wire.Reservation
import Stockroom.Wire.Scalar
import Stockroom.Wire.Stock
