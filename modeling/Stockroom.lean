import Stockroom.Calendar.Date
import Stockroom.Calendar.Instant
import Stockroom.Calendar.Stamp
import Stockroom.Configuration
import Stockroom.Host.Error
import Stockroom.Host.Request
import Stockroom.Identifier
import Stockroom.Json.Decode
import Stockroom.Json.Scan
import Stockroom.Json.Value
import Stockroom.Logging.Event
import Stockroom.Logging.Record
import Stockroom.Money
import Stockroom.Numeric.Numeral
import Stockroom.Numeric.Width
import Stockroom.Order.Draft
import Stockroom.Order.Lifecycle
import Stockroom.Order.Line
import Stockroom.Order.Status
import Stockroom.Page
import Stockroom.Program
import Stockroom.Proofs.Calendar.Gregorian
import Stockroom.Proofs.Configuration.Reading
import Stockroom.Proofs.Crowd.Alone
import Stockroom.Proofs.Crowd.Assured
import Stockroom.Proofs.Crowd.Backing
import Stockroom.Proofs.Crowd.Call
import Stockroom.Proofs.Crowd.Change
import Stockroom.Proofs.Crowd.Chronicle
import Stockroom.Proofs.Crowd.Cleaning
import Stockroom.Proofs.Crowd.Closing
import Stockroom.Proofs.Crowd.Collection
import Stockroom.Proofs.Crowd.Confined
import Stockroom.Proofs.Crowd.Consistency
import Stockroom.Proofs.Crowd.Counters
import Stockroom.Proofs.Crowd.Desk
import Stockroom.Proofs.Crowd.Duty
import Stockroom.Proofs.Crowd.History
import Stockroom.Proofs.Crowd.Independence
import Stockroom.Proofs.Crowd.Lasting
import Stockroom.Proofs.Crowd.Listing
import Stockroom.Proofs.Crowd.Machine
import Stockroom.Proofs.Crowd.Numbers
import Stockroom.Proofs.Crowd.Outcome
import Stockroom.Proofs.Crowd.Placement
import Stockroom.Proofs.Crowd.Plan
import Stockroom.Proofs.Crowd.Privacy
import Stockroom.Proofs.Crowd.Race
import Stockroom.Proofs.Crowd.Removal
import Stockroom.Proofs.Crowd.Replay
import Stockroom.Proofs.Crowd.Responds
import Stockroom.Proofs.Crowd.Run
import Stockroom.Proofs.Crowd.Supply
import Stockroom.Proofs.Crowd.Terms
import Stockroom.Proofs.Crowd.Threshold
import Stockroom.Proofs.Crowd.Traceless
import Stockroom.Proofs.Crowd.Trail
import Stockroom.Proofs.Data.Except
import Stockroom.Proofs.Data.List
import Stockroom.Proofs.Dialogue.Audit
import Stockroom.Proofs.Dialogue.Bodies
import Stockroom.Proofs.Dialogue.Discipline
import Stockroom.Proofs.Dialogue.Effect
import Stockroom.Proofs.Dialogue.Exchange
import Stockroom.Proofs.Dialogue.Retries
import Stockroom.Proofs.Dialogue.Transaction
import Stockroom.Proofs.Ledger.Arithmetic
import Stockroom.Proofs.Ledger.Balance
import Stockroom.Proofs.Ledger.Edit
import Stockroom.Proofs.Ledger.Held
import Stockroom.Proofs.Ledger.Movement
import Stockroom.Proofs.Ledger.Record
import Stockroom.Proofs.Ledger.Settlement
import Stockroom.Proofs.Ledger.Trail
import Stockroom.Proofs.Numeric.Numeral
import Stockroom.Proofs.Order.Amounts
import Stockroom.Proofs.Order.Lifecycle
import Stockroom.Proofs.Order.Merging
import Stockroom.Proofs.Order.Number
import Stockroom.Proofs.Order.Prepared
import Stockroom.Proofs.Order.Reckoning
import Stockroom.Proofs.Service.Absence
import Stockroom.Proofs.Service.Alone
import Stockroom.Proofs.Service.Anchoring
import Stockroom.Proofs.Service.Appraisal
import Stockroom.Proofs.Service.Cleanup
import Stockroom.Proofs.Service.Confined
import Stockroom.Proofs.Service.Orders
import Stockroom.Proofs.Service.Overlong
import Stockroom.Proofs.Service.Promise
import Stockroom.Proofs.Service.Race
import Stockroom.Proofs.Service.Reserving
import Stockroom.Proofs.Service.Responds
import Stockroom.Proofs.Service.Restock
import Stockroom.Proofs.Service.Settling
import Stockroom.Proofs.Service.Stock
import Stockroom.Proofs.Service.Threshold
import Stockroom.Proofs.Sql.Cells
import Stockroom.Proofs.Sql.Found
import Stockroom.Proofs.Sql.Orders
import Stockroom.Proofs.Sql.Perform
import Stockroom.Proofs.Sql.RoundTrip
import Stockroom.Proofs.Sql.Stored
import Stockroom.Proofs.Store.Backlog
import Stockroom.Proofs.Store.Overdue
import Stockroom.Proofs.Store.Pages
import Stockroom.Proofs.Store.Posting
import Stockroom.Proofs.Store.Removal
import Stockroom.Proofs.Store.Rows
import Stockroom.Proofs.Store.Slice
import Stockroom.Proofs.Store.Stage
import Stockroom.Proofs.Store.Threshold
import Stockroom.Proofs.Web.Answers
import Stockroom.Refusal
import Stockroom.Rehearsal.Fault
import Stockroom.Rehearsal.Rig
import Stockroom.Rehearsal.Server
import Stockroom.Rehearsal.Stage
import Stockroom.Rehearsal.Task
import Stockroom.Rehearsal.World
import Stockroom.Service.Call
import Stockroom.Service.Error
import Stockroom.Service.Orders
import Stockroom.Service.Reaper
import Stockroom.Service.Settings
import Stockroom.Service.Stock
import Stockroom.Sql.Failure
import Stockroom.Sql.Gateway
import Stockroom.Sql.Link
import Stockroom.Sql.Mapping
import Stockroom.Sql.Schema
import Stockroom.Sql.Statement
import Stockroom.Sql.Value
import Stockroom.Stock.Entry
import Stockroom.Stock.Record
import Stockroom.Stock.Reservation
import Stockroom.Stock.Status
import Stockroom.Store.Listing
import Stockroom.Store.Session
import Stockroom.Store.Table
import Stockroom.Store.Tables
import Stockroom.Store.UnitOfWork
import Stockroom.Store.Write
import Stockroom.Text.Blank
import Stockroom.Text.CodeRanges
import Stockroom.Text.Combining
import Stockroom.Text.Quoted
import Stockroom.Text.Unassigned
import Stockroom.Web.Api
import Stockroom.Web.Body
import Stockroom.Web.MediaType
import Stockroom.Web.Percent
import Stockroom.Web.Query
import Stockroom.Web.Response
import Stockroom.Web.Route
import Stockroom.Web.View
