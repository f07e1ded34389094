import Stockroom.Host.Error

/-!
# Sql/Failure — what a database reports, sorted by what it means for a store

A `Failure` is what the client of a database learns when a statement does not succeed.
`DatabaseError.classify` sorts it: a doubled key, a conflict that another attempt may get past, a
lost connection, or anything else.  `DatabaseError.toStore` says which `StoreError` that is.
-/

namespace Stockroom.Sql

/-- How a column is named: by its own name, or by its place. -/
inductive ColumnName where
  | named (name : String)
  | first
deriving DecidableEq, Repr

/-- The name of a column in a message. -/
def ColumnName.label : ColumnName → String
  | named name => s!"\"{name}\""
  | first => "0"

/-- Why a cell cannot be read. -/
inductive CellFault where
  | null
  | outOfRange
  | otherType
deriving DecidableEq, Repr

def CellFault.message : CellFault → String
  | null => "unexpected null; try decoding as an `Option`"
  | outOfRange => "out of range integral type conversion attempted"
  | otherType => "mismatched types"

/-- Why a statement, or the reading of its result, did not succeed. -/
inductive Failure where
  | noRow
  | poolTimedOut
  | poolClosed
  | workerCrashed
  | io (detail : String)
  | malformedData (detail : String)
  | columnMissing (column : String)
  | cellUnreadable (column : ColumnName) (fault : CellFault)
  /-- An error of the server, with its number and its SQLSTATE. -/
  | server (number : Nat) (state : Option String) (detail : String)
  /-- An error of a server that numbers its errors differently. -/
  | otherServer (state : Option String) (isUniqueViolation : Bool) (detail : String)
deriving DecidableEq, Repr

namespace Failure

/-- The sentence that reports the failure. -/
def message : Failure → String
  | noRow => "no rows returned by a query that expected to return at least one row"
  | poolTimedOut => "pool timed out while waiting for an open connection"
  | poolClosed => "attempted to acquire a connection on a closed pool"
  | workerCrashed => "attempted to communicate with a crashed background worker"
  | io detail => s!"error communicating with database: {detail}"
  | malformedData detail => s!"encountered unexpected or invalid data: {detail}"
  | columnMissing column => s!"no column found for name: {column}"
  | cellUnreadable column fault =>
    s!"error occurred while decoding column {column.label}: {fault.message}"
  | server number (some state) detail =>
    s!"error returned from database: {number} ({state}): {detail}"
  | server number none detail => s!"error returned from database: {number}: {detail}"
  | otherServer _ _ detail => s!"error returned from database: {detail}"

/-- The number of the error for a doubled key. -/
def duplicateEntry : Nat := 1062

/-- The numbers of the errors for a deadlock and for a lock that was not granted in time. -/
def lockConflicts : List Nat := [1213, 1205]

/-- The numbers of all errors that report a violated unique key. -/
def uniqueViolations : List Nat := [1022, 1062, 1169, 1586, 1859]

/-- The SQLSTATE of a transaction that could not be serialised. -/
def serializationFailure : String := "40001"

end Failure

/-- What a failure means. -/
inductive FailureKind where
  | connection
  | query
  | duplicate
  | conflict
  | migration
deriving DecidableEq, Repr

/-- **What a failure means**, judged by its number first and by its SQLSTATE second. -/
def Failure.kind : Failure → FailureKind
  | server number state _ =>
    if number = duplicateEntry then .duplicate
    else if number ∈ lockConflicts then .conflict
    else if state = some serializationFailure then .conflict
    else if number ∈ uniqueViolations then .duplicate
    else .query
  | otherServer state isUniqueViolation _ =>
    if state = some serializationFailure then .conflict
    else if isUniqueViolation then .duplicate
    else .query
  | poolTimedOut | poolClosed | io _ => .connection
  | _ => .query

/-- A failure sorted by its meaning, with a text for people. -/
structure DatabaseError where
  kind : FailureKind
  detail : String
deriving DecidableEq, Repr

namespace DatabaseError

def message (e : DatabaseError) : String :=
  match e.kind with
  | .connection => s!"Database connection error: {e.detail}"
  | .query => s!"Database query error: {e.detail}"
  | .duplicate => s!"Duplicate entry: {e.detail}"
  | .conflict => s!"Transaction conflict: {e.detail}"
  | .migration => s!"Migration error: {e.detail}"

/-- The error of an operation that met a failure. -/
def classify (operation : String) (failure : Failure) : DatabaseError :=
  ⟨failure.kind, s!"{operation}: {failure.message}"⟩

/-- **What the error means for a store.** -/
def toStore (e : DatabaseError) : StoreError :=
  match e.kind with
  | .connection => .connectionFailed e.detail
  | .query | .migration => .operationFailed e.detail
  | .duplicate => .uniqueViolation e.detail
  | .conflict => .conflict e.detail

end DatabaseError

end Stockroom.Sql
