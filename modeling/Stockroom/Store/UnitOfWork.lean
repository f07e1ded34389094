import Stockroom.Host.Request
import Stockroom.Store.Write

/-!
# Store/UnitOfWork — writes that take effect together

A `UnitOfWork` starts with a copy of the committed state and reads from it.  Its writes are applied
to the copy at once and remembered; `UnitOfWork.commit` applies the remembered writes again, to the
state that is committed by then, and either all of them take effect or none.

Before the first write to a row the copy of that row is refreshed, so a condition is always checked
against the newest committed row.
-/

namespace Stockroom.Store

/-- A unit of work in progress. -/
structure UnitOfWork where
  /-- The state that the unit of work sees. -/
  working : Tables
  /-- The rows that it has written. -/
  written : List RowName
  /-- Its writes, from the first to the last. -/
  pending : List Write
deriving DecidableEq

/-- The state with one row as it is in another state.  An order that is not there stays. -/
def Tables.refresh (t committed : Tables) : RowName → Tables
  | .stock product => { t with stock := t.stock.set product (committed.stock.get? product) }
  | .reservation key =>
    { t with reservations := t.reservations.set key (committed.reservations.get? key) }
  | .order id =>
    match committed.orders.get? id with
    | some order => { t with orders := t.orders.insert id order }
    | none => t

namespace UnitOfWork

/-- A unit of work that starts from the committed state. -/
def start (committed : Tables) : UnitOfWork := ⟨committed, [], []⟩

/-- The unit of work after the copy of a row that it has not written is refreshed. -/
def refreshed (u : UnitOfWork) (committed : Tables) (row : Option RowName) : UnitOfWork :=
  match row with
  | some row =>
    if row ∈ u.written then u else { u with working := u.working.refresh committed row }
  | none => u

/-- **Makes a write.**  It answers whether the condition of the write held. -/
def stage (u : UnitOfWork) (committed : Tables) (write : Write) :
    Except StoreError Bool × UnitOfWork :=
  let u := u.refreshed committed write.row?
  match write.apply u.working with
  | .ok working => (.ok true, ⟨working, u.written ++ write.row?.toList, u.pending ++ [write]⟩)
  | .error (.mismatch _) => (.ok false, u)
  | .error (.failed error) => (.error error, u)

/-- **Makes all writes take effect** on the committed state, or none of them. -/
def commit (u : UnitOfWork) (committed : Tables) : Except StoreError Tables :=
  match Write.applyAll u.pending committed with
  | .ok next => .ok next
  | .error (.mismatch mismatch) => .error (.conflict mismatch.message)
  | .error (.failed error) => .error error

end UnitOfWork

end Stockroom.Store
