import Stockroom.Stock.Record

/-!
# Stock/Entry — what the stock ledger records

Every committed movement of stock leaves one `Entry`, which is never changed afterwards.  The store
numbers the entries when they are committed.
-/

namespace Stockroom

/-- One movement of stock. -/
structure Entry where
  id : Option Int
  product : ProductId
  order : Option OrderId
  kind : ChangeKind
  change : Int
  before : Snapshot
  after : Snapshot
  reason : Option String
  operator : Option OperatorId
  createdAt : Instant
deriving DecidableEq, Repr

namespace Entry

/-- An entry with the counts before and after a movement. -/
def ofSnapshots (product : ProductId) (kind : ChangeKind) (change : Int)
    (before after : Snapshot) (now : Instant) : Entry where
  id := none
  product := product
  order := none
  kind := kind
  change := change
  before := before
  after := after
  reason := none
  operator := none
  createdAt := now

/-- An entry with the records before and after a movement. -/
def ofRecords (kind : ChangeKind) (change : Int) (before after : StockRecord) (now : Instant) :
    Entry :=
  ofSnapshots after.product kind change before.snapshot after.snapshot now

def forOrder (e : Entry) (order : OrderId) : Entry := { e with order := some order }

def because (e : Entry) (reason : String) : Entry := { e with reason := some reason }

def byOperator (e : Entry) (operator : Option OperatorId) : Entry :=
  { e with operator := operator }

def numbered (e : Entry) (id : Int) : Entry := { e with id := some id }

end Entry

end Stockroom
