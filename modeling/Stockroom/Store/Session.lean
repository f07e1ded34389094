import Stockroom.Store.Listing
import Stockroom.Store.UnitOfWork

/-!
# Store/Session — a store that answers requests

A `Store` is the committed state and the number for the next order.  A `Session` is the store as one
caller meets it: together with the unit of work that this caller holds open.  `Session.answer` is the
meaning of every `StoreRequest`.  Each request is answered in one step, so callers interleave only
between requests.

Order numbers are drawn outside of the committed state: a number is never given twice, even if the
unit of work that drew it is rolled back.
-/

namespace Stockroom

/-- The committed state and the number for the next order. -/
structure Store where
  committed : Store.Tables
  nextOrder : Int
deriving DecidableEq

namespace Store

/-- A new store. -/
def empty : Store := ⟨.empty, 1⟩

/-- A store, and the unit of work that one caller holds open. -/
structure Session where
  store : Store
  unit : Option UnitOfWork
deriving DecidableEq

namespace Session

/-- The write that a request makes, if it makes one. -/
def write? (s : Session) : UnitRequest → Option Write
  | .replaceStock next expectedVersion => some (.replaceStock next expectedVersion)
  | .increaseStock product quantity now => some (.increaseStock product quantity now)
  | .insertReservation reservation => some (.insertReservation reservation)
  | .moveReservation product order expected next now =>
    some (.moveReservation product order expected next now)
  | .appendEntry entry => some (.appendEntry entry)
  | .insertOrder draft => some (.insertOrder (draft.toOrder ⟨s.store.nextOrder⟩))
  | .replaceOrder order expected => some (.replaceOrder order expected)
  | .findStock _ | .findReservation .. | .findOrder _ => none

/-- **Whether a request meets the committed state.**  Inside a unit of work only the first write to a
row does. -/
def isShared (s : Session) : StoreRequest → Bool
  | .rollback => false
  | .within request =>
    ((s.write? request).bind Write.row?).any fun row => row ∉ s.unit.elim [] (·.written)
  | _ => true

/-- The answer to a request that only reads. -/
def reading {α : Type} (s : Session) (answer : α) : Except StoreError α × Session := (.ok answer, s)

/-- The session after the committed state has changed. -/
def withCommitted (s : Session) (committed : Tables) : Session :=
  { s with store := { s.store with committed := committed } }

/-- The answer to a request inside a unit of work when there is none. -/
def noUnit {α : Type} (s : Session) : Except StoreError α × Session :=
  (.error (.operationFailed "no open unit of work"), s)

/-- Makes a write in the open unit of work. -/
def stage (s : Session) (write : Write) : Except StoreError Bool × Session :=
  match s.unit with
  | none => s.noUnit
  | some u =>
    let (answer, u) := u.stage s.store.committed write
    (answer, { s with unit := some u })

/-- Reads in the open unit of work. -/
def find {α : Type} (s : Session) (read : Tables → α) : Except StoreError α × Session :=
  match s.unit with
  | none => s.noUnit
  | some u => s.reading (read u.working)

/-- Makes a write that has no condition of its own. -/
def stageUnit (s : Session) (write : Write) : Except StoreError Unit × Session :=
  let (answer, s) := s.stage write
  (answer.map fun _ => (), s)

/-- Numbers a draft and writes the order. -/
def insertOrder (s : Session) (draft : Draft) : Except StoreError Order × Session :=
  let order := draft.toOrder ⟨s.store.nextOrder⟩
  let s := { s with store := { s.store with nextOrder := s.store.nextOrder + 1 } }
  let (answer, s) := s.stage (.insertOrder order)
  (answer.map fun _ => order, s)

/-- The answers inside a unit of work. -/
def answerWithin (s : Session) : (request : UnitRequest) →
    Except StoreError request.Result × Session
  | .findStock product => s.find (·.liveStock? product)
  | .replaceStock next expectedVersion => s.stage (.replaceStock next expectedVersion)
  | .increaseStock product quantity now => s.stage (.increaseStock product quantity now)
  | .insertReservation reservation => s.stageUnit (.insertReservation reservation)
  | .findReservation product order => s.find (·.reservation? product order)
  | .moveReservation product order expected next now =>
    s.stage (.moveReservation product order expected next now)
  | .appendEntry entry => s.stageUnit (.appendEntry entry)
  | .insertOrder draft => s.insertOrder draft
  | .findOrder order => s.find (·.order? order)
  | .replaceOrder order expected => s.stage (.replaceOrder order expected)

/-- Makes the writes of the open unit of work take effect, and closes it. -/
def commit (s : Session) : Except StoreError Unit × Session :=
  match s.unit with
  | none => s.noUnit
  | some u =>
    let closed := { s with unit := none }
    match u.commit s.store.committed with
    | .ok committed => (.ok (), closed.withCommitted committed)
    | .error error => (.error error, closed)

/-- Adds the record of a product that the stockroom never had. -/
def createStock (s : Session) (record : StockRecord) : Except StoreError Unit × Session :=
  let t := s.store.committed
  if t.stock.contains record.product then
    (.error (.uniqueViolation s!"商品 {record.product} の在庫は既に存在します"), s)
  else (.ok (), s.withCommitted (t.putLive record.product record))

/-- Changes the threshold of a live record. -/
def setThreshold (s : Session) (product : ProductId) (threshold : Int) (now : Instant) :
    Except StoreError Bool × Session :=
  let t := s.store.committed
  match t.liveStock? product with
  | none => (.ok false, s)
  | some record =>
    match record.withThreshold threshold now with
    | .ok updated => (.ok true, s.withCommitted (t.putLive product updated))
    | .error refusal => (.error (.operationFailed refusal.message), s)

/-- Takes a live record out of the stockroom; its row stays. -/
def removeStock (s : Session) (product : ProductId) (now : Instant) :
    Except StoreError Bool × Session :=
  let t := s.store.committed
  match t.liveStock? product with
  | none => (.ok false, s)
  | some record =>
    (.ok true, s.withCommitted { t with stock := t.stock.insert product ⟨record, some now⟩ })

/-- **The answers of a store.** -/
def answer (s : Session) : (request : StoreRequest) → Except StoreError request.Result × Session
  | .begin => (.ok (), { s with unit := some (.start s.store.committed) })
  | .commit => s.commit
  | .rollback => (.ok (), { s with unit := none })
  | .within request => s.answerWithin request
  | .createStock record => s.createStock record
  | .stockOf product => s.reading (s.store.committed.liveStock? product)
  | .listStock page => s.reading (Page.cut s.store.committed.liveRecords page)
  | .listLowStock page => s.reading (Page.cut s.store.committed.lowRecords page)
  | .setThreshold product threshold now => s.setThreshold product threshold now
  | .removeStock product now => s.removeStock product now
  | .entriesOf product page => s.reading (Page.cut (s.store.committed.entriesOf product) page)
  | .expiredReservations now limit =>
    s.reading (s.store.committed.expiredReservations now limit)
  | .reservationsOf order => s.reading (s.store.committed.reservationsOf order)
  | .orderOf order => s.reading (s.store.committed.order? order)
  | .orderByNumber orderNo => s.reading (s.store.committed.orderByNumber? orderNo)
  | .ordersOf user page => s.reading (Page.cut (s.store.committed.ordersOf user) page)
  | .productsOf products => s.reading (s.store.committed.productsOf products)

end Session

end Store

end Stockroom
