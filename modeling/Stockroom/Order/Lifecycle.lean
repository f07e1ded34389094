import Stockroom.Order.Draft

/-!
# Order/Lifecycle — an order and its moves

An `Order` is a draft with a number, a status and the times of its moves.  `pay`, `ship`, `complete`
and `cancel` answer the order after the move, or a refusal if its status does not allow it.

`OrderMove.carryOut` makes the same moves on an order where it stands, with one write after the other.
-/

namespace Stockroom

/-- When an order made each of its moves. -/
structure Timeline where
  paidAt : Option Instant
  shippedAt : Option Instant
  completedAt : Option Instant
  cancelledAt : Option Instant
  updatedAt : Instant
deriving DecidableEq, Repr

/-- An order that the store has numbered. -/
structure Order where
  id : OrderId
  draft : Draft
  status : OrderStatus
  timeline : Timeline
deriving DecidableEq, Repr

/-- The order that a draft becomes under a number. -/
def Draft.toOrder (draft : Draft) (id : OrderId) : Order :=
  ⟨id, draft, .pending, ⟨none, none, none, none, draft.createdAt⟩⟩

namespace Order

def user (o : Order) : UserId := o.draft.user
def items (o : Order) : List OrderItem := o.draft.items
def isOwnedBy (o : Order) (user : UserId) : Bool := o.user = user

/-- The order in its next status, if it is in the expected one. -/
def moveTo (o : Order) (expected next : OrderStatus) (now : Instant) : Except Refusal Order :=
  if o.status = expected then
    .ok { o with status := next, timeline := { o.timeline with updatedAt := now } }
  else .error (.invalidMove (.orderMove o.id o.status next))

def pay (o : Order) (now : Instant) : Except Refusal Order := do
  let paid ← o.moveTo .pending .paid now
  return { paid with timeline := { paid.timeline with paidAt := some now } }

def ship (o : Order) (now : Instant) : Except Refusal Order := do
  let shipped ← o.moveTo .paid .shipped now
  return { shipped with timeline := { shipped.timeline with shippedAt := some now } }

def complete (o : Order) (now : Instant) : Except Refusal Order := do
  let completed ← o.moveTo .shipped .completed now
  return { completed with timeline := { completed.timeline with completedAt := some now } }

/-- Only an order that is not yet paid can be cancelled. -/
def cancel (o : Order) (now : Instant) : Except Refusal Order :=
  match o.status with
  | .pending =>
    .ok { o with
      status := .cancelled
      timeline := { o.timeline with cancelledAt := some now, updatedAt := now } }
  | .completed | .cancelled => .error (.invalidMove (.orderClosed o.id o.status))
  | .paid | .shipped => .error (.invalidMove (.orderPaid o.id))

end Order

/-- The moves of an order. -/
inductive OrderMove where
  | pay
  | ship
  | complete
  | cancel
deriving DecidableEq, Repr

/-- The order after a move. -/
def OrderMove.apply : OrderMove → Order → Instant → Except Refusal Order
  | pay => Order.pay
  | ship => Order.ship
  | complete => Order.complete
  | cancel => Order.cancel

/-! ## Moves in place -/

/-- Work on an order where it stands: what it has written stays written, also when it is turned down. -/
abbrev Order.InPlace := EStateM Refusal Order

namespace Order.InPlace

/-- The order gets its next status, if it is in the expected one. -/
def advance (expected next : OrderStatus) (now : Instant) : InPlace Unit := do
  let o ← get
  unless o.status = expected do throw (.invalidMove (.orderMove o.id o.status next))
  modify fun o => { o with status := next }
  modify fun o => { o with timeline := { o.timeline with updatedAt := now } }

/-- Only an order that is not yet paid can be cancelled. -/
def ensureOpen : InPlace Unit := do
  let o ← get
  match o.status with
  | .pending => return
  | .completed | .cancelled => throw (.invalidMove (.orderClosed o.id o.status))
  | .paid | .shipped => throw (.invalidMove (.orderPaid o.id))

end Order.InPlace

/-- **A move on an order where it stands.** -/
def OrderMove.carryOut (move : OrderMove) (now : Instant) : Order.InPlace Unit := do
  match move with
  | pay =>
    .advance .pending .paid now
    modify fun o => { o with timeline := { o.timeline with paidAt := some now } }
  | ship =>
    .advance .paid .shipped now
    modify fun o => { o with timeline := { o.timeline with shippedAt := some now } }
  | complete =>
    .advance .shipped .completed now
    modify fun o => { o with timeline := { o.timeline with completedAt := some now } }
  | cancel =>
    .ensureOpen
    modify fun o => { o with status := .cancelled }
    modify fun o => { o with timeline := { o.timeline with cancelledAt := some now } }
    modify fun o => { o with timeline := { o.timeline with updatedAt := now } }

end Stockroom
