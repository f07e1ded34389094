import Stockroom.Calendar.Instant
import Stockroom.Refusal

/-!
# Stock/Reservation — pieces of a product held for an order

A `Reservation` holds a quantity of one product for one order until it expires.  There is at most
one for each pair of product and order, its `ReservationKey`.
-/

namespace Stockroom

/-- The pair that names a reservation. -/
structure ReservationKey where
  product : ProductId
  order : OrderId
deriving DecidableEq, Repr

namespace ReservationKey

/-- Keys are ordered by product, then by order. -/
instance : Ord ReservationKey := ⟨compareLex (compareOn product) (compareOn order)⟩

instance : Std.TransOrd ReservationKey :=
  inferInstanceAs (Std.TransCmp (compareLex (compareOn product) (compareOn order)))

instance : Std.LawfulEqOrd ReservationKey where
  eq_of_compare {a b} h := by
    obtain ⟨hp, ho⟩ : compare a.product b.product = .eq ∧ compare a.order b.order = .eq :=
      Ordering.then_eq_eq.mp h
    cases a; cases b
    cases Std.LawfulEqOrd.eq_of_compare hp
    cases Std.LawfulEqOrd.eq_of_compare ho
    rfl

end ReservationKey

/-- Pieces of a product held for an order. -/
structure Reservation where
  product : ProductId
  order : OrderId
  quantity : Int
  status : ReservationStatus
  expiresAt : Instant
  createdAt : Instant
  updatedAt : Instant
deriving DecidableEq, Repr

namespace Reservation

def key (r : Reservation) : ReservationKey := ⟨r.product, r.order⟩

/-- A reservation that starts now and lasts until `expiresAt`. -/
def start (product : ProductId) (order : OrderId) (quantity : Int) (expiresAt now : Instant) :
    Reservation :=
  ⟨product, order, quantity, .active, expiresAt, now, now⟩

/-- **A reservation for a span of time.**  There is no answer at all if its end lies outside the
calendar. -/
def lasting (product : ProductId) (order : OrderId) (quantity : Int) (ttl : Span)
    (now : Instant) : ExceptT Refusal Option Reservation := do
  ensurePositive quantity
  let expiresAt ← ExceptT.lift (now.after? ttl)
  return start product order quantity expiresAt now

/-- Whether the reservation still holds its pieces although its time is over. -/
def isExpiredAt (r : Reservation) (now : Instant) : Bool :=
  r.status == .active && r.expiresAt < now

/-- A reservation can be settled while it is active, and only as a whole. -/
def ensureSettleable (r : Reservation) (quantity : Int) : Except Refusal Unit := do
  unless r.status = .active do
    throw (.invalidMove (.reservationNotActive r.product r.order r.status))
  unless r.quantity = quantity do
    throw (.invalidValue (.quantityMismatch r.quantity quantity))

/-- The reservation after a move to another status. -/
def moveTo (r : Reservation) (next : ReservationStatus) (now : Instant) :
    Except Refusal Reservation := do
  unless r.status.canMoveTo next do
    throw (.invalidMove (.reservationMove r.status next))
  return { r with status := next, updatedAt := now }

end Reservation

end Stockroom
