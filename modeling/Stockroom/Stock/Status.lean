/-!
# Stock/Status — what has become of a reservation, and what moves stock

`ReservationStatus` starts at `active` and moves once, to one of three ends.  `ChangeKind` says
which operation moved the stock of a product.  Both have a written form, which reads back.
-/

namespace Stockroom

/-- What has become of a reservation. -/
inductive ReservationStatus where
  | active
  | confirmed
  | cancelled
  | expired
deriving DecidableEq, Repr

namespace ReservationStatus

/-- All statuses, from the first to the ends. -/
def all : List ReservationStatus := [active, confirmed, cancelled, expired]

def text : ReservationStatus → String
  | active => "active"
  | confirmed => "confirmed"
  | cancelled => "cancelled"
  | expired => "expired"

instance : ToString ReservationStatus := ⟨text⟩

def ofText? : String → Option ReservationStatus
  | "active" => some active
  | "confirmed" => some confirmed
  | "cancelled" => some cancelled
  | "expired" => some expired
  | _ => none

theorem ofText?_text (s : ReservationStatus) : ofText? s.text = some s := by
  cases s <;> rfl

/-- Whether no move leads away. -/
def isTerminal (s : ReservationStatus) : Bool := s != active

/-- **The moves of a reservation**: from `active` to anything else. -/
def canMoveTo (s next : ReservationStatus) : Bool := s == active && next != active

end ReservationStatus

/-- Why reserved stock is given back: its order was cancelled, or its time ran out. -/
inductive ReleaseTarget where
  | cancelled
  | expired
deriving DecidableEq, Repr

namespace ReleaseTarget

/-- The status that the released reservation ends in. -/
def status : ReleaseTarget → ReservationStatus
  | cancelled => .cancelled
  | expired => .expired

/-- The reason that the stock ledger records. -/
def reason : ReleaseTarget → String
  | cancelled => "Stock released from cancelled order"
  | expired => "Stock released from expired reservation"

end ReleaseTarget

/-- The kinds of stock movement. -/
inductive ChangeKind where
  | restock
  | reserve
  | release
  | deduct
  | adjust
deriving DecidableEq, Repr

namespace ChangeKind

def text : ChangeKind → String
  | restock => "restock"
  | reserve => "reserve"
  | release => "release"
  | deduct => "deduct"
  | adjust => "adjust"

instance : ToString ChangeKind := ⟨text⟩

def ofText? : String → Option ChangeKind
  | "restock" => some restock
  | "reserve" => some reserve
  | "release" => some release
  | "deduct" => some deduct
  | "adjust" => some adjust
  | _ => none

theorem ofText?_text (k : ChangeKind) : ofText? k.text = some k := by
  cases k <;> rfl

end ChangeKind

end Stockroom
