import Stockroom.Proofs.Crowd.Confined
import Stockroom.Proofs.Service.Stock

/-!
# Proofs/Service/Confined — movements of stock ask about their product only

A call that reserves, releases, deducts, restocks or adjusts **makes no request about any other product
than its own** (`ServiceCall.confined`).  The record that it writes is the record that it was shown with
other counts, so it is one of the same product.
-/

namespace Stockroom

open Store Call

variable {α : Type} {p : ProductId} {Q : α → Prop}

namespace StockService

/-! ## Steps inside a unit of work -/

theorem confined_loadStock : (loadStock p).Confined p (·.product = p) :=
  .bind (.demand rfl) fun found hproper => by
    cases found with
    | some record => exact .pure hproper
    | none => exact .throw

theorem confined_loadSettleable {order : OrderId} {quantity : Int} :
    (loadSettleable p order quantity).Confined p fun _ => True :=
  .bind (.demand rfl) fun found _ => by
    cases found with
    | some reservation => exact .bind (.obey _) fun _ _ => .pure trivial
    | none => exact .throw

/-- **A record that is read, moved and written back**, where the move keeps the product. -/
theorem confined_guarded {move : StockRecord → Except Refusal StockRecord}
    (hmove : ∀ {current next}, move current = .ok next → current.SameThreshold next)
    {rest : StockRecord → StockRecord → Call α}
    (hrest : ∀ current next, next.product = p → (rest current next).Confined p Q) :
    (do
      let current ← loadStock p
      let next ← obey (move current)
      replaceGuarded current next
      rest current next).Confined p Q := by
  refine .bind confined_loadStock fun current hcurrent => .bind (.obey _) fun next hnext => ?_
  have hproduct : next.product = p := (hmove hnext).product.trans hcurrent
  exact .bind (.insist (.demand (congrArg some hproduct))) fun _ _ => hrest current next hproduct

theorem confined_settle {order : OrderId} {status : ReservationStatus} {now : Instant} :
    (settle p order status now).Confined p fun _ => True :=
  .insist (.demand rfl)

theorem confined_openReservation {order : OrderId} {quantity : Int} {ttl : Span} {now : Instant} :
    (openReservation p order quantity ttl now).Confined p (·.product = p) := by
  refine .bind (.orAbort _) fun opened hopened => ?_
  cases opened with
  | error refusal => exact .throw
  | ok reservation =>
    obtain ⟨expiresAt, -, rfl⟩ := expiry_of_lasting hopened
    exact .pure rfl

/-! ## Movements -/

theorem confined_reserveIn {quantity : Int} {order : OrderId} {ttl : Span} :
    (reserveIn p quantity order ttl).Confined p fun _ => True :=
  .bind .now fun _ _ => confined_guarded .reserve fun _ _ hnext =>
    .bind confined_openReservation fun _ hreservation =>
      .bind (.demand (congrArg some hreservation)) fun _ _ =>
        .bind (.demand (congrArg some hnext)) fun _ _ => .bind (.log _) fun _ _ => .pure trivial

theorem confined_releaseIn {quantity : Int} {order : OrderId} {target : ReleaseTarget} :
    (releaseIn p quantity order target).Confined p fun _ => True :=
  .bind .now fun _ _ => .bind confined_loadSettleable fun _ _ =>
    confined_guarded .release fun _ _ hnext => .bind confined_settle fun _ _ =>
      .bind (.demand (congrArg some hnext)) fun _ _ => .bind (.log _) fun _ _ => .pure trivial

theorem confined_deductIn {quantity : Int} {order : OrderId} :
    (deductIn p quantity order).Confined p fun _ => True :=
  .bind .now fun _ _ => .bind confined_loadSettleable fun _ _ =>
    confined_guarded .deduct fun _ _ hnext => .bind confined_settle fun _ _ =>
      .bind (.demand (congrArg some hnext)) fun _ _ => .bind (.log _) fun _ _ => .pure trivial

theorem confined_restockIn {quantity : Int} {reason : Option String} {operator : Option OperatorId} :
    (restockIn p quantity reason operator).Confined p fun _ => True :=
  .bind .now fun _ _ => .bind confined_loadStock fun _ _ => .bind (.obey _) fun _ _ =>
    .bind (.insist (.demand rfl)) fun _ _ => .bind confined_loadStock fun _ _ =>
      .bind (.demand rfl) fun _ _ => .pure trivial

theorem confined_adjustIn {delta : Int} {reason : Option String} {operator : Option OperatorId} :
    (adjustIn p delta reason operator).Confined p fun _ => True :=
  .bind .now fun _ _ => confined_guarded .adjust fun _ _ hnext =>
    .bind (.demand (congrArg some hnext)) fun _ _ => .pure trivial

end StockService

namespace ServiceCall

open StockService

/-- The product whose stock a call moves. -/
def moves? : ServiceCall → Option ProductId
  | reserve _ product .. | release product .. | deduct product .. | restock product ..
  | adjust product .. => some product
  | _ => none

/-- **A call that moves the stock of a product asks about this product only.** -/
theorem confined {call : ServiceCall} (h : call.moves? = some p) :
    call.program.Confined p fun _ => True := by
  cases call with
  | reserve settings product quantity order ttl =>
    cases h
    exact .inUnit confined_reserveIn
  | release product quantity order target =>
    cases h
    exact .inUnit confined_releaseIn
  | deduct product quantity order =>
    cases h
    exact .inUnit confined_deductIn
  | restock product quantity reason operator =>
    cases h
    exact .bind (.obey _) fun _ _ => .bind (.inUnit confined_restockIn) fun _ _ =>
      .bind (.log _) fun _ _ => .pure trivial
  | adjust product delta reason operator =>
    cases h
    exact .bind (.inUnit confined_adjustIn) fun _ _ => .bind (.log _) fun _ _ => .pure trivial
  | _ => cases h

end ServiceCall

end Stockroom
