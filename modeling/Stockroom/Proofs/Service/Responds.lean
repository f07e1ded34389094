import Stockroom.Proofs.Crowd.Responds

/-!
# Proofs/Service/Responds — every call ends with an answer

A call asks for a moment that the calendar may not reach in one place only: where a reservation is opened.
So **a call ends with an answer as long as the reservations that it opens can last**
(`ServiceCall.responds`): a call of its own span, every other one for the configured time.
-/

namespace Stockroom

open Call

variable {clock : Nat → Instant} {k : Nat}

namespace StockService

variable {product : ProductId} {order : OrderId} {quantity : Int}

/-! ## Movements of stock -/

theorem responds_loadStock : Responds clock k (loadStock product) :=
  .bind (.demand _) fun found _ => by
    cases found with
    | some record => exact .pure _
    | none => exact .throw _

theorem responds_loadSettleable : Responds clock k (loadSettleable product order quantity) :=
  .bind (.demand _) fun found _ => by
    cases found with
    | some reservation => exact .bind (.obey _) fun _ _ => .pure _
    | none => exact .throw _

/-- A reservation whose end the calendar reaches. -/
theorem responds_openReservation {ttl : Span} {now : Instant} (h : (now.after? ttl).isSome) :
    Responds clock k (openReservation product order quantity ttl now) := by
  obtain ⟨expiresAt, hexpires⟩ := Option.isSome_iff_exists.mp h
  refine .bind (.orAbort ?_) fun _ _ => .obey _
  rw [Reservation.lasting, hexpires]
  cases ensurePositive quantity <;> rfl

theorem responds_reserveIn {ttl : Span} (h : ((clock k).after? ttl).isSome) :
    Responds clock k (reserveIn product quantity order ttl) :=
  .now_bind <| .bind responds_loadStock fun _ _ => .bind (.obey _) fun _ _ =>
    .bind (.insist (.demand _)) fun _ _ => .bind (responds_openReservation h) fun _ _ =>
      .bind (.demand _) fun _ _ => .bind (.demand _) fun _ _ => .bind (.log _) fun _ _ => .pure _

theorem responds_releaseIn {target : ReleaseTarget} :
    Responds clock k (releaseIn product quantity order target) :=
  .bind .now fun _ _ => .bind responds_loadSettleable fun _ _ => .bind responds_loadStock fun _ _ =>
    .bind (.obey _) fun _ _ => .bind (.insist (.demand _)) fun _ _ =>
      .bind (.insist (.demand _)) fun _ _ => .bind (.demand _) fun _ _ =>
        .bind (.log _) fun _ _ => .pure _

theorem responds_deductIn : Responds clock k (deductIn product quantity order) :=
  .bind .now fun _ _ => .bind responds_loadSettleable fun _ _ => .bind responds_loadStock fun _ _ =>
    .bind (.obey _) fun _ _ => .bind (.insist (.demand _)) fun _ _ =>
      .bind (.insist (.demand _)) fun _ _ => .bind (.demand _) fun _ _ =>
        .bind (.log _) fun _ _ => .pure _

theorem responds_restockIn {reason : Option String} {operator : Option OperatorId} :
    Responds clock k (restockIn product quantity reason operator) :=
  .bind .now fun _ _ => .bind responds_loadStock fun _ _ => .bind (.obey _) fun _ _ =>
    .bind (.insist (.demand _)) fun _ _ => .bind responds_loadStock fun _ _ =>
      .bind (.demand _) fun _ _ => .pure _

theorem responds_adjustIn {delta : Int} {reason : Option String} {operator : Option OperatorId} :
    Responds clock k (adjustIn product delta reason operator) :=
  .bind .now fun _ _ => .bind responds_loadStock fun _ _ => .bind (.obey _) fun _ _ =>
    .bind (.insist (.demand _)) fun _ _ => .bind (.demand _) fun _ _ => .pure _

/-- **A reservation in a unit of work of its own** reads the clock once. -/
theorem responds_reserve {settings : StockSettings} {ttl : Option Span}
    (h : ((clock k).after? (ttl.getD settings.reservationTtl)).isSome) :
    Responds clock k (reserve settings product quantity order ttl) := .inUnit (responds_reserveIn h)

/-! ## Records and lookups -/

theorem responds_stockOf : Responds clock k (stockOf product) :=
  .bind (.demand _) fun found _ => by
    cases found with
    | some record => exact .pure _
    | none => exact .throw _

theorem responds_register {stock threshold : Int} : Responds clock k (register product stock threshold) :=
  .bind .now fun _ _ => .bind (.obey _) fun _ _ => .bind (.demand _) fun found _ => by
    cases found with
    | some record =>
      exact .bind (.throw _) fun _ _ => .bind (.demand _) fun _ _ => .bind (.log _) fun _ _ => .pure _
    | none => exact .bind (.demand _) fun _ _ => .bind (.log _) fun _ _ => .pure _

theorem responds_checkAvailability {line : OrderLine} : Responds clock k (checkAvailability line) :=
  .bind (.obey _) fun _ _ => .bind responds_stockOf fun _ _ => .pure _

theorem responds_checkAll {lines : List OrderLine} : Responds clock k (checkAll lines) :=
  .mapM (fun _ _ => responds_checkAvailability) lines

/-- Each reservation is released in a unit of work of its own, and its failure is only reported. -/
theorem responds_cleanup {settings : StockSettings} : Responds clock k (cleanup settings) := by
  refine .bind .freshId fun correlation _ => .bind .now fun _ _ => .bind (.demand _) fun expired _ =>
    .bind (.mapM (fun reservation _ => ?_) _) fun outcomes _ => ?_
  · refine .bind (Responds.inUnit responds_releaseIn).caught fun outcome _ => ?_
    cases outcome with
    | ok _ => exact .pure _
    | error error => exact .bind (.log _) fun _ _ => .pure _
  · dsimp only
    split
    · exact .bind (.log _) fun _ _ => .pure _
    · exact .pure _

end StockService

/-! ## Orders -/

namespace OrderService

open StockService

variable {user : UserId} {id : OrderId}

theorem responds_prepare {request : OrderRequest} {lines : List OrderLine} :
    Responds clock k (prepare request lines) := by
  refine .bind (.demand _) fun products _ => .bind (.mapM (fun line _ => ?_) _) fun _ _ =>
    .bind responds_checkAll fun checks _ => .bind ?_ fun _ _ => .bind .now fun _ _ => .obey _
  · unfold itemFor
    split
    · exact .obey _
    · exact .throw _
  · unfold ensureCovered
    split
    · exact .throw _
    · exact .pure _

/-- Every item opens a reservation for the configured time. -/
theorem responds_placeIn {settings : StockSettings} {draft : Draft}
    (h : ∀ i, ((clock i).after? settings.reservationTtl).isSome) :
    Responds clock k (placeIn settings draft) :=
  .bind (.demand _) fun _ _ =>
    .bind (.forM (fun _ _ => .bind (responds_reserveIn (h _)) fun _ _ => .pure _) _) fun _ _ => .pure _

theorem responds_attemptFrom {tryOnce : Call Order} (h : ∀ k, Responds clock k tryOnce)
    {correlation : CorrelationId} {backoff attempt : Nat} {last : ServiceError} {remaining : Nat} :
    Responds clock k (attemptFrom tryOnce user correlation backoff attempt last remaining) := by
  induction remaining generalizing attempt last k with
  | zero => exact .bind (.log _) fun _ _ => .throw _
  | succ remaining ih =>
    refine .bind (h k).caught fun result _ => ?_
    cases result with
    | ok order => exact .bind (.log _) fun _ _ => .pure _
    | error error =>
      dsimp only
      split
      · exact .bind (.log _) fun _ _ => .bind (.sleep _) fun _ _ => ih
      · exact .throw _

theorem responds_create {stock : StockSettings} {settings : OrderSettings} {request : OrderRequest}
    (h : ∀ i, ((clock i).after? stock.reservationTtl).isSome) :
    Responds clock k (create stock settings request) :=
  .bind .freshId fun _ _ => .bind (.obey _) fun _ _ =>
    responds_attemptFrom fun _ => .bind responds_prepare fun _ _ => .inUnit (responds_placeIn h)

theorem responds_loadOrder {owner : Option UserId} : Responds clock k (loadOrder id owner) := by
  refine .bind (.demand _) fun found _ => ?_
  cases found with
  | none => exact .throw _
  | some order =>
    dsimp only
    split
    · exact .pure _
    · exact .throw _

theorem responds_payIn : Responds clock k (payIn user id) :=
  .bind responds_loadOrder fun _ _ => .bind .now fun _ _ => .bind (.obey _) fun _ _ =>
    .bind (.forM (fun _ _ => .bind responds_deductIn fun _ _ => .pure _) _) fun _ _ =>
      .bind (.insist (.demand _)) fun _ _ => .pure _

theorem responds_moveIn {move : Order → Except Refusal Order} : Responds clock k (moveIn id move) :=
  .bind responds_loadOrder fun _ _ => .bind (.obey _) fun _ _ =>
    .bind (.insist (.demand _)) fun _ _ => .pure _

theorem responds_cancelIn : Responds clock k (cancelIn user id) := by
  refine .bind responds_loadOrder fun _ _ => .bind .now fun _ _ => .bind (.obey _) fun _ _ =>
    .bind (.forM (fun item _ => ?_) _) fun _ _ => .bind (.insist (.demand _)) fun _ _ => .pure _
  refine .bind (.demand _) fun reservation _ => ?_
  split
  · exact .log _
  · exact .bind responds_releaseIn fun _ _ => .pure _

theorem responds_ownedBy {order : Option Order} {subject : Subject} :
    Responds clock k (ownedBy user order subject) := by
  unfold ownedBy
  split
  · exact .pure _
  · exact .throw _

end OrderService

/-! ## All calls -/

namespace ServiceCall

/-- **The reservations that a call opens can last**: those of `reserve` from its one reading of the clock on,
those of `create` for the configured time from whatever reading on. -/
def Lasts (clock : Nat → Instant) (k : Nat) : ServiceCall → Prop
  | reserve settings _ _ _ ttl => ((clock k).after? (ttl.getD settings.reservationTtl)).isSome
  | create stock _ _ => ∀ i, ((clock i).after? stock.reservationTtl).isSome
  | _ => True

open StockService OrderService in
/-- **Every call ends with an answer** if the reservations that it opens can last. -/
theorem responds {call : ServiceCall} (h : call.Lasts clock k) : Responds clock k call.program := by
  cases call with
  | register => exact responds_register
  | reserve => exact responds_reserve h
  | release => exact .inUnit responds_releaseIn
  | deduct => exact .inUnit responds_deductIn
  | restock =>
    exact .bind (.obey _) fun _ _ => .bind (.inUnit responds_restockIn) fun _ _ =>
      .bind (.log _) fun _ _ => .pure _
  | adjust => exact .bind (.inUnit responds_adjustIn) fun _ _ => .bind (.log _) fun _ _ => .pure _
  | setThreshold =>
    exact .bind responds_stockOf fun _ _ => .bind .now fun _ _ => .bind (.obey _) fun _ _ =>
      .bind (.insist (.demand _)) fun _ _ => .pure _
  | remove => exact .bind .now fun _ _ => .bind (.insist (.demand _)) fun _ _ => .log _
  | cleanup => exact responds_cleanup
  | create => exact responds_create h
  | pay => exact .bind (.inUnit responds_payIn) fun _ _ => .bind (.log _) fun _ _ => .pure _
  | cancel => exact .bind (.inUnit responds_cancelIn) fun _ _ => .bind (.log _) fun _ _ => .pure _
  | ship | complete =>
    exact .bind .now fun _ _ => .bind (.inUnit responds_moveIn) fun _ _ =>
      .bind (.log _) fun _ _ => .pure _
  | stockOf => exact responds_stockOf
  | checkAll => exact responds_checkAll
  | orderOf | orderByNumber => exact .bind (.demand _) fun _ _ => responds_ownedBy
  | listStock | listLowStock | entriesOf | reservationsOf | ordersOf => exact .demand _

end ServiceCall

end Stockroom
