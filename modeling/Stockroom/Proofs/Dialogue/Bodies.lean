import Stockroom.Proofs.Dialogue.Transaction
import Stockroom.Proofs.Service.Orders

/-!
# Proofs/Dialogue/Bodies — units of work that stop at the first objection

Each building block of a unit of work goes on exactly if its answer is not objected to, and so do the
bodies that are made of them: `audited_reserveIn`, `audited_settleIn` and the like for single movements,
`audited_moveAll` and `audited_placeIn` for orders with all their items.  Loops keep count of the items
by the log records that the movements leave.

For an order that is placed the whole conversation is known (`Placed`).
-/

namespace Stockroom

open Call Exchange

/-! ## Conversations that grow -/

namespace Talk

variable {past more : Talk} {x : Exchange} {order : Order} {k : Nat}

theorem time?_now (now : Instant) : time? (past ++ [⟨.now, now⟩]) = some now := by
  rw [time?, List.reverse_append]
  rfl

theorem time?_append (h : ∀ x ∈ more, x.time? = none) : time? (past ++ more) = time? past := by
  rw [time?, List.reverse_append, List.findSome?_append,
    List.findSome?_eq_none_iff.mpr fun x hx => h x (List.mem_reverse.mp hx)]
  rfl

theorem order?_append (h : order? past = some order) : order? (past ++ more) = some order := by
  rw [order?] at h ⊢
  rw [List.findSome?_append, h]
  rfl

/-- **The conversation is about an order**, and so many of its items are done with. -/
structure At (order : Order) (k : Nat) (past : Talk) : Prop where
  order : order? past = some order
  count : past.countP isLog = k

theorem At.item (h : At order k past) : item? past = order.items[k]? := by
  rw [item?, h.order, h.count]
  rfl

theorem At.concat (h : At order k past) (hx : x.isLog = false) : At order k (past ++ [x]) :=
  ⟨order?_append h.order, by simpa [hx] using h.count⟩

theorem At.log (h : At order k past) (record : LogRecord) :
    At order (k + 1) (past ++ [⟨.log record, ()⟩]) :=
  ⟨order?_append h.order, by simpa [isLog] using h.count⟩

end Talk

theorem Movement.next_product {m : Movement} {r n : StockRecord} (h : m.next r = .ok n) :
    n.product = r.product := by
  rw [Movement.next_eq h]
  rfl

/-! ## Building blocks -/

namespace Transaction

variable {x : Transaction} {past : Talk} {β : Type} {R : Talk → β → Prop}

/-- The answer of the store to a request inside the unit of work. -/
def answered (r : UnitRequest) (result : r.Result) : Exchange := ⟨.store (.within r), .ok result⟩

theorem audited_now {f : Instant → Call β} (hrule : ∀ now, x.timeRule past now = none)
    (h : ∀ now, (f now).Audited x.audit HostRequest.IsInside R (past ++ [⟨.now, now⟩])) :
    (now >>= f).Audited x.audit HostRequest.IsInside R past :=
  .heard (r := .now) trivial fun now => ⟨hrule now, h now⟩

theorem audited_log {record : LogRecord} {f : Unit → Call β}
    (h : (f ()).Audited x.audit HostRequest.IsInside R (past ++ [⟨.log record, ()⟩])) :
    (Call.log record >>= f).Audited x.audit HostRequest.IsInside R past :=
  .heard (r := .log record) trivial fun _ => ⟨rfl, h⟩

/-- **A request inside the unit of work**: the call goes on, or it ends with the objection. -/
theorem audited_within {r : UnitRequest} {f : r.Result → Call β}
    (h : ∀ result, (x.objectionWithin past r result = none →
        (f result).Audited x.audit HostRequest.IsInside R (past ++ [answered r result])) ∧
      ∀ error, x.objectionWithin past r result = some error → f result = throw error) :
    (within r >>= f).Audited x.audit HostRequest.IsInside R past :=
  .demand trivial (fun _ => rfl) h

/-- A write that is not objected to unless it fails. -/
theorem audited_write {r : UnitRequest} {f : r.Result → Call β}
    (hrule : ∀ result, x.objectionWithin past r result = none)
    (h : ∀ result, (f result).Audited x.audit HostRequest.IsInside R (past ++ [answered r result])) :
    (within r >>= f).Audited x.audit HostRequest.IsInside R past := by
  refine audited_within fun result => ⟨fun _ => h result, fun error herror => ?_⟩
  cases (hrule result).symm.trans herror

/-- A conditional write ends the call if its condition does not hold. -/
theorem audited_insist {p : Call Bool} {otherwise : ServiceError} {f : Unit → Call β}
    (h : (p >>= fun held => if held then f () else throw otherwise).Audited x.audit
      HostRequest.IsInside R past) :
    (insist p otherwise >>= f).Audited x.audit HostRequest.IsInside R past := by
  have heq : insist p otherwise >>= f = p >>= fun held => if held then f () else throw otherwise := by
    rw [insist, bind_assoc]
    refine congrArg (p >>= ·) (funext fun held => ?_)
    cases held <;> rfl
  rwa [heq]

theorem audited_replaceGuarded {current next : StockRecord} {f : Unit → Call β}
    (hproduct : next.product = current.product)
    (h : (f ()).Audited x.audit HostRequest.IsInside R
      (past ++ [answered (.replaceStock next current.version) true])) :
    (StockService.replaceGuarded current next >>= f).Audited x.audit HostRequest.IsInside R past := by
  refine audited_insist (audited_within fun held => ?_)
  cases held with
  | true => exact ⟨fun _ => h, nofun⟩
  | false =>
    refine ⟨nofun, fun error herror => ?_⟩
    cases herror
    rw [hproduct]
    rfl

theorem audited_increase {product : ProductId} {quantity : Int} {time : Instant} {f : Unit → Call β}
    (h : (f ()).Audited x.audit HostRequest.IsInside R
      (past ++ [answered (.increaseStock product quantity time) true])) :
    (insist (within (.increaseStock product quantity time)) (.notFound (.stock product)) >>=
      f).Audited x.audit HostRequest.IsInside R past := by
  refine audited_insist (audited_within fun held => ?_)
  cases held with
  | true => exact ⟨fun _ => h, nofun⟩
  | false => exact ⟨nofun, fun error herror => by cases herror; rfl⟩

theorem audited_settle {product : ProductId} {order : OrderId} {status : ReservationStatus}
    {time : Instant} {f : Unit → Call β}
    (h : (f ()).Audited x.audit HostRequest.IsInside R
      (past ++ [answered (.moveReservation product order .active status time) true])) :
    (StockService.settle product order status time >>= f).Audited x.audit HostRequest.IsInside R
      past := by
  refine audited_insist (audited_within fun held => ?_)
  cases held with
  | true => exact ⟨fun _ => h, nofun⟩
  | false => exact ⟨nofun, fun error herror => by cases herror; rfl⟩

theorem audited_saveMove {order : Order} {expected : OrderStatus} {f : Unit → Call β}
    (h : (f ()).Audited x.audit HostRequest.IsInside R
      (past ++ [answered (.replaceOrder order expected) true])) :
    (OrderService.saveMove order expected >>= f).Audited x.audit HostRequest.IsInside R past := by
  refine audited_insist (audited_within fun held => ?_)
  cases held with
  | true => exact ⟨fun _ => h, nofun⟩
  | false => exact ⟨nofun, fun error herror => by cases herror; rfl⟩

/-- **A record that is looked up** may be missing, or refused by its rule. -/
theorem audited_loadStock {product : ProductId} {f : StockRecord → Call β}
    (h : ∀ record, (x.recordRule past record = none →
        (f record).Audited x.audit HostRequest.IsInside R
          (past ++ [answered (.findStock product) (some record)])) ∧
      ∀ error, x.recordRule past record = some error → f record = throw error) :
    (StockService.loadStock product >>= f).Audited x.audit HostRequest.IsInside R past := by
  rw [StockService.loadStock, bind_assoc]
  refine audited_within fun found => ?_
  cases found with
  | none => exact ⟨nofun, fun error herror => by cases herror; rfl⟩
  | some record => exact h record

/-- A rule that decides about the answer before. -/
theorem rule_cases {y : Except Refusal β} {γ : Type} {f : β → Call γ} {S : Prop} {p : Call γ}
    (hp : p = obey y >>= f) (h : ∀ b, y = .ok b → p = f b → S) :
    (refusal? y = none → S) ∧ ∀ error, refusal? y = some error → p = throw error := by
  subst hp
  cases y with
  | ok b => exact ⟨fun _ => h b rfl rfl, nofun⟩
  | error refusal => exact ⟨nofun, fun error herror => by cases herror; rfl⟩

/-- A reading of the clock that decides about a rule. -/
theorem audited_time {α : Type} {y : Instant → Except Refusal α} {f : Instant → α → Call β}
    (hrule : ∀ now, x.timeRule past now = refusal? (y now))
    (h : ∀ now a, y now = .ok a →
      (f now a).Audited x.audit HostRequest.IsInside R (past ++ [⟨.now, now⟩])) :
    (do
      let now ← now
      let a ← obey (y now)
      f now a).Audited x.audit HostRequest.IsInside R past := by
  refine .ask (r := .now) trivial fun (now : Instant) => ?_
  show (x.timeRule past now = none → _) ∧ ∀ error, x.timeRule past now = some error → _
  rw [hrule]
  refine rule_cases rfl fun a ha heq => ?_
  rw [heq]
  exact h now a ha

/-- **A movement of a record**: it is looked up, the movement is allowed, and the record is replaced. -/
theorem audited_guarded {product : ProductId} {m : Movement} {f : StockRecord → StockRecord → Call β}
    (hrule : ∀ record, x.recordRule past record = refusal? (m.next record))
    (h : ∀ current next, m.next current = .ok next →
      (f current next).Audited x.audit HostRequest.IsInside R
        (past ++ [answered (.findStock product) (some current),
          answered (.replaceStock next current.version) true])) :
    (do
      let current ← StockService.loadStock product
      let next ← obey (m.next current)
      StockService.replaceGuarded current next
      f current next).Audited x.audit HostRequest.IsInside R past := by
  refine audited_loadStock fun current => ?_
  rw [hrule]
  refine rule_cases rfl fun next hnext heq => ?_
  rw [heq]
  refine audited_replaceGuarded (Movement.next_product hnext) ?_
  rw [List.append_assoc]
  exact h current next hnext

/-- **A reservation that is to be settled** may be missing, or refused by its rule. -/
theorem audited_loadSettleable {product : ProductId} {order : OrderId} {quantity : Int}
    {f : Reservation → Call β}
    (hrule : ∀ found, x.reservationRule past product order found =
      settlementRule product order quantity found)
    (h : ∀ reservation, reservation.ensureSettleable quantity = .ok () →
      (f reservation).Audited x.audit HostRequest.IsInside R
        (past ++ [answered (.findReservation product order) (some reservation)])) :
    (StockService.loadSettleable product order quantity >>= f).Audited x.audit
      HostRequest.IsInside R past := by
  rw [StockService.loadSettleable, bind_assoc]
  refine audited_within fun found => ?_
  rw [objectionWithin, hrule]
  cases found with
  | none => exact ⟨nofun, fun error herror => by cases herror; rfl⟩
  | some reservation =>
    refine rule_cases (bind_assoc ..) fun _ hsettle heq => ?_
    rw [heq]
    exact h reservation hsettle

/-- A reservation is opened unless it would end outside the calendar. -/
theorem audited_openReservation {product : ProductId} {order : OrderId} {quantity : Int} {ttl : Span}
    {time : Instant} {f : Reservation → Call β} (hpositive : 0 < quantity)
    (habort : time.after? ttl = none → x.mayAbort past)
    (h : ∀ expiresAt, time.after? ttl = some expiresAt →
      (f (.start product order quantity expiresAt time)).Audited x.audit HostRequest.IsInside R
        past) :
    (StockService.openReservation product order quantity ttl time >>= f).Audited x.audit
      HostRequest.IsInside R past := by
  have hensure : ensurePositive quantity = .ok () := ensurePositive_eq_ok_iff.mpr hpositive
  have heq : StockService.openReservation product order quantity ttl time =
      (Reservation.start product order quantity · time) <$> orAbort (time.after? ttl) := by
    rw [StockService.openReservation, Reservation.lasting, hensure]
    cases time.after? ttl <;> rfl
  rw [heq, map_eq_pure_bind, bind_assoc]
  exact .orAbort_bind habort h

/-- **An order that is looked up** may be missing, belong to somebody else, or be refused by its rule. -/
theorem audited_loadOrder {id : OrderId} {owner : Option UserId} {f : Order → Call β}
    (howner : x.owner? = owner)
    (h : ∀ order, x.orderRule past id order = none →
        (f order).Audited x.audit HostRequest.IsInside R
          (past ++ [answered (.findOrder id) (some order)]))
    (herror : ∀ order error, owner.all order.isOwnedBy → x.orderRule past id order = some error →
      f order = throw error) :
    (OrderService.loadOrder id owner >>= f).Audited x.audit HostRequest.IsInside R past := by
  rw [OrderService.loadOrder, bind_assoc]
  refine audited_within fun found => ?_
  cases found with
  | none => exact ⟨nofun, fun error herror => by cases herror; rfl⟩
  | some order =>
    show (x.orderRule past id order = none → _) ∧ ∀ error, x.orderRule past id order = some error → _
    by_cases howned : owner.all order.isOwnedBy
    · simp only [howned]
      exact ⟨h order, fun error => herror order error howned⟩
    · have hrule : x.orderRule past id order = some (.notFound (.order id)) := by
        rw [orderRule, howner, if_neg howned]
      simp only [howned, hrule]
      exact ⟨nofun, fun error herror => by cases herror; rfl⟩

/-! ## Bodies -/

/-- What was said since ends with the only log record in it. -/
def Reported (past past' : Talk) : Prop :=
  ∃ more record, past' = past ++ more ++ [⟨.log record, ()⟩] ∧ ∀ y ∈ more, y.isLog = false

/-- What is said while a reservation is made. -/
def reserving (product : ProductId) (quantity : Int) (order : OrderId) (now expiresAt : Instant)
    (current next : StockRecord) : Talk :=
  [ ⟨.now, now⟩,
    answered (.findStock product) (some current),
    answered (.replaceStock next current.version) true,
    answered (.insertReservation (.start product order quantity expiresAt now)) (),
    answered (.appendEntry (((Entry.ofRecords .reserve quantity current next now).forOrder
      order).because "Stock reserved for order")) () ]

/-- **A reservation that was made**: the record that was found covers the quantity, it was replaced by
the next one, and the reservation lasts for its time from the one reading of the clock. -/
inductive Reserved (product : ProductId) (quantity : Int) (order : OrderId) (ttl : Span) :
    Talk → Prop where
  | intro {now expiresAt : Instant} {current next : StockRecord} {record : LogRecord}
      (hnext : current.reserve quantity now = .ok next) (hexpires : now.after? ttl = some expiresAt) :
      Reserved product quantity order ttl
        (reserving product quantity order now expiresAt current next ++ [⟨.log record, ()⟩])

variable {product : ProductId} {quantity : Int} {order : OrderId}

theorem Reserved.reported {ttl : Span} {chapter : Talk}
    (h : Reserved product quantity order ttl chapter) : Reported past (past ++ chapter) := by
  cases h with
  | intro hnext hexpires =>
    exact ⟨_, _, (List.append_assoc ..).symm, by simp [reserving, answered, isLog]⟩

theorem audited_reserveIn {ttl : Span} (hnow : ∀ now, x.timeRule past now = none)
    (hrule : ∀ now record, x.recordRule (past ++ [⟨.now, now⟩]) record =
      refusal? (record.reserve quantity now))
    (httl : x.ttl? = some ttl) :
    (StockService.reserveIn product quantity order ttl).Audited x.audit HostRequest.IsInside
      (fun past' _ => ∃ chapter, past' = past ++ chapter ∧
        Reserved product quantity order ttl chapter) past := by
  refine audited_now hnow fun now => ?_
  refine audited_guarded (m := .reserve product quantity order now now) (hrule now)
    fun current next hnext => ?_
  obtain ⟨hpositive, -⟩ := StockRecord.reserve_eq_ok_iff.mp hnext
  refine audited_openReservation hpositive (fun hnone => ?_) fun expiresAt hexpires => ?_
  · refine ⟨by simp [answered, isReplacement], ttl, now, httl, ?_, hnone⟩
    rw [Talk.time?_append (by simp [answered, time?]), Talk.time?_now]
  refine audited_write (fun _ => rfl) fun _ => audited_write (fun _ => rfl) fun _ => ?_
  simp only [List.append_assoc]
  exact audited_log (.pure ⟨_, List.append_assoc .., .intro hnext hexpires⟩)

/-- **A settlement.** -/
theorem audited_settleIn (how : StockService.Settlement) (hnow : ∀ now, x.timeRule past now = none)
    (hreservation : ∀ now found, x.reservationRule (past ++ [⟨.now, now⟩]) product order found =
      settlementRule product order quantity found)
    (hrule : ∀ now reservation record, x.recordRule (past ++ [⟨.now, now⟩] ++
        [answered (.findReservation product order) (some reservation)]) record =
      refusal? ((how.movement product quantity order now).next record)) :
    (StockService.settleIn how product quantity order).Audited x.audit HostRequest.IsInside
      (fun past' _ => Reported past past') past := by
  refine audited_now hnow fun now => ?_
  refine audited_loadSettleable (hreservation now) fun reservation _ => ?_
  refine audited_guarded (hrule now reservation) fun current next _ => ?_
  refine audited_settle (audited_write (fun _ => rfl) fun _ => ?_)
  simp only [List.append_assoc]
  exact audited_log (.pure ⟨_, _, by rw [List.append_assoc], by simp [answered, isLog]⟩)

theorem audited_restockIn {reason : Option String} {operator : Option OperatorId} :
    (StockService.restockIn product quantity reason operator).Audited
      (restock product quantity reason operator).audit HostRequest.IsInside (fun _ _ => True)
      past := by
  refine audited_now (fun _ => rfl) fun now => audited_loadStock fun current => ?_
  have hrule : (restock product quantity reason operator).recordRule (past ++ [⟨.now, now⟩]) current =
      refusal? (current.restock quantity now) := by
    rw [recordRule, Talk.time?_now, List.getLast?_concat]
    rfl
  rw [hrule]
  refine rule_cases rfl fun next _ heq => ?_
  rw [heq]
  refine audited_increase (audited_loadStock fun after => ?_)
  have hback : (restock product quantity reason operator).recordRule (past ++ [⟨.now, now⟩] ++
      [answered (.findStock product) (some current)] ++
      [answered (.increaseStock product quantity now) true]) after = none := by
    rw [recordRule, List.getLast?_concat]
    cases Talk.time? _ <;> rfl
  rw [hback]
  exact ⟨fun _ => audited_write (fun _ => rfl) fun _ => .pure trivial, nofun⟩

theorem audited_adjustIn {delta : Int} {reason : Option String} {operator : Option OperatorId} :
    (StockService.adjustIn product delta reason operator).Audited
      (adjust product delta reason operator).audit HostRequest.IsInside (fun _ _ => True) past := by
  refine audited_now (fun _ => rfl) fun now => ?_
  refine audited_guarded (m := .adjust product delta reason operator now) (fun record => ?_)
    fun current next _ => audited_write (fun _ => rfl) fun _ => .pure trivial
  rw [recordRule, Talk.time?_now]
  rfl

/-! ### Moving an order -/

/-- **Between two items of an order**: the last answer was neither an order nor a first look at a
reservation. -/
structure Ready (order : Order) (k : Nat) (past : Talk) : Prop extends Talk.At order k past where
  last : past.getLast?.bind Exchange.order? = none
  look : Talk.isSecondLook past = false

theorem Reported.ready {order : Order} {k : Nat} {past' : Talk} (h : Reported past past')
    (hpast : Talk.At order k past) : Ready order (k + 1) past' := by
  obtain ⟨more, record, rfl, hmore⟩ := h
  have hat : Talk.At order k (past ++ more) := by
    refine ⟨Talk.order?_append hpast.order, ?_⟩
    rw [List.countP_append, hpast.count, List.countP_eq_zero.mpr (by simpa using hmore)]
    rfl
  refine ⟨hat.log record, ?_, ?_⟩
  · rw [List.getLast?_concat]
    rfl
  · rw [Talk.isSecondLook, List.reverse_append]
    rfl

theorem ready_of_found {id : OrderId} {order : Order} (now : Instant)
    (hlog : past.countP isLog = 0) (horder : Talk.order? past = none) :
    Ready order 0 (past ++ [answered (.findOrder id) (some order)] ++ [⟨.now, now⟩]) where
  order := by
    rw [Talk.order?] at horder ⊢
    rw [List.append_assoc, List.findSome?_append, horder]
    rfl
  count := by simp [hlog, answered, isLog]
  last := by
    rw [List.getLast?_concat]
    rfl
  look := by
    rw [Talk.isSecondLook, List.append_assoc, List.reverse_append]
    rfl

theorem Reported.after {past' : Talk} {y : Exchange} (hy : y.isLog = false)
    (h : Reported (past ++ [y]) past') : Reported past past' := by
  obtain ⟨more, record, rfl, hmore⟩ := h
  exact ⟨y :: more, record, by simp, List.forall_mem_cons.mpr ⟨hy, hmore⟩⟩

/-- **An order that moves together with its items.** -/
theorem audited_moveAll {user : UserId} {id : OrderId} {move : OrderMove}
    {settle : OrderId → OrderItem → Call Unit} (howner : x.owner? = some user)
    (horder : ∀ order, order.isOwnedBy user → x.orderRule past id order = none)
    (htime : ∀ order now, x.timeRule (past ++ [answered (.findOrder id) (some order)]) now =
      refusal? (move.apply order now))
    (hlog : past.countP isLog = 0) (hnew : Talk.order? past = none)
    (hitem : ∀ order k item past id', order.items[k]? = some item → Ready order k past →
      (settle id' item).Audited x.audit HostRequest.IsInside (fun past' _ => Reported past past')
        past) :
    (OrderService.moveAll user id move settle).Audited x.audit HostRequest.IsInside (fun _ _ => True)
      past := by
  refine audited_loadOrder howner (fun order _ => ?_) fun order error howned herror => ?_
  · refine audited_time (htime order) fun now moved hmoved => ?_
    have hitems : moved.items = order.items :=
      congrArg Draft.items (OrderMove.apply_precedes hmoved).draft
    rw [hitems]
    refine (Call.Audited.forM (I := fun k past => Ready order k past)
      (ready_of_found now hlog hnew) fun k item past hk hready => ?_).bind fun _ past _ => ?_
    · exact (hitem order k item past moved.id hk hready).mono fun _ _ hreported =>
        hreported.ready hready.toAt
    · exact audited_saveMove (.pure trivial)
  · cases (horder order howned).symm.trans herror

theorem audited_deductItem {user : UserId} {id id' : OrderId} {order : Order} {k : Nat}
    {item : OrderItem} (hk : order.items[k]? = some item) (hready : Ready order k past) :
    (OrderService.deductItem id' item).Audited (pay user id).audit HostRequest.IsInside
      (fun past' _ => Reported past past') past := by
  have hat : ∀ now, Talk.At order k (past ++ [⟨.now, now⟩]) := fun now => hready.concat rfl
  have hsettle : (StockService.settleIn .deduct item.product item.quantity id').Audited
      (pay user id).audit HostRequest.IsInside (fun past' _ => Reported past past') past := by
    refine audited_settleIn .deduct ?_ ?_ ?_
    · intro now
      rw [timeRule, hready.last]
      rfl
    · intro now found
      rw [reservationRule, quantity?, (hat now).item, hk]
      rfl
    · intro now reservation record
      rw [recordRule, ((hat now).concat rfl).item, hk,
        Talk.time?_append (by simp [answered, time?]), Talk.time?_now]
      rfl
  exact hsettle.bind fun _ past' hreported => .pure hreported

theorem audited_releaseItem {user : UserId} {id id' : OrderId} {order : Order} {k : Nat}
    {item : OrderItem} (hk : order.items[k]? = some item) (hready : Ready order k past) :
    (OrderService.releaseItem id' item).Audited (cancel user id).audit HostRequest.IsInside
      (fun past' _ => Reported past past') past := by
  refine audited_write (fun found => ?_) fun found => ?_
  · rw [objectionWithin, reservationRule, hready.look]
    rfl
  have hat : ∀ now, Talk.At order k
      (past ++ [answered (.findReservation item.product id') found] ++ [⟨.now, now⟩]) :=
    fun now => (hready.concat rfl).concat rfl
  split
  · exact audited_log (.pure ⟨_, _, rfl, by simp [answered, isLog]⟩)
  · let looked := past ++ [answered (.findReservation item.product id') found]
    have hsettle : (StockService.settleIn (.release .cancelled) item.product item.quantity
        id').Audited (cancel user id).audit HostRequest.IsInside
          (fun past' _ => Reported looked past') looked := by
      refine audited_settleIn (.release .cancelled) ?_ ?_ ?_
      · intro now
        rw [timeRule, List.getLast?_concat]
        rfl
      · intro now found'
        have hlook : Talk.isSecondLook (looked ++ [⟨.now, now⟩]) = true := by
          rw [Talk.isSecondLook, List.append_assoc, List.reverse_append]
          rfl
        rw [reservationRule, hlook, quantity?, (hat now).item, hk]
        rfl
      · intro now reservation record
        rw [recordRule, ((hat now).concat rfl).item, hk,
          Talk.time?_append (by simp [answered, time?]), Talk.time?_now]
        rfl
    exact hsettle.bind fun _ past' hreported => .pure (hreported.after rfl)

/-- **An order that moves alone**, at a time that was read before. -/
theorem audited_moveIn {id : OrderId} {move : Order → Except Refusal Order}
    (howner : x.owner? = none) (horder : ∀ order, x.orderRule past id order = refusal? (move order)) :
    (OrderService.moveIn id move).Audited x.audit HostRequest.IsInside (fun _ _ => True) past := by
  have hmoves : ∀ order, (x.orderRule past id order = none →
      ((obey (move order) >>= fun moved => OrderService.saveMove moved order.status >>= fun _ =>
        pure moved).Audited x.audit HostRequest.IsInside (fun _ _ => True)
          (past ++ [answered (.findOrder id) (some order)]))) ∧
      ∀ error, x.orderRule past id order = some error → (obey (move order) >>= fun moved =>
        OrderService.saveMove moved order.status >>= fun _ => pure moved) = throw error := by
    intro order
    rw [horder]
    refine rule_cases rfl fun moved _ heq => ?_
    rw [heq]
    exact audited_saveMove (.pure trivial)
  exact audited_loadOrder howner (fun order => (hmoves order).1) fun order error _ =>
    (hmoves order).2 error

/-! ### Placing an order -/

/-- **What is said while an order is placed**: it is written, and then a reservation is made for each of
its items. -/
def Placed (ttl : Span) (draft : Draft) (order : Order) (body : Talk) : Prop :=
  ∃ chapters, body = answered (.insertOrder draft) order :: chapters.flatten ∧
    List.Forall₂ (fun item chapter => Reserved item.product item.quantity order.id ttl chapter)
      order.items chapters

theorem audited_placeIn {settings : StockSettings} {request : OrderService.OrderRequest}
    {lines : List OrderLine} {draft : Draft} (hbegun : past.any isBegin = true)
    (hlog : past.countP isLog = 0) (hnew : Talk.order? past = none) :
    (OrderService.placeIn settings draft).Audited (place settings request lines).audit
      HostRequest.IsInside (fun past' order => ∃ body, past' = past ++ body ∧
        Placed settings.reservationTtl draft order body) past := by
  refine audited_write (fun _ => rfl) fun (order : Order) => ?_
  have hstart : Talk.At order 0 (past ++ [answered (.insertOrder draft) order]) := by
    refine ⟨?_, by simp [hlog, answered, isLog]⟩
    rw [Talk.order?] at hnew ⊢
    rw [List.findSome?_append, hnew]
    rfl
  -- The chapters so far belong to the items so far, and the log counts them.
  let I : Nat → Talk → Prop := fun k past' => Talk.At order k past' ∧ ∃ chapters,
    past' = past ++ [answered (.insertOrder draft) order] ++ chapters.flatten ∧
      List.Forall₂ (fun item chapter =>
        Reserved item.product item.quantity order.id settings.reservationTtl chapter)
        (order.items.take k) chapters
  refine (Call.Audited.forM (I := I) ⟨hstart, [], by simp, by simp⟩ ?_).bind
    fun _ past' hI => .pure ?_
  rotate_left
  · obtain ⟨-, chapters, rfl, hchapters⟩ := hI
    rw [List.take_length] at hchapters
    exact ⟨_, by simp, chapters, rfl, hchapters⟩
  · rintro k item past' hk ⟨hat, chapters, rfl, hchapters⟩
    refine (audited_reserveIn (fun now => ?_) (fun now record => ?_) rfl).bind
      fun _ past' ⟨chapter, heq, hchapter⟩ => .pure ?_
    · rw [timeRule, List.any_append, List.any_append, hbegun]
      rfl
    · rw [recordRule, (hat.concat rfl).item, hk, Talk.time?_now]
      rfl
    · subst heq
      refine ⟨(hchapter.reported.ready hat).toAt, chapters ++ [chapter], by simp, ?_⟩
      rw [List.take_add_one, hk]
      exact List.rel_append hchapters (.cons hchapter .nil)

end Transaction

end Stockroom
