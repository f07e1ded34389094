import Stockroom.Proofs.Crowd.Alone
import Stockroom.Proofs.Service.Promise

/-!
# Proofs/Service/Alone — a guarded call might have run alone

A guarded call plans its writes from rows that may be old.  If the writes take effect and no threshold
may be set, then **the rows are still the ones that were seen**: a version or a status guards each of
them (`Planned.runs`).  So the call yields the same value and the same tables when it runs alone on
the store that its commit met (`ServiceCall.alone_of_drafts`).
-/

namespace Stockroom

open Store Call

variable {A : ServiceCall → Prop} {s : Store} {t t' : Tables} {tape tape' : Tape}
  {writes : List Write} {product : ProductId} {order : OrderId} {quantity : Int}
  {seen next : StockRecord}

/-! ## Movements of what is there -/

/-- **A movement that was computed from the very record it replaces.** -/
structure Movement.Runs (m : Movement) (t : Tables) (seen next : StockRecord) (t' : Tables) :
    Prop where
  live : t.liveStock? m.product = some seen
  product : next.product = m.product
  moves : m.next seen = .ok next
  settles : ∀ order quantity, m.settles? = some (order, quantity) →
    ∃ r, t.reservation? m.product order = some r ∧ r.ensureSettleable quantity = .ok ()
  writes : Write.applyAll (m.guardedWrites seen next) t = .ok t'

/-- A movement that settles a reservation takes effect only while it is active. -/
theorem Movement.active_of_applyAll {m : Movement}
    (h : Write.applyAll m.markWrites t = .ok t') (hsettles : m.settles? = some (order, quantity)) :
    ∃ r, t.reservation? m.product order = some r ∧ r.status = .active := by
  cases m with
  | release product quantity order target now =>
    cases hsettles
    obtain ⟨t₁, happly, -⟩ := Write.applyAll_cons_iff.mp h
    obtain ⟨r, hr, hactive, -, -⟩ := Write.apply_moveReservation_iff.mp happly
    exact ⟨r, hr, hactive⟩
  | deduct product quantity order now =>
    cases hsettles
    obtain ⟨t₁, happly, -⟩ := Write.applyAll_cons_iff.mp h
    obtain ⟨r, hr, hactive, -, -⟩ := Write.apply_moveReservation_iff.mp happly
    exact ⟨r, hr, hactive⟩
  | _ => cases hsettles

/-- **A planned movement that takes effect** was computed from what is there. -/
theorem Movement.Planned.runs {m : Movement} (h : m.Planned A s next writes)
    (hkind : m.kind ≠ .restock) (ht : ¬Tunable A) (he : Edits (Tunable A) s.committed t)
    (happly : Write.applyAll writes t = .ok t') : ∃ seen, m.Runs t seen next t' := by
  cases h with
  | @guarded _ seen _ _ hseen hheld hnext =>
    have hproduct := product_of_seen hseen hnext
    obtain ⟨t₁, hstock, hrest⟩ := Write.applyAll_cons_iff.mp happly
    obtain ⟨t₂, hmarked, -⟩ := Write.applyAll_append_iff.mp hrest
    obtain ⟨live, hlive, hversion, rfl⟩ := Write.apply_replaceStock_iff.mp hstock
    rw [hproduct] at hlive
    obtain rfl := (hseen.agrees he hlive hversion).2 ht
    refine ⟨seen, hlive, hproduct, hnext, fun order quantity hsettles => ?_, happly⟩
    obtain ⟨r, hr, hactive⟩ := active_of_applyAll hmarked hsettles
    exact ⟨r, hr, (hheld order quantity hsettles).reservation he hr hactive⟩
  | restock => exact absurd rfl hkind

namespace StockService

/-! ## Steps inside a unit of work -/

theorem loadStock_yields (h : t.liveStock? product = some seen) :
    (loadStock product).Yields s t tape seen t tape := by
  refine (Yields.findStock product).bind ?_
  rw [h]
  exact .pure

theorem loadStock_fails (h : t.liveStock? product = none) :
    (loadStock product).Fails s t tape (.notFound (.stock product)) tape := by
  refine .after (Yields.findStock product) ?_
  rw [h]
  exact .throw

theorem loadSettleable_yields {r : Reservation} (h : t.reservation? product order = some r)
    (hr : r.ensureSettleable quantity = .ok ()) :
    (loadSettleable product order quantity).Yields s t tape r t tape := by
  refine (Yields.findReservation product order).bind ?_
  rw [h]
  exact .obey_bind hr .pure

theorem replaceGuarded_yields (hk : s.committed.KeepsKeys)
    (h : (Write.replaceStock next seen.version).apply t = .ok t') :
    (replaceGuarded seen next).Yields s t tape () t' tape :=
  .insist <| .write (r := .replaceStock next seen.version) hk h fun _ hok =>
    Prod.ext hok rfl

theorem settle_yields {status : ReservationStatus} {now : Instant} (hk : s.committed.KeepsKeys)
    (h : (Write.moveReservation product order .active status now).apply t = .ok t') :
    (settle product order status now).Yields s t tape () t' tape :=
  .insist <| .write (r := .moveReservation product order .active status now) hk h fun _ hok =>
    Prod.ext hok rfl

/-- A write without a condition. -/
theorem stageUnit_of_stage {session : Session} {w : Write} (h : (session.stage w).1 = .ok true) :
    session.stageUnit w = (.ok (), (session.stage w).2) :=
  Prod.ext (congrArg (Except.map fun _ => ()) h) rfl

theorem insertReservation_yields {r : Reservation} (hk : s.committed.KeepsKeys)
    (h : (Write.insertReservation r).apply t = .ok t') :
    (within (.insertReservation r)).Yields s t tape () t' tape :=
  .write (r := .insertReservation r) hk h fun _ => stageUnit_of_stage

theorem appendEntry_yields {entry : Entry} (hk : s.committed.KeepsKeys)
    (h : (Write.appendEntry entry).apply t = .ok t') :
    (within (.appendEntry entry)).Yields s t tape () t' tape :=
  .write (r := .appendEntry entry) hk h fun _ => stageUnit_of_stage

theorem openReservation_yields {ttl : Span} {expiresAt now : Instant} (hq : 0 < quantity)
    (he : now.after? ttl = some expiresAt) :
    (openReservation product order quantity ttl now).Yields s t tape
      (.start product order quantity expiresAt now) t tape := by
  have hlasting : (Reservation.lasting product order quantity ttl now).run =
      some (.ok (.start product order quantity expiresAt now)) := by
    rw [Reservation.lasting, ensurePositive_eq_ok_iff (u := ()) |>.mpr hq, he]
    rfl
  rw [openReservation]
  exact .orAbort_bind hlasting .pure

/-! ## Movements -/

theorem reserveIn_yields {ttl : Span} {expiresAt : Instant} (hk : s.committed.KeepsKeys)
    (he : tape.time.after? ttl = some expiresAt)
    (h : (Movement.reserve product quantity order expiresAt tape.time).Runs t seen next t') :
    (reserveIn product quantity order ttl).Yields s t tape next t' tape.read := by
  obtain ⟨hlive, rfl, hnext, -, hwrites⟩ := h
  obtain ⟨t₁, hstock, hrest⟩ := Write.applyAll_cons_iff.mp hwrites
  obtain ⟨t₂, hopen, hrest⟩ := Write.applyAll_cons_iff.mp hrest
  obtain ⟨t₃, hentry, hnil⟩ := Write.applyAll_cons_iff.mp hrest
  obtain rfl := Write.applyAll_nil_iff.mp hnil
  refine .bind .now (.bind (loadStock_yields hlive) (.obey_bind hnext ?_))
  refine .bind (replaceGuarded_yields hk hstock) ?_
  refine .bind (openReservation_yields (StockRecord.reserve_eq_ok_iff.mp hnext).1 he) ?_
  refine .bind (insertReservation_yields hk hopen) ?_
  exact .bind (appendEntry_yields hk hentry) (.bind .log .pure)

theorem settleIn_yields (how : Settlement) (hk : s.committed.KeepsKeys)
    (h : (how.movement product quantity order tape.time).Runs t seen next t') :
    (settleIn how product quantity order).Yields s t tape next t' tape.read := by
  obtain ⟨hlive, hproduct, hnext, hsettles, hwrites⟩ := h
  obtain ⟨r, hr, hsettle⟩ := hsettles _ _ how.movement_settles?
  rw [how.movement_product] at hlive hproduct hr
  subst hproduct
  rw [how.guardedWrites_movement] at hwrites
  obtain ⟨t₁, hstock, hrest⟩ := Write.applyAll_cons_iff.mp hwrites
  obtain ⟨t₂, hsettled, hrest⟩ := Write.applyAll_cons_iff.mp hrest
  obtain ⟨t₃, hentry, hnil⟩ := Write.applyAll_cons_iff.mp hrest
  obtain rfl := Write.applyAll_nil_iff.mp hnil
  refine .bind .now (.bind (loadSettleable_yields hr hsettle) ?_)
  refine .bind (loadStock_yields hlive) (.obey_bind hnext ?_)
  refine .bind (replaceGuarded_yields hk hstock) (.bind (settle_yields hk hsettled) ?_)
  exact .bind (appendEntry_yields hk hentry) (.bind .log .pure)

/-- Held pieces of a product that was removed cannot be settled. -/
theorem settleIn_fails_of_removed {r : Reservation} (how : Settlement)
    (hr : t.reservation? product order = some r) (hsettle : r.ensureSettleable quantity = .ok ())
    (hremoved : t.liveStock? product = none) :
    (settleIn how product quantity order).Fails s t tape (.notFound (.stock product)) tape.read :=
  .after .now (.after (loadSettleable_yields hr hsettle) (loadStock_fails hremoved).bind)

theorem releaseIn_yields {target : ReleaseTarget} (hk : s.committed.KeepsKeys)
    (h : (Movement.release product quantity order target tape.time).Runs t seen next t') :
    (releaseIn product quantity order target).Yields s t tape next t' tape.read := by
  rw [releaseIn_eq_settleIn]
  exact settleIn_yields (.release target) hk h

theorem deductIn_yields (hk : s.committed.KeepsKeys)
    (h : (Movement.deduct product quantity order tape.time).Runs t seen next t') :
    (deductIn product quantity order).Yields s t tape next t' tape.read := by
  rw [deductIn_eq_settleIn]
  exact settleIn_yields .deduct hk h

theorem adjustIn_yields {delta : Int} {reason : Option String} {operator : Option OperatorId}
    (hk : s.committed.KeepsKeys)
    (h : (Movement.adjust product delta reason operator tape.time).Runs t seen next t') :
    (adjustIn product delta reason operator).Yields s t tape next t' tape.read := by
  obtain ⟨hlive, rfl, hnext, -, hwrites⟩ := h
  obtain ⟨t₁, hstock, hrest⟩ := Write.applyAll_cons_iff.mp hwrites
  obtain ⟨t₂, hentry, hnil⟩ := Write.applyAll_cons_iff.mp hrest
  obtain rfl := Write.applyAll_nil_iff.mp hnil
  refine .bind .now (.bind (loadStock_yields hlive) (.obey_bind hnext ?_))
  exact .bind (replaceGuarded_yields hk hstock) (.bind (appendEntry_yields hk hentry) .pure)

end StockService

/-! ## Items -/

variable {id : OrderId} {item : OrderItem} {user : UserId}

/-- **A plan for an item that takes effect** is what the call for it yields alone. -/
def ItemPlan.RunsAlone (P : ItemPlan A id) (f : OrderItem → Call Unit) : Prop :=
  ∀ {s item tape writes tape' t t'}, s.committed.KeepsKeys → P.plans s item tape writes tape' →
    Edits (Tunable A) s.committed t → Write.applyAll writes t = .ok t' →
    (f item).Yields s t tape () t' tape'

theorem ItemPlan.deduct_runsAlone (ht : ¬Tunable A) :
    (ItemPlan.deduct A id).RunsAlone (OrderService.deductItem id) := by
  rintro s item tape writes tape' t t' hk ⟨rfl, next, hplanned⟩ he happly
  obtain ⟨seen, hruns⟩ := hplanned.runs nofun ht he happly
  exact (StockService.deductIn_yields hk hruns).bind .pure

/-- An expired reservation stays expired, and an active one is released. -/
theorem ItemPlan.release_runsAlone (ht : ¬Tunable A) :
    (ItemPlan.release A id).RunsAlone (OrderService.releaseItem id) := by
  rintro s item tape writes tape' t t' hk (⟨rfl, rfl, hexpired⟩ | ⟨rfl, next, hplanned⟩) he happly
  · obtain rfl := Write.applyAll_nil_iff.mp happly
    obtain ⟨t₀, ⟨r, hr, hstatus⟩, -, hp⟩ := hexpired.before he
    obtain ⟨r', hr', hprec⟩ := hp.reservations _ _ hr
    obtain rfl := hprec.settled (by rw [hstatus]; exact nofun)
    refine .bind (.find (r := .findReservation item.product id)
      (·.reservation? item.product id) fun _ => rfl) ?_
    rw [show t'.reservation? item.product id = some r' from hr']
    simp only [Option.map_some, hstatus, if_true]
    exact .log
  · obtain ⟨seen, hruns⟩ := hplanned.runs nofun ht he happly
    obtain ⟨r, hr, hsettle⟩ := hruns.settles _ _ rfl
    have hactive := (Reservation.ensureSettleable_eq_ok_iff.mp hsettle).1
    refine .bind (.find (r := .findReservation item.product id)
      (·.reservation? item.product id) fun _ => rfl) ?_
    rw [show t.reservation? item.product id = some r from hr]
    simp only [Option.map_some, hactive]
    exact (StockService.releaseIn_yields hk hruns).bind .pure

/-- **Plans for several items** that take effect one after the other. -/
theorem Works.yields {P : ItemPlan A id} {f : OrderItem → Call Unit}
    {X : OrderItem → Tables → Tables → Prop} {items : List OrderItem} (hf : P.RunsAlone f)
    (hX : P.TakesEffect X) (hs : Reachable A s) (h : Works (P.plans s) items tape writes tape')
    (he : Edits (Tunable A) s.committed t)
    (hroom : t.entries.length + writes.length < 2 ^ 63)
    (happly : Write.applyAll writes t = .ok t') :
    (items.forM f).Yields s t tape () t' tape' := by
  induction h generalizing t with
  | nil =>
    obtain rfl := Write.applyAll_nil_iff.mp happly
    exact .pure
  | cons hplan _ ih =>
    obtain ⟨t₁, hfirst, hrest⟩ := Write.applyAll_append_iff.mp happly
    rw [List.length_append] at hroom
    obtain ⟨-, he₁⟩ := hX hs hplan he (by omega) hfirst
    have := (Write.growth_of_applyAll hfirst).1
    exact (hf hs.wellKept.reservationKey hplan he hfirst).bind
      (ih (he.trans he₁) (by omega) hrest)

namespace OrderService

/-! ## Orders -/

variable {owner : Option UserId} {o : Order}

theorem loadOrder_yields (h : t.order? id = some o) (howner : owner.all o.isOwnedBy = true) :
    (loadOrder id owner).Yields s t tape o t tape := by
  refine (Yields.findOrder id).bind ?_
  rw [h]
  simp only [howner, if_true]
  exact .pure

theorem saveMove_yields {expected : OrderStatus} (hk : s.committed.KeepsKeys)
    (h : (Write.replaceOrder o expected).apply t = .ok t') :
    (saveMove o expected).Yields s t tape () t' tape :=
  .insist <| .write (r := .replaceOrder o expected) hk h fun _ hok => Prod.ext hok rfl

/-- **An order that moves together with its items.** -/
theorem MovePlan.yields {P : (id : OrderId) → ItemPlan A id} {move : OrderMove}
    {moved : Order} {planned : List Write} {X : OrderItem → Tables → Tables → Prop}
    {settle : OrderId → OrderItem → Call Unit} (hsettle : (P id).RunsAlone (settle id))
    (hX : (P id).TakesEffect X)
    (hXorders : ∀ {items t t'}, Each X items t t' → t'.orders = t.orders)
    (h : MovePlan P user id move tape moved writes tape' s o planned) (hs : Reachable A s)
    (hadmits : s.Admits writes) (happly : Write.applyAll writes s.committed = .ok t) :
    (moveAll user id move settle).Yields s s.committed tape moved t tape' := by
  obtain ⟨horder, -⟩ := h.each hX hXorders hs hadmits happly
  obtain ⟨hseen, howner, hmoved, hworks, rfl⟩ := h
  obtain ⟨t₁, hitems, hsave⟩ := Write.applyAll_append_iff.mp happly
  obtain ⟨t₂, hsave, hnil⟩ := Write.applyAll_cons_iff.mp hsave
  obtain rfl := Write.applyAll_nil_iff.mp hnil
  have hk := hs.wellKept.reservationKey
  have hroom := hadmits.room
  rw [List.length_append] at hroom
  have hmove := OrderMove.apply_precedes hmoved
  obtain rfl : moved.id = id := hmove.id.trans (hs.wellKept.orderKey _ _ horder)
  have hdraft : moved.items = o.items := congrArg Draft.items hmove.draft
  refine .bind (loadOrder_yields horder (decide_eq_true howner)) (.bind .now ?_)
  refine .obey_bind hmoved (.bind (a := ()) ?_ (.bind (saveMove_yields hk hsave) .pure))
  rw [hdraft]
  exact hworks.yields hsettle hX hs .refl (by omega) hitems

/-- **An order that moves alone.** -/
theorem moveIn_yields {move : OrderMove} {moved : Order} {now : Instant} (hs : Reachable A s)
    (horder : s.committed.order? id = some o) (hmoved : move.apply o now = .ok moved) :
    (moveIn id (move.apply · now)).Yields s s.committed tape moved (s.committed.putOrder moved)
      tape := by
  have hid : moved.id = id :=
    (OrderMove.apply_precedes hmoved).id.trans (hs.wellKept.orderKey _ _ horder)
  have hsave := Write.apply_replaceOrder_iff.mpr ⟨o, hid ▸ horder, rfl, rfl⟩
  refine .bind (loadOrder_yields horder rfl) (.obey_bind hmoved ?_)
  exact .bind (saveMove_yields hs.wellKept.reservationKey hsave) .pure

end OrderService

/-! ## Guarded calls -/

namespace ServiceCall

/-- What is reported after a unit of work does not matter. -/
theorem alone_reported {α : Type} {p : Call α} {record : α → LogRecord} {a : α} {d d' : Desk}
    {s' : Store} (h : p.run.alone d s = some (.ok a, d', s')) :
    (do let a ← p; Call.log (record a); return a : Call α).run.alone d s =
      some (.ok a, d', s') :=
  Call.alone_bind h

/-- An order that moves alone; the clock was read before the unit of work. -/
theorem DraftsMove.alone (move : OrderMove) {moved : Order} {component : String}
    (h : DraftsMove A tape id move moved writes tape' s) (hs : Reachable A s)
    (happly : Write.applyAll writes s.committed = .ok t) :
    ∃ d, (inUnit component (OrderService.moveIn id (move.apply · tape.time))).run.alone
        (.fresh tape.read) s = some (.ok moved, d, ⟨t, s.nextOrder⟩) ∧ d.tape = tape' := by
  obtain ⟨o, horder, hmoved, rfl⟩ := h.saved happly
  obtain ⟨rfl, -⟩ := h
  exact Yields.alone_inUnit (OrderService.moveIn_yields hs horder hmoved)

/-- **A guarded call whose draft takes effect might have run alone** on the store that its commit
met. -/
theorem alone_of_drafts {call : ServiceCall} {value : call.Result} (hguarded : call.IsGuarded)
    (ht : ¬Tunable A) (h : call.Drafts A tape value writes tape' s) (hs : Reachable A s)
    (hadmits : s.Admits writes) (happly : Write.applyAll writes s.committed = .ok t) :
    ∃ d, call.program.run.alone (.fresh tape) s = some (.ok value, d, ⟨t, s.nextOrder⟩) ∧
      d.tape = tape' := by
  have hk := hs.wellKept.reservationKey
  cases call with
  | reserve settings product quantity order ttl =>
    obtain ⟨rfl, expiresAt, hexpires, h⟩ := h
    obtain ⟨seen, hruns⟩ := h.runs nofun ht .refl happly
    exact Yields.alone_inUnit (StockService.reserveIn_yields hk hexpires hruns)
  | release product quantity order target =>
    obtain ⟨rfl, h⟩ := h
    obtain ⟨seen, hruns⟩ := h.runs nofun ht .refl happly
    exact Yields.alone_inUnit (StockService.releaseIn_yields hk hruns)
  | deduct product quantity order =>
    obtain ⟨rfl, h⟩ := h
    obtain ⟨seen, hruns⟩ := h.runs nofun ht .refl happly
    exact Yields.alone_inUnit (StockService.deductIn_yields hk hruns)
  | adjust product delta reason operator =>
    obtain ⟨rfl, h⟩ := h
    obtain ⟨seen, hruns⟩ := h.runs nofun ht .refl happly
    obtain ⟨d, halone, htape⟩ := Yields.alone_inUnit (d := .fresh tape)
      (StockService.adjustIn_yields hk hruns)
    exact ⟨d, alone_reported halone, htape⟩
  | pay user id =>
    obtain ⟨order, planned, h⟩ := h
    have hyields := h.yields (ItemPlan.deduct_runsAlone ht) ItemPlan.deduct_takesEffect
      (fun h => (h.edits_deducts : Edits True _ _ ∧ _).2) hs hadmits happly
    obtain ⟨d, halone, htape⟩ := Yields.alone_inUnit (d := .fresh tape) hyields
    exact ⟨d, alone_reported halone, htape⟩
  | cancel user id =>
    obtain ⟨order, planned, h⟩ := h
    have hyields := h.yields (ItemPlan.release_runsAlone ht) ItemPlan.release_takesEffect
      (fun h => (h.edits_releases : Edits True _ _ ∧ _).2) hs hadmits happly
    obtain ⟨d, halone, htape⟩ := Yields.alone_inUnit (d := .fresh tape) hyields
    exact ⟨d, alone_reported halone, htape⟩
  | ship id =>
    obtain ⟨d, halone, htape⟩ := DraftsMove.alone .ship h hs happly
    exact ⟨d, alone_reported halone, htape⟩
  | complete id =>
    obtain ⟨d, halone, htape⟩ := DraftsMove.alone .complete h hs happly
    exact ⟨d, alone_reported halone, htape⟩
  | _ => exact hguarded.elim

end ServiceCall

end Stockroom
