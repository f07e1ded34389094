import Stockroom.Proofs.Crowd.Outcome
import Stockroom.Proofs.Crowd.Privacy
import Stockroom.Proofs.Service.Settling

/-!
# Proofs/Crowd/Closing — what becomes of a pending order that is paid or cancelled

A pending order leaves that status together with its items.  **With nobody else around, `Closing` is all that
can become of it**: the order is unknown to the user, or it is pending no more, or something stands in the way
of an item, or it moves and its items are settled.  No race is lost, because the unit of work sees what is
committed, and no count is in the way, because a record holds what its active reservations say.

So an order is paid exactly if it is `Payable` (`Crowd.payment_run`).  It is cancelled exactly if each of its
reservations is active or has expired (`Crowd.cancellation_run`): a reservation that was cancelled or confirmed
on its own can neither be released nor is it skipped, and then **the order can be neither paid nor cancelled**
(`Crowd.stranded_order`).
-/

namespace Stockroom

open Store Call StockService

variable {s : Store} {t : Tables} {tape : Tape} {user : UserId} {id : OrderId} {o moved : Order}
  {item : OrderItem} {move : OrderMove} {how : Settlement} {skips : ReservationStatus → Bool}

/-! ## A store in order -/

/-- **A store whose orders can be closed**: records, reservations and orders agree, and no version is about to
run out. -/
structure Store.Orderly (s : Store) : Prop where
  sound : s.committed.Sound
  wellKept : s.committed.WellKept
  backed : s.committed.Backed
  room : s.committed.HasRoom 1

theorem Store.Orderly.offers {product : ProductId} {record : StockRecord} (h : s.Orderly)
    (hlive : s.committed.liveStock? product = some record) : s.committed.Offers product record :=
  ⟨hlive, h.wellKept.filed.product_of_live hlive, h.sound.bounds _ _ (Tables.liveStock?_eq_some_iff.mp hlive)⟩

namespace OrderService

/-- **Each item of an order is ready, or something stands in its way.** -/
theorem ready_or_obstructs (h : s.Orderly) (skips : ReservationStatus → Bool)
    (horder : s.committed.order? id = some o) (hitem : item ∈ o.items) :
    s.committed.Ready skips id item ∨ ∃ error, s.committed.Obstructs skips id item error := by
  obtain rfl : o.id = id := h.wellKept.orderKey _ _ horder
  obtain ⟨r, hr, hquantity, -⟩ := (h.backed _ o horder).held item hitem
  have hkey : r.key = ⟨item.product, o.id⟩ := h.wellKept.filed.reservations _ _ hr
  have hproduct : r.product = item.product := congrArg ReservationKey.product hkey
  by_cases hactive : r.status = .active
  · cases hlive : s.committed.liveStock? item.product with
    | none => exact .inr ⟨_, .removed hr hactive hquantity hlive⟩
    | some record =>
      have hrow := Tables.liveStock?_eq_some_iff.mp hlive
      refine .inl (.inl ⟨record, r, h.offers hlive, (h.room _ _ hrow).2, hr, hkey, hactive, hquantity,
        hquantity ▸ h.sound.positive _ _ hr, ?_⟩)
      rw [← hquantity]
      exact h.sound.le_reserved (hproduct ▸ hrow) (hkey ▸ hr) hactive
  · cases hskips : skips r.status with
    | true => exact .inl (.inr ⟨r, hr, hactive, hskips⟩)
    | false => exact .inr ⟨_, .inactive hr hkey hactive hskips⟩

/-- **Nothing stands in the way of any item**, or there is a first one. -/
theorem all_ready_or_first {items : List OrderItem}
    (h : ∀ item ∈ items, t.Ready skips id item ∨ ∃ error, t.Obstructs skips id item error) :
    (∀ item ∈ items, t.Ready skips id item) ∨ ∃ front item back error, items = front ++ item :: back ∧
      (∀ other ∈ front, t.Ready skips id other) ∧ t.Obstructs skips id item error := by
  induction items with
  | nil => exact .inl (List.forall_mem_nil _)
  | cons first items ih =>
    obtain ⟨hfirst, hrest⟩ := List.forall_mem_cons.mp h
    rcases hfirst with hfirst | ⟨error, hobstacle⟩
    · rcases ih hrest with hall | ⟨front, item, back, error, rfl, hfront, hobstacle⟩
      · exact .inl (List.forall_mem_cons.mpr ⟨hfirst, hall⟩)
      · exact .inr ⟨first :: front, item, back, error, rfl, List.forall_mem_cons.mpr ⟨hfirst, hfront⟩,
          hobstacle⟩
    · exact .inr ⟨[], first, items, error, rfl, List.forall_mem_nil _, hobstacle⟩

/-! ## What becomes of an order -/

/-- **How the payment or the cancellation of an order ends that nobody interferes with**, and the store after
it. -/
inductive Closing (move : OrderMove) (how : Settlement) (skips : ReservationStatus → Bool) (user : UserId)
    (id : OrderId) (tape : Tape) (s : Store) : Except ServiceError Order → Store → Prop
  | unknown (hunknown : ∀ o, s.committed.order? id = some o → o.isOwnedBy user = false) :
      Closing move how skips user id tape s (.error (.notFound (.order id))) s
  | refused {o : Order} {refusal : Refusal} (hfound : s.committed.order? id = some o) (howner : o.user = user)
      (hrefused : move.apply o tape.time = .error refusal) :
      Closing move how skips user id tape s (.error (.refused refusal)) s
  | obstructed {o moved : Order} {front back : List OrderItem} {item : OrderItem} {error : ServiceError}
      (hfound : s.committed.order? id = some o) (howner : o.user = user)
      (hmoved : move.apply o tape.time = .ok moved) (hitems : o.items = front ++ item :: back)
      (hfront : ∀ other ∈ front, s.committed.Ready skips id other)
      (hobstacle : s.committed.Obstructs skips id item error) :
      Closing move how skips user id tape s (.error error) s
  | closed {o moved : Order} {t : Tables} (hfound : s.committed.order? id = some o) (howner : o.user = user)
      (hmoved : move.apply o tape.time = .ok moved)
      (hready : ∀ item ∈ o.items, s.committed.Ready skips id item)
      (hsettles : s.committed.Settles how id (fun i => tape.clock (tape.readings + (i + 1)))
        (o.items.filter (s.committed.isHeld id)) t) :
      Closing move how skips user id tape s (.ok moved) ⟨t.putOrder moved, s.nextOrder⟩

variable {settle : OrderId → OrderItem → Call Unit}

/-- **In its unit of work** the call fails without a trace, or it settles the items and saves the order. -/
theorem moveAll_closing (h : s.Orderly) (hsettle : ∀ id, ItemStep how skips id (settle id))
    (user : UserId) (id : OrderId) (move : OrderMove) (tape : Tape) :
    (∃ error tape', (moveAll user id move settle).Fails s s.committed tape error tape' ∧
        Closing move how skips user id tape s (.error error) s) ∨
      ∃ (moved : Order) (t : Tables) (tape' : Tape),
        (moveAll user id move settle).Yields s s.committed tape moved (t.putOrder moved) tape' ∧
          Closing move how skips user id tape s (.ok moved) ⟨t.putOrder moved, s.nextOrder⟩ := by
  have hk := h.wellKept.filed.reservations
  by_cases hunknown : ∀ o, s.committed.order? id = some o → o.isOwnedBy user = false
  · exact .inl ⟨_, tape, (loadOrder_fails hunknown).bind, .unknown hunknown⟩
  push Not at hunknown
  obtain ⟨o, hfound, howned⟩ := hunknown
  have howner : o.user = user := of_decide_eq_true (Bool.eq_true_of_not_eq_false howned)
  have hload : (loadOrder id user).Yields s s.committed tape o s.committed tape :=
    loadOrder_yields hfound (decide_eq_true howner)
  cases hmoved : move.apply o tape.time with
  | error refusal =>
    refine .inl ⟨.refused refusal, tape.read, .after hload (.after .now ?_), .refused hfound howner hmoved⟩
    rw [hmoved]
    exact .bind .throw
  | ok moved =>
    have hprecedes := OrderMove.apply_precedes hmoved
    have hmid : moved.id = id := hprecedes.id.trans (h.wellKept.orderKey _ _ hfound)
    have hitems : moved.items = o.items := congrArg Draft.items hprecedes.draft
    have hnodup := (h.backed _ o hfound).items
    rcases all_ready_or_first fun item hitem => ready_or_obstructs h skips hfound hitem with
      hready | ⟨front, item, back, error, hsplit, hfront, hobstacle⟩
    · obtain ⟨t, tape', hyields, hsettles⟩ := (hsettle id).yields tape.read hk hready hnodup
      rw [Tape.times_read] at hsettles
      have hsaved : (Write.replaceOrder moved o.status).apply t = .ok (t.putOrder moved) := by
        refine Write.apply_replaceOrder_iff.mpr ⟨o, ?_, rfl, rfl⟩
        rw [hmid, Tables.order?, hsettles.untouched.orders]
        exact hfound
      refine .inr ⟨moved, t, tape', .bind hload (.bind .now (.obey_bind hmoved ?_)),
        .closed hfound howner hmoved hready hsettles⟩
      rw [hitems, hmid]
      exact .bind hyields (.bind (saveMove_yields hk hsaved) .pure)
    · rw [hsplit, List.map_append, List.map_cons] at hnodup
      obtain ⟨hfirst, -, hapart⟩ := List.nodup_append.mp hnodup
      have hother : item.product ∉ front.map OrderItem.product := fun hmem =>
        hapart _ hmem _ List.mem_cons_self rfl
      obtain ⟨tape', hfails⟩ : ∃ tape', ((front ++ item :: back).forM (settle id)).Fails s s.committed
          tape.read error tape' := (hsettle id).fails tape.read hk hfront hother hfirst hobstacle
      refine .inl ⟨error, tape', .after hload (.after .now ?_),
        .obstructed hfound howner hmoved hsplit hfront hobstacle⟩
      rw [hmoved]
      refine .after .pure ?_
      rw [hitems, hmid, hsplit]
      exact hfails.bind

variable {ending : Program Host (Except ServiceError Order)} {desk : Desk} {s' : Store}

/-- **All that can become of a pending order** with nobody else around. -/
theorem finish_closing {component : String} {record : Order → LogRecord} (h : s.Orderly)
    (hsettle : ∀ id, ItemStep how skips id (settle id))
    (hends : (do
        let order ← inUnit component (moveAll user id move settle)
        log (record order)
        return order : Call Order).run.finish (.fresh tape) s = (ending, desk, s')) :
    ∃ result, ending = .done result ∧ Closing move how skips user id tape s result s' := by
  rcases moveAll_closing h hsettle user id move tape with
    ⟨error, tape', hfails, hclosing⟩ | ⟨moved, t, tape', hyields, hclosing⟩
  · obtain ⟨d', halone, -⟩ : ∃ d', (inUnit component (moveAll user id move settle)).run.alone
        (.fresh tape) s = some (.error error, d', s) ∧ d'.tape = tape' := Fails.alone_inUnit hfails
    cases hends.symm.trans (Program.alone_eq_some_iff.mp (alone_bind_error halone))
    exact ⟨_, rfl, hclosing⟩
  · obtain ⟨d', halone, -⟩ : ∃ d', (inUnit component (moveAll user id move settle)).run.alone
        (.fresh tape) s = some (.ok moved, d', ⟨t.putOrder moved, s.nextOrder⟩) ∧ d'.tape = tape' :=
      Yields.alone_inUnit hyields
    cases hends.symm.trans (Program.alone_eq_some_iff.mp (ServiceCall.alone_reported halone))
    exact ⟨_, rfl, hclosing⟩

namespace Closing

variable {result : Except ServiceError Order}

/-- **Nothing is lost to anybody.** -/
theorem not_raced (h : Closing move how skips user id tape s result s') (race : LostRace) :
    result ≠ .error (.concurrentUpdate race) := by
  rintro rfl
  cases h with
  | obstructed _ _ _ _ _ hobstacle => cases hobstacle

/-- **A call that fails leaves everything as it was.** -/
theorem eq_of_error {error : ServiceError} (h : Closing move how skips user id tape s (.error error) s') :
    s' = s := by
  cases h <;> rfl

/-- **What is closed was ready to be**, all of it. -/
theorem of_ok (h : Closing move how skips user id tape s (.ok moved) s') :
    ∃ o t, s.committed.order? id = some o ∧ o.user = user ∧ move.apply o tape.time = .ok moved ∧
      (∀ item ∈ o.items, s.committed.Ready skips id item) ∧
      s.committed.Settles how id (fun i => tape.clock (tape.readings + (i + 1)))
        (o.items.filter (s.committed.isHeld id)) t ∧ s' = ⟨t.putOrder moved, s.nextOrder⟩ := by
  cases h with
  | closed hfound howner hmoved hready hsettles =>
    exact ⟨_, _, hfound, howner, hmoved, hready, hsettles, rfl⟩

variable (h : Closing move how skips user id tape s result s') (hfound : s.committed.order? id = some o)
  (howner : o.user = user) (hmoved : move.apply o tape.time = .ok moved)
include h hfound howner hmoved

/-- **An order that can move** is closed, or something stands in the way of an item of it. -/
theorem ok_or_obstructed : result = .ok moved ∨ ∃ front item back error, o.items = front ++ item :: back ∧
    (∀ other ∈ front, s.committed.Ready skips id other) ∧ s.committed.Obstructs skips id item error ∧
    result = .error error := by
  cases h with
  | unknown hunknown => exact absurd howner (of_decide_eq_false (hunknown o hfound))
  | refused hfound' _ hrefused =>
    cases hfound.symm.trans hfound'
    cases hmoved.symm.trans hrefused
  | obstructed hfound' _ _ hitems hfront hobstacle =>
    cases hfound.symm.trans hfound'
    exact .inr ⟨_, _, _, _, hitems, hfront, hobstacle, rfl⟩
  | closed hfound' _ hmoved' =>
    cases hfound.symm.trans hfound'
    cases hmoved'.symm.trans hmoved
    exact .inl rfl

end Closing

theorem pay_closing (h : s.Orderly)
    (hends : ServiceCall.finish (.pay user id) tape s = (ending, desk, s')) :
    ∃ result, ending = .done result ∧ Closing .pay .deduct (fun _ => false) user id tape s result s' :=
  finish_closing h itemStep_deductItem hends

theorem cancel_closing (h : s.Orderly)
    (hends : ServiceCall.finish (.cancel user id) tape s = (ending, desk, s')) :
    ∃ result, ending = .done result ∧
      Closing .cancel (.release .cancelled) (· = .expired) user id tape s result s' :=
  finish_closing h itemStep_releaseItem hends

end OrderService

/-! ## Which orders can be closed -/

/-- The order after it was paid. -/
def Order.paid (o : Order) (now : Instant) : Order :=
  { o with status := .paid, timeline := { o.timeline with paidAt := some now, updatedAt := now } }

/-- The order after it was cancelled. -/
def Order.cancelled (o : Order) (now : Instant) : Order :=
  { o with status := .cancelled, timeline := { o.timeline with cancelledAt := some now, updatedAt := now } }

theorem Order.pay_eq_ok_iff {now : Instant} :
    o.pay now = .ok moved ↔ o.status = .pending ∧ moved = o.paid now :=
  @OrderMove.apply_eq_ok_iff .pay o moved now

theorem Order.cancel_eq_ok_iff {now : Instant} :
    o.cancel now = .ok moved ↔ o.status = .pending ∧ moved = o.cancelled now :=
  @OrderMove.apply_eq_ok_iff .cancel o moved now

namespace Store.Tables

/-- **An order that can be paid**: it is the user's and pending, each of its products is on offer, and its
pieces are held. -/
structure Payable (t : Tables) (user : UserId) (id : OrderId) (o : Order) : Prop where
  found : t.order? id = some o
  owner : o.user = user
  pending : o.status = .pending
  live : ∀ item ∈ o.items, (t.liveStock? item.product).isSome
  held : ∀ item ∈ o.items, t.isHeld id item

/-- **An item that can be let go**: its pieces are held, or they are back because the reservation expired. -/
def LetsGo (t : Tables) (id : OrderId) (item : OrderItem) : Prop :=
  ∃ r, t.reservation? item.product id = some r ∧ (r.status = .active ∨ r.status = .expired)

/-- What is in the way of an item whose product is on offer is its reservation. -/
theorem Obstructs.of_live {error : ServiceError} (h : t.Obstructs skips id item error)
    (hlive : (t.liveStock? item.product).isSome) :
    ∃ r, t.reservation? item.product id = some r ∧ r.status ≠ .active ∧ skips r.status = false ∧
      error = .refused (.invalidMove (.reservationNotActive item.product id r.status)) := by
  cases h with
  | inactive hr _ hinactive hkept => exact ⟨_, hr, hinactive, hkept, rfl⟩
  | removed _ _ _ hremoved =>
    rw [hremoved] at hlive
    cases hlive

theorem Payable.not_obstructs {error : ServiceError} (h : t.Payable user id o) (hitem : item ∈ o.items) :
    ¬t.Obstructs skips id item error := by
  intro hobstacle
  obtain ⟨r, hr, hinactive, -⟩ := hobstacle.of_live (h.live item hitem)
  have hheld := h.held item hitem
  rw [isHeld, hr] at hheld
  exact hinactive (of_decide_eq_true hheld)

theorem LetsGo.not_obstructs {error : ServiceError} (h : t.LetsGo id item)
    (hlive : (t.liveStock? item.product).isSome) : ¬t.Obstructs (· = .expired) id item error := by
  intro hobstacle
  obtain ⟨r, hr, hinactive, hkept, -⟩ := hobstacle.of_live hlive
  obtain ⟨r', hr', hstatus⟩ := h
  obtain rfl := Option.some.inj (hr.symm.trans hr')
  exact hstatus.elim hinactive (of_decide_eq_false hkept)

/-- What can be paid is on offer and held. -/
theorem Ready.live_and_held (h : t.Ready (fun _ => false) id item) :
    (t.liveStock? item.product).isSome ∧ t.isHeld id item := by
  rcases h with ⟨record, r, h⟩ | ⟨r, -, -, hskipped⟩
  · exact ⟨Option.isSome_of_mem h.offered.live, h.isHeld⟩
  · cases hskipped

theorem Payable.of_ready {now : Instant} (hfound : t.order? id = some o) (howner : o.user = user)
    (hmoved : o.pay now = .ok moved) (hready : ∀ item ∈ o.items, t.Ready (fun _ => false) id item) :
    t.Payable user id o where
  found := hfound
  owner := howner
  pending := (Order.pay_eq_ok_iff.mp hmoved).1
  live item hitem := (hready item hitem).live_and_held.1
  held item hitem := (hready item hitem).live_and_held.2

/-- What can be cancelled can be let go. -/
theorem Ready.letsGo (h : t.Ready (· = .expired) id item) : t.LetsGo id item := by
  rcases h with ⟨record, r, h⟩ | ⟨r, hr, -, hexpired⟩
  · exact ⟨r, h.reserved, .inl h.active⟩
  · exact ⟨r, hr, .inr (of_decide_eq_true hexpired)⟩

end Store.Tables

/-! ## Runs -/

namespace Crowd

open OrderService

variable {catalogue : Table ProductId Product} {calls : List (ServiceCall × Tape)} {past : List Nat}
  {ending : Program Host (Except ServiceError Order)} {desk : Desk} {s' : Store}

/-- **A short run leaves a store whose orders can be closed.** -/
theorem orderly_run (catalogue : Table ProductId Product) (hfits : ∀ call ∈ calls, call.1.Fits)
    (hpast : past.length < 2 ^ 63) : ((opening catalogue calls).run past).store.Orderly := by
  have hreachable := (assured_run catalogue hfits hpast).reachable
  have hsize := Nat.lt_of_le_of_lt (size_run catalogue calls past) hpast
  exact ⟨hreachable.sound, hreachable.wellKept, hreachable.backed,
    (hreachable.wellKept.hasRoom hsize).mono (by omega)⟩

/-- **All about a payment that nobody interferes with**, from every store that can be reached.  The order is
paid exactly if it is payable; no race is lost, and a payment that fails leaves everything as it was.  When the
order is paid, all that changes is the order, and the record, the reservation and the entry of each of its
items, one after the other. -/
theorem payment_run (catalogue : Table ProductId Product) (hfits : ∀ call ∈ calls, call.1.Fits)
    (hpast : past.length < 2 ^ 63) (hs : s = ((opening catalogue calls).run past).store)
    (hends : ServiceCall.finish (.pay user id) tape s = (ending, desk, s')) :
    ((∃ order, ending = .done (.ok order)) ↔ ∃ o, s.committed.Payable user id o) ∧
      (∃ result, ending = .done result ∧ (∀ race, result ≠ .error (.concurrentUpdate race)) ∧
        ∀ error, result = .error error → s' = s) ∧
      ∀ order, ending = .done (.ok order) → ∃ o t', s.committed.Payable user id o ∧
        order = o.paid tape.time ∧
        s.committed.Settles .deduct id (fun i => tape.clock (tape.readings + (i + 1))) o.items t' ∧
        s' = ⟨t'.putOrder order, s.nextOrder⟩ := by
  obtain ⟨result, rfl, hclosing⟩ := pay_closing (hs ▸ orderly_run catalogue hfits hpast) hends
  refine ⟨⟨?_, ?_⟩, ⟨result, rfl, hclosing.not_raced, ?_⟩, ?_⟩
  · rintro ⟨order, heq⟩
    cases heq
    obtain ⟨o, -, hfound, howner, hmoved, hready, -⟩ := hclosing.of_ok
    exact ⟨o, .of_ready hfound howner hmoved hready⟩
  · rintro ⟨o, h⟩
    rcases hclosing.ok_or_obstructed h.found h.owner (Order.pay_eq_ok_iff.mpr ⟨h.pending, rfl⟩) with
      rfl | ⟨front, item, back, error, hitems, -, hobstacle, -⟩
    · exact ⟨_, rfl⟩
    · exact absurd hobstacle (h.not_obstructs (hitems ▸ List.mem_append_right _ List.mem_cons_self))
  · rintro error rfl
    exact hclosing.eq_of_error
  · intro order heq
    cases heq
    obtain ⟨o, t', hfound, howner, hmoved, hready, hsettles, rfl⟩ := hclosing.of_ok
    have hpayable : s.committed.Payable user id o := .of_ready hfound howner hmoved hready
    rw [List.filter_eq_self.mpr hpayable.held] at hsettles
    exact ⟨o, t', hpayable, (Order.pay_eq_ok_iff.mp hmoved).2, hsettles, rfl⟩

/-- The store once two cups of the tea are ordered. -/
def orderedStore : Store :=
  (paymentOpening.run (List.replicate 4 0 ++ List.replicate 14 1)).store

/-- All numbers in the calls are small. -/
theorem fits_paymentCalls : ∀ call ∈ paymentCalls, call.1.Fits := by
  simp [paymentCalls, ServiceCall.Fits]
  decide

/-- **The two cups are paid.** -/
theorem payment_run_tea : ∃ o order desk s' t',
    ServiceCall.finish (.pay ⟨9⟩ ⟨1⟩) teaTape orderedStore = (.done (.ok order), desk, s') ∧
      orderedStore.committed.Payable ⟨9⟩ ⟨1⟩ o ∧ order = o.paid ⟨0⟩ ∧
      orderedStore.committed.Settles .deduct ⟨1⟩ (fun _ => ⟨0⟩) o.items t' ∧
      s' = ⟨t'.putOrder order, orderedStore.nextOrder⟩ := by
  have hrun : ∃ order desk s', ServiceCall.finish (.pay ⟨9⟩ ⟨1⟩) teaTape orderedStore =
      (.done (.ok order), desk, s') := ⟨_, _, _, rfl⟩
  obtain ⟨order, desk, s', hends⟩ := hrun
  obtain ⟨-, -, hpaid⟩ := payment_run (s := orderedStore) (Table.empty.insert ⟨1⟩ tea) fits_paymentCalls
    (by decide : (List.replicate 4 0 ++ List.replicate 14 1).length < 2 ^ 63) rfl hends
  obtain ⟨o, t', hpayable, horder, hsettles, hs'⟩ := hpaid order rfl
  exact ⟨o, order, desk, s', t', hends, hpayable, horder, hsettles, hs'⟩

/-- **All about a cancellation that nobody interferes with**, of a pending order whose products are all on
offer.  If all its items can be let go, it is cancelled: those that are held are released, one after the other,
and nothing else changes.  Otherwise the first item that cannot be let go is reported, because its reservation
was cancelled or confirmed on its own, and everything is as it was. -/
theorem cancellation_run (catalogue : Table ProductId Product) (hfits : ∀ call ∈ calls, call.1.Fits)
    (hpast : past.length < 2 ^ 63) (hs : s = ((opening catalogue calls).run past).store)
    (hfound : s.committed.order? id = some o) (howner : o.user = user) (hpending : o.status = .pending)
    (hlive : ∀ item ∈ o.items, (s.committed.liveStock? item.product).isSome)
    (hends : ServiceCall.finish (.cancel user id) tape s = (ending, desk, s')) :
    ((∀ item ∈ o.items, s.committed.LetsGo id item) → ∃ t', ending = .done (.ok (o.cancelled tape.time)) ∧
        s.committed.Settles (.release .cancelled) id (fun i => tape.clock (tape.readings + (i + 1)))
          (o.items.filter (s.committed.isHeld id)) t' ∧
        s' = ⟨t'.putOrder (o.cancelled tape.time), s.nextOrder⟩) ∧
      ((∃ item ∈ o.items, ¬s.committed.LetsGo id item) → ∃ front item back r,
        o.items = front ++ item :: back ∧ (∀ other ∈ front, s.committed.LetsGo id other) ∧
        s.committed.reservation? item.product id = some r ∧
        (r.status = .cancelled ∨ r.status = .confirmed) ∧
        ending = .done (.error (.refused (.invalidMove
          (.reservationNotActive item.product id r.status)))) ∧ s' = s) := by
  obtain ⟨result, rfl, hclosing⟩ := cancel_closing (hs ▸ orderly_run catalogue hfits hpast) hends
  have hmoved : OrderMove.cancel.apply o tape.time = .ok (o.cancelled tape.time) :=
    Order.cancel_eq_ok_iff.mpr ⟨hpending, rfl⟩
  have hmem {front back : List OrderItem} {item : OrderItem} (hitems : o.items = front ++ item :: back) :
      item ∈ o.items := hitems ▸ List.mem_append_right _ List.mem_cons_self
  rcases hclosing.ok_or_obstructed hfound howner hmoved with
    rfl | ⟨front, item, back, error, hitems, hfront, hobstacle, rfl⟩
  · obtain ⟨o', t', hfound', -, -, hready, hsettles, rfl⟩ := hclosing.of_ok
    obtain rfl := Option.some.inj (hfound.symm.trans hfound')
    refine ⟨fun _ => ⟨t', rfl, hsettles, rfl⟩, ?_⟩
    rintro ⟨item, hitem, hkept⟩
    exact absurd (hready item hitem).letsGo hkept
  · refine ⟨fun hgo => ?_, fun _ => ?_⟩
    · exact absurd hobstacle ((hgo item (hmem hitems)).not_obstructs (hlive item (hmem hitems)))
    · obtain ⟨r, hr, hinactive, hkept, rfl⟩ := hobstacle.of_live (hlive item (hmem hitems))
      refine ⟨front, item, back, r, hitems, fun other hother => (hfront other hother).letsGo, hr, ?_, rfl,
        hclosing.eq_of_error⟩
      cases hstatus : r.status with
      | active => exact absurd hstatus hinactive
      | expired => exact absurd hstatus (of_decide_eq_false hkept)
      | cancelled => exact .inl rfl
      | confirmed => exact .inr rfl

/-- **The two cups are given back.** -/
theorem cancellation_run_tea : ∃ o desk s' t', orderedStore.committed.order? ⟨1⟩ = some o ∧
    (∀ item ∈ o.items, orderedStore.committed.LetsGo ⟨1⟩ item) ∧
    ServiceCall.finish (.cancel ⟨9⟩ ⟨1⟩) teaTape orderedStore = (.done (.ok (o.cancelled ⟨0⟩)), desk, s') ∧
    orderedStore.committed.Settles (.release .cancelled) ⟨1⟩ (fun _ => ⟨0⟩)
      (o.items.filter (orderedStore.committed.isHeld ⟨1⟩)) t' ∧
    s' = ⟨t'.putOrder (o.cancelled ⟨0⟩), orderedStore.nextOrder⟩ := by
  have horder : ∃ o, orderedStore.committed.order? ⟨1⟩ = some o ∧ o.user = ⟨9⟩ ∧ o.status = .pending ∧
      (∀ item ∈ o.items, (orderedStore.committed.liveStock? item.product).isSome) ∧
      ∀ item ∈ o.items, orderedStore.committed.LetsGo ⟨1⟩ item :=
    ⟨_, rfl, rfl, rfl, by decide +kernel, fun item hitem => by
      obtain rfl := List.mem_singleton.mp hitem
      exact ⟨_, rfl, .inl rfl⟩⟩
  obtain ⟨o, hfound, howner, hpending, hlive, hgo⟩ := horder
  obtain ⟨ending, desk, s', hends⟩ : ∃ ending desk s',
      ServiceCall.finish (.cancel ⟨9⟩ ⟨1⟩) teaTape orderedStore = (ending, desk, s') := ⟨_, _, _, rfl⟩
  obtain ⟨hcancelled, -⟩ := cancellation_run (s := orderedStore) (Table.empty.insert ⟨1⟩ tea)
    fits_paymentCalls (by decide : (List.replicate 4 0 ++ List.replicate 14 1).length < 2 ^ 63) rfl hfound
    howner hpending hlive hends
  obtain ⟨t', rfl, hsettles, hs'⟩ := hcancelled hgo
  exact ⟨o, desk, s', t', hfound, hgo, hends, hsettles, hs'⟩

/-- The store once two cups of the tea are ordered, and their reservation was released on its own. -/
def strandedStore : Store :=
  (paymentOpening.run (List.replicate 4 0 ++ List.replicate 14 1 ++ List.replicate 10 3)).store

/-- **A pending order that can be neither cancelled nor paid.**  Its only product is on offer, but the
reservation was cancelled without it. -/
theorem stranded_order : ∃ o, strandedStore.committed.order? ⟨1⟩ = some o ∧ o.user = ⟨9⟩ ∧
    o.status = .pending ∧
    (∀ item ∈ o.items, (strandedStore.committed.liveStock? item.product).isSome) ∧
    (ServiceCall.finish (.cancel ⟨9⟩ ⟨1⟩) teaTape strandedStore).1 =
      .done (.error (.refused (.invalidMove (.reservationNotActive ⟨1⟩ ⟨1⟩ .cancelled)))) ∧
    (ServiceCall.finish (.pay ⟨9⟩ ⟨1⟩) teaTape strandedStore).1 =
      .done (.error (.refused (.invalidMove (.reservationNotActive ⟨1⟩ ⟨1⟩ .cancelled)))) :=
  ⟨_, rfl, rfl, rfl, by decide +kernel, rfl, rfl⟩

end Crowd

end Stockroom
