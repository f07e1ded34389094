import Stockroom.Proofs.Crowd.Run

/-!
# Proofs/Crowd/Backing — an order and its reservations tell the same

The status of an order and the statuses of its reservations lie in different rows, and others may
settle a reservation behind the back of its order.  **`Order.Backed` is what remains true all the
same** (`backed_run`): every item has a reservation of its quantity, and the statuses fit
(`OrderStatus.Allows`).

An order that is not pending wants reservations that are settled, and a settled reservation never
changes again; so nobody but the call that moves the order can spoil the agreement.
-/

namespace Stockroom

open Store

/-! ## Statuses -/

/-- **Which status the reservations of an order may have.** -/
def OrderStatus.Allows : OrderStatus → ReservationStatus → Prop
  | pending, _ => True
  | paid, status | shipped, status | completed, status => status = .confirmed
  | cancelled, status => status = .cancelled ∨ status = .expired

/-- An order that is not pending allows no active reservation. -/
theorem OrderStatus.Allows.settled {status : OrderStatus} {r : ReservationStatus}
    (h : status.Allows r) : status = .pending ∨ r ≠ .active := by
  cases status with
  | pending => exact .inl rfl
  | cancelled => exact .inr (by rcases h with rfl | rfl <;> exact nofun)
  | _ =>
    obtain rfl : r = .confirmed := h
    exact .inr nofun

/-- What is allowed stays allowed when the reservation moves on. -/
theorem OrderStatus.Allows.later {status : OrderStatus} {r r' : Reservation}
    (h : status.Allows r.status) (hr : r.Precedes r') : status.Allows r'.status := by
  rcases h.settled with rfl | hsettled
  · exact trivial
  · rwa [hr.settled hsettled]

/-- **A move leads from its source to its target.** -/
theorem OrderMove.status_of_apply {move : OrderMove} {o o' : Order} {now : Instant}
    (h : move.apply o now = .ok o') : o.status = move.source ∧ o'.status = move.target := by
  obtain ⟨hsource, rfl⟩ := apply_eq_ok_iff.mp h
  exact ⟨hsource, rfl⟩

/-! ## Backed orders -/

/-- An item has a reservation of its quantity, and `P` holds of its status. -/
def OrderItem.Held (item : OrderItem) (id : OrderId) (P : ReservationStatus → Prop) (t : Tables) :
    Prop :=
  ∃ r, t.reservation? item.product id = some r ∧ r.quantity = item.quantity ∧ P r.status

/-- **An order whose items are different products with a reservation each.** -/
structure Order.Backed (o : Order) (t : Tables) : Prop where
  items : (o.items.map OrderItem.product).Nodup
  held : ∀ item ∈ o.items, item.Held o.id o.status.Allows t

/-- Whether every order is backed. -/
def Store.Tables.Backed (t : Tables) : Prop := ∀ id order, t.order? id = some order → order.Backed t

section Backed

variable {t t' : Tables} {item : OrderItem} {id : OrderId} {order : Order}

/-- A reservation is still there later, with the same quantity. -/
theorem OrderItem.Held.later {P P' : ReservationStatus → Prop} (h : item.Held id P t)
    (hg : t.reservations.Grows Reservation.Precedes t'.reservations)
    (hP : ∀ r r' : Reservation, P r.status → r.Precedes r' → P' r'.status) :
    item.Held id P' t' := by
  obtain ⟨r, hr, hq, hs⟩ := h
  obtain ⟨r', hr', hprec⟩ := hg _ _ hr
  exact ⟨r', hr', hprec.quantity.trans hq, hP r r' hs hprec⟩

theorem Order.Backed.later (h : order.Backed t)
    (hg : t.reservations.Grows Reservation.Precedes t'.reservations) : order.Backed t' :=
  ⟨h.items, fun item hitem => (h.held item hitem).later hg fun _ _ => OrderStatus.Allows.later⟩

/-- Orders stay backed while none of them changes. -/
theorem Store.Tables.Backed.later (h : t.Backed)
    (hg : t.reservations.Grows Reservation.Precedes t'.reservations) (ho : t'.orders = t.orders) :
    t'.Backed := fun id order horder => by
  rw [Tables.order?, ho] at horder
  exact (h id order horder).later hg

/-- An order is written that is backed. -/
theorem Store.Tables.Backed.put (h : t.Backed) (horder : order.Backed t) :
    (t.putOrder order).Backed := by
  have hsame : ∀ o : Order, o.Backed t → o.Backed (t.putOrder order) := fun o ho =>
    ⟨ho.items, ho.held⟩
  exact Table.forall_insert (fun id o ho => hsame o (h id o ho)) (hsame order horder)

/-- An order that has moved keeps its items, which have to fit its new status. -/
theorem Order.Backed.moved {move : OrderMove} {o moved : Order} {now : Instant}
    (h : o.Backed t) (hmoved : move.apply o now = .ok moved)
    (hheld : ∀ item ∈ o.items, item.Held o.id move.target.Allows t) : moved.Backed t := by
  have hmove := OrderMove.apply_precedes hmoved
  have hitems : moved.items = o.items := congrArg Draft.items hmove.draft
  refine ⟨hitems ▸ h.items, fun item hitem => ?_⟩
  rw [hmove.id, (OrderMove.status_of_apply hmoved).2]
  exact hheld item (hitems ▸ hitem)

end Backed

/-! ## Items that move together -/

section Each

variable {t t' : Tables} {ttl : Span} {id : OrderId} {item : OrderItem} {items : List OrderItem}

theorem Movement.Posts.marks {m : Movement} (h : m.Posts t t') :
    m.Marks t.reservations t'.reservations := by
  cases h
  assumption

/-- **What is done for one item after the other** has been done for each of them in the end. -/
theorem Each.marked {R : OrderItem → Tables → Tables → Prop}
    {P : OrderItem → Reservation → Prop}
    (hR : ∀ item t t', R item t t' → t.reservations.Grows Reservation.Precedes t'.reservations ∧
      ∃ r, t'.reservation? item.product id = some r ∧ P item r)
    (hP : ∀ item r r', P item r → r.Precedes r' → P item r') (h : Each R items t t') :
    t.reservations.Grows Reservation.Precedes t'.reservations ∧
      ∀ item ∈ items, ∃ r, t'.reservation? item.product id = some r ∧ P item r := by
  induction h with
  | nil => exact ⟨.refl Reservation.Precedes.refl _, nofun⟩
  | cons h _ ih =>
    obtain ⟨hg, r, hr, hPr⟩ := hR _ _ _ h
    obtain ⟨hg', hall⟩ := ih
    refine ⟨Table.Grows.trans (fun a b => a.trans b) hg hg', fun item hitem => ?_⟩
    rcases List.mem_cons.mp hitem with rfl | hitem
    · obtain ⟨r', hr', hprec⟩ := hg' _ _ hr
      exact ⟨r', hr', hP _ _ _ hPr hprec⟩
    · exact hall item hitem

/-- A reserved item has a reservation of its quantity. -/
theorem Reserves.marked (h : Reserves ttl id item t t') :
    t.reservations.Grows Reservation.Precedes t'.reservations ∧
      ∃ r, t'.reservation? item.product id = some r ∧ r.quantity = item.quantity := by
  obtain ⟨expiresAt, now, -, hposts⟩ := h
  obtain ⟨-, hinsert⟩ := hposts.marks
  refine ⟨hposts.marks.grows, .start item.product id item.quantity expiresAt now, ?_, rfl⟩
  rw [Tables.reservation?, hinsert, Table.get?_insert, if_pos rfl]

/-- An item that was settled has a settled reservation. -/
theorem settled_marked {status : ReservationStatus} {rs rs' : Table ReservationKey Reservation}
    {quantity : Int} {key : ReservationKey} {now : Instant}
    (h : ∃ r, rs.get? key = some r ∧ r.status = .active ∧ r.quantity = quantity ∧
      rs' = rs.insert key { r with status := status, updatedAt := now }) :
    ∃ r, rs'.get? key = some r ∧ r.status = status := by
  obtain ⟨r, -, -, -, rfl⟩ := h
  exact ⟨_, (Table.get?_insert ..).trans (if_pos rfl), rfl⟩

theorem Deducts.marked (h : Deducts id item t t') :
    t.reservations.Grows Reservation.Precedes t'.reservations ∧
      ∃ r, t'.reservation? item.product id = some r ∧ r.status = .confirmed := by
  obtain ⟨now, hposts⟩ := h
  exact ⟨hposts.marks.grows, settled_marked hposts.marks⟩

/-- The reservation of an item of a cancelled order was released, now or when it expired. -/
theorem Releases.marked (h : Releases id item t t') :
    t.reservations.Grows Reservation.Precedes t'.reservations ∧
      ∃ r, t'.reservation? item.product id = some r ∧
        (r.status = .cancelled ∨ r.status = .expired) := by
  rcases h with ⟨r, hr, hexpired, rfl⟩ | ⟨now, hposts⟩
  · exact ⟨.refl Reservation.Precedes.refl _, r, hr, .inr hexpired⟩
  · obtain ⟨r, hr, hs⟩ := settled_marked hposts.marks
    exact ⟨hposts.marks.grows, r, hr, .inl hs⟩

end Each

/-! ## Changes -/

section Change

variable {A : ServiceCall → Prop} {call : ServiceCall} {s s' : Store}

/-- An order that moves together with its items stays backed if the items are settled as its new status
allows. -/
theorem Store.Tables.Backed.moveAll {t t' : Tables} {m : OrderMove} {id : OrderId}
    {order moved : Order} {now : Instant} (h : t.Backed) (hk : t.WellKept)
    (horder : t.order? id = some order) (hmoved : m.apply order now = .ok moved)
    (ho : t'.orders = t.orders)
    (hmarked : t.reservations.Grows Reservation.Precedes t'.reservations ∧
      ∀ item ∈ order.items, ∃ r, t'.reservation? item.product id = some r ∧
        m.target.Allows r.status) : (t'.putOrder moved).Backed := by
  obtain ⟨hg, hall⟩ := hmarked
  have hbacked := h id order horder
  obtain rfl : order.id = id := hk.orderKey _ _ horder
  refine (h.later hg ho).put ((hbacked.later hg).moved hmoved fun item hitem => ?_)
  obtain ⟨r, hr, hq, -⟩ := (hbacked.later hg).held item hitem
  obtain ⟨r', hr', hallowed⟩ := hall item hitem
  cases hr.symm.trans hr'
  exact ⟨r, hr, hq, hallowed⟩

/-- An order that moves alone stays backed if its new status allows what the old one did. -/
theorem Store.Tables.Backed.move {t : Tables} {m : OrderMove} {id : OrderId}
    {order moved : Order} {now : Instant} (h : t.Backed) (horder : t.order? id = some order)
    (hmoved : m.apply order now = .ok moved)
    (hallows : ∀ status, m.source.Allows status → m.target.Allows status) :
    (t.putOrder moved).Backed := by
  have hbacked := h id order horder
  refine h.put (hbacked.moved hmoved fun item hitem => ?_)
  obtain ⟨r, hr, hq, hs⟩ := hbacked.held item hitem
  rw [(OrderMove.status_of_apply hmoved).1] at hs
  exact ⟨r, hr, hq, hallows _ hs⟩

/-- **Every change keeps the orders backed.** -/
theorem Change.backed (h : Change call s s') (hk : s.committed.WellKept) (hb : s.committed.Backed) :
    s'.committed.Backed := by
  cases h with
  | post _ hm => exact hb.later hm.marks.grows hm.orders
  | register _ _ _ => exact hb.later (.refl Reservation.Precedes.refl _) rfl
  | tune _ _ => exact hb.later (.refl Reservation.Precedes.refl _) rfl
  | remove _ => exact hb.later (.refl Reservation.Precedes.refl _) rfl
  | draw => exact hb
  | @place _ _ _ draft id t t' _ hlines _ _ hfresh hitems =>
    obtain ⟨hg, hall⟩ := hitems.marked (P := fun item r => r.quantity = item.quantity)
      (fun _ _ _ => Reserves.marked) fun _ _ _ hq hprec => hprec.quantity.trans hq
    -- The new order is backed only once all its items are reserved, so it is set apart until then.
    have hold : ∀ o : Order, o.Backed t → o.Backed t' := fun o ho => ho.later hg
    have hnew : (draft.toOrder id).Backed t' := by
      refine ⟨?_, fun item hitem => ?_⟩
      · have := OrderLine.nodup_merge hlines
        rwa [List.map_map] at this
      · obtain ⟨r, hr, hq⟩ := hall item hitem
        exact ⟨r, hr, hq, trivial⟩
    have horders := (hitems.edits_reserves : Edits True _ _ ∧ _).2
    intro id' o ho
    rw [Tables.order?, horders] at ho
    exact Table.forall_insert (P := fun _ o => o.Backed t') (fun id o ho => hold o (hb id o ho))
      hnew id' o ho
  | pay horder _ hpaid hitems =>
    refine hb.moveAll (m := .pay) hk horder hpaid (hitems.edits_deducts : Edits True _ _ ∧ _).2 ?_
    exact hitems.marked (fun _ _ _ => Deducts.marked) fun _ r _ (hs : OrderStatus.paid.Allows r.status) =>
      hs.later
  | ship horder hshipped => exact hb.move (m := .ship) horder hshipped fun _ => id
  | complete horder hcompleted => exact hb.move (m := .complete) horder hcompleted fun _ => id
  | cancel horder _ hcancelled hitems =>
    refine hb.moveAll (m := .cancel) hk horder hcancelled
      (hitems.edits_releases : Edits True _ _ ∧ _).2 ?_
    exact hitems.marked (fun _ _ _ => Releases.marked) fun _ r _
      (hs : OrderStatus.cancelled.Allows r.status) => hs.later

/-- **Later stores keep the orders backed.** -/
theorem Later.backed (hs : Reachable A s) (h : Later A s s') (hb : s.committed.Backed) :
    s'.committed.Backed := by
  induction h with
  | refl => exact hb
  | tail hl h ih =>
    obtain ⟨call, -, h⟩ := h
    exact h.backed (hs.later hl).wellKept ih

theorem Reachable.backed (h : Reachable A s) : s.committed.Backed := by
  obtain ⟨catalogue, hl⟩ := h
  exact Later.backed ⟨catalogue, .refl _⟩ hl fun _ _ h => nomatch h

end Change

/-! ## Runs -/

namespace Crowd

variable {calls : List (ServiceCall × Tape)}

/-- **An order and its reservations agree at every moment of every run**: its items are different
products, each has a reservation of its quantity, and all of them are settled as the status of the
order says. -/
theorem backed_run (catalogue : Table ProductId Product) (hfits : ∀ call ∈ calls, call.1.Fits)
    {schedule : List Nat} (hsteps : schedule.length < 2 ^ 63) {id : OrderId} {order : Order}
    (horder : ((opening catalogue calls).run schedule).store.committed.order? id = some order) :
    (order.items.map OrderItem.product).Nodup ∧
      ∀ item ∈ order.items, ∃ r,
        ((opening catalogue calls).run schedule).store.committed.reservation? item.product id =
            some r ∧
          r.quantity = item.quantity ∧
          (order.status = .paid ∨ order.status = .shipped ∨ order.status = .completed →
            r.status = .confirmed) ∧
          (order.status = .cancelled → r.status = .cancelled ∨ r.status = .expired) := by
  have hreachable := (assured_run catalogue hfits hsteps).reachable
  obtain ⟨hitems, hheld⟩ := hreachable.backed id order horder
  obtain rfl : order.id = id := hreachable.wellKept.orderKey _ _ horder
  refine ⟨hitems, fun item hitem => ?_⟩
  obtain ⟨r, hr, hq, hs⟩ := hheld item hitem
  refine ⟨r, hr, hq, ?_, fun hstatus => by rwa [hstatus] at hs⟩
  rintro (hstatus | hstatus | hstatus) <;> rwa [hstatus] at hs

/-- A product that can be ordered. -/
def tea : Product := ⟨⟨1⟩, "tea", ⟨300⟩, none⟩

/-- Tea is registered and ordered; then a payment and a release of its reservation race. -/
def paymentCalls : List (ServiceCall × Tape) :=
  [ .register ⟨1⟩ 5 1,
    .create .standard .standard
      ⟨⟨9⟩, [⟨⟨1⟩, 2⟩], ⟨"Ada", "1", "Here", none⟩, ⟨0⟩, ⟨0⟩, none⟩,
    .pay ⟨9⟩ ⟨1⟩, .release ⟨1⟩ 2 ⟨1⟩ .cancelled ].map
      (·, .unused (fun _ => ⟨0⟩) fun _ => ⟨0⟩)

/-- The payment and the release take turns. -/
def paymentSchedule : List Nat :=
  List.replicate 4 0 ++ List.replicate 14 1 ++ (List.replicate 8 [2, 3]).flatten ++
    List.replicate 5 2

/-- The release is overtaken: the order is paid, and its reservation is confirmed. -/
theorem backed_run_payment :
    ∃ order r,
      ((opening (Table.empty.insert ⟨1⟩ tea) paymentCalls).run paymentSchedule).store.committed.order?
          ⟨1⟩ = some order ∧
        order.status = .paid ∧
        ((opening (Table.empty.insert ⟨1⟩ tea) paymentCalls).run
          paymentSchedule).store.committed.reservation? ⟨1⟩ ⟨1⟩ = some r ∧
        r.quantity = 2 ∧ r.status = .confirmed := by
  obtain ⟨-, hheld⟩ := @backed_run paymentCalls (Table.empty.insert ⟨1⟩ tea)
    (by simp [paymentCalls, ServiceCall.Fits]; decide) paymentSchedule (by decide) ⟨1⟩ _ rfl
  obtain ⟨r, hr, hq, hconfirmed, -⟩ := hheld _ List.mem_cons_self
  exact ⟨_, r, rfl, rfl, hr, hq, hconfirmed (.inl rfl)⟩

end Crowd

end Stockroom
