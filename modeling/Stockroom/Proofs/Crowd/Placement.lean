import Stockroom.Proofs.Crowd.Traceless

/-!
# Proofs/Crowd/Placement — what the creation of an order leaves behind

An order is written together with a reservation and an entry for each of its lines.  A `Booking` is one
of these lines with what was made for it, and `Tables.Places` is the whole difference that a placed
order makes.  **The writes that wait when an order is committed make exactly this difference**
(`Transaction.Placed.places`), and whatever attempts were lost before have left nothing.
-/

namespace Stockroom

open Call Exchange Store Transaction

/-! ## Bookings -/

/-- A line of an order, the time at which it was reserved, and what was made for it. -/
structure Booking where
  line : OrderLine
  time : Instant
  reservation : Reservation
  entry : Entry

/-- **What is made for a line**: an active reservation for all of its quantity, which lasts for a span from
the time at which it is made, and an entry that tells so. -/
structure Booking.IsFor (ttl : Span) (id : OrderId) (b : Booking) : Prop where
  reservation : ∃ expiresAt, b.time.after? ttl = some expiresAt ∧
    b.reservation = ⟨b.line.product, id, b.line.quantity, .active, expiresAt, b.time, b.time⟩
  kind : b.entry.kind = .reserve
  product : b.entry.product = b.line.product
  order : b.entry.order = some id
  change : b.entry.change = b.line.quantity
  createdAt : b.entry.createdAt = b.time

namespace Store.Tables

variable {t t' t'' : Tables}

/-- **Bookings that were added**: their reservations are new, their entries come last, and nothing else is
different in the reservations and the ledger. -/
structure Books (bookings : List Booking) (t t' : Tables) : Prop where
  orders : t'.orders = t.orders
  entries : t'.entries = t.entries ++ bookings.map Booking.entry
  new : ∀ b ∈ bookings, t.reservations.get? b.reservation.key = none
  made : ∀ b ∈ bookings, t'.reservations.get? b.reservation.key = some b.reservation
  kept : ∀ key, (∀ b ∈ bookings, b.reservation.key ≠ key) →
    t'.reservations.get? key = t.reservations.get? key

theorem Books.nil (t : Tables) : Books [] t t :=
  ⟨rfl, (List.append_nil _).symm, List.forall_mem_nil _, List.forall_mem_nil _, fun _ _ => rfl⟩

/-- One more booking, before the others. -/
theorem Books.cons {b : Booking} {bookings : List Booking} (h : Books bookings t' t'')
    (horders : t'.orders = t.orders) (hentries : t'.entries = t.entries ++ [b.entry])
    (hnew : t.reservations.get? b.reservation.key = none)
    (hmade : t'.reservations = t.reservations.insert b.reservation.key b.reservation) :
    Books (b :: bookings) t t'' := by
  have hget (key : ReservationKey) : t'.reservations.get? key =
      if key = b.reservation.key then some b.reservation else t.reservations.get? key := by
    rw [hmade, Table.get?_insert]
  -- A later booking is new where this one is there already, so it is for another key.
  have hother (b' : Booking) (hb' : b' ∈ bookings) : b'.reservation.key ≠ b.reservation.key := by
    intro heq
    have hfree := h.new b' hb'
    rw [hget, if_pos heq] at hfree
    cases hfree
  refine ⟨h.orders.trans horders, ?_, ?_, ?_, fun key hkey => ?_⟩
  · rw [h.entries, hentries, List.append_assoc, List.singleton_append, List.map_cons]
  · refine List.forall_mem_cons.mpr ⟨hnew, fun b' hb' => ?_⟩
    rw [← h.new b' hb', hget, if_neg (hother b' hb')]
  · refine List.forall_mem_cons.mpr ⟨?_, h.made⟩
    rw [h.kept _ fun b' hb' => hother b' hb', hget, if_pos rfl]
  · obtain ⟨hfirst, hrest⟩ := List.forall_mem_cons.mp hkey
    rw [h.kept key hrest, hget, if_neg hfirst.symm]

/-- **The difference that a placed order makes**: the order is new and pending, and its bookings were
added. -/
structure Places (ttl : Span) (order : Order) (bookings : List Booking) (t t' : Tables) : Prop where
  new : t.order? order.id = none
  pending : order.status = .pending
  orders : t'.orders = t.orders.insert order.id order
  lines : bookings.map Booking.line = order.items.map OrderItem.line
  booked : ∀ b ∈ bookings, b.IsFor ttl order.id
  entries : t'.entries = t.entries ++ bookings.map Booking.entry
  reservationsNew : ∀ b ∈ bookings, t.reservations.get? b.reservation.key = none
  reservations : ∀ b ∈ bookings, t'.reservations.get? b.reservation.key = some b.reservation
  reservationsKept : ∀ key, (∀ b ∈ bookings, b.reservation.key ≠ key) →
    t'.reservations.get? key = t.reservations.get? key

end Store.Tables

/-! ## Writes -/

namespace Transaction

variable {product : ProductId} {quantity : Int} {id : OrderId} {ttl : Span} {t t' : Tables}

/-- **The writes of one reservation** make one booking, if the record that was found is that of the
product. -/
theorem Reserved.books {chapter : Talk} (h : Reserved product quantity id ttl chapter)
    (hfound : ∀ record, answered (.findStock product) (some record) ∈ chapter →
      record.product = product) :
    ∃ writes time, (∀ ws, chapter.foldl Exchange.stage (some ws) = some (ws ++ writes)) ∧
      chapter.readings = [time] ∧
      ∀ t t', Write.applyAll writes t = .ok t' → ∃ b : Booking, b.line = ⟨product, quantity⟩ ∧
        b.time = time ∧ b.IsFor ttl id ∧ t'.orders = t.orders ∧
        t'.entries = t.entries ++ [b.entry] ∧ t.reservations.get? b.reservation.key = none ∧
        t'.reservations = t.reservations.insert b.reservation.key b.reservation := by
  obtain @⟨now, expiresAt, current, next, record, hnext, hexpires⟩ := h
  have hcurrent : current.product = product := hfound current (by simp [reserving])
  have hproduct : next.product = current.product :=
    Movement.next_product (m := .reserve product quantity id now now) hnext
  refine ⟨[.replaceStock next current.version,
    .insertReservation (.start product id quantity expiresAt now),
    .appendEntry (((Entry.ofRecords .reserve quantity current next now).forOrder id).because
      "Stock reserved for order")], now, fun ws => ?_, rfl, fun t t' happly => ?_⟩
  · simp [reserving, answered, Exchange.stage, UnitRequest.granted]
  obtain ⟨t₁, hreplace, happly⟩ := Write.applyAll_cons_iff.mp happly
  obtain ⟨t₂, hinsert, happly⟩ := Write.applyAll_cons_iff.mp happly
  obtain ⟨t₃, happend, happly⟩ := Write.applyAll_cons_iff.mp happly
  obtain rfl := Write.applyAll_nil_iff.mp happly
  obtain ⟨live, -, -, rfl⟩ := Write.apply_replaceStock_iff.mp hreplace
  obtain ⟨hfree, rfl⟩ := Write.apply_insertReservation_iff.mp hinsert
  obtain rfl := Write.apply_appendEntry_iff.mp happend
  exact ⟨⟨⟨product, quantity⟩, now, _, _⟩, rfl, rfl,
    ⟨⟨expiresAt, hexpires, rfl⟩, rfl, hproduct.trans hcurrent, rfl, rfl, rfl⟩, rfl, rfl, hfree, rfl⟩

/-- **The writes of one reservation after the other** make one booking for each item. -/
theorem books_of_reserved {items : List OrderItem} {chapters : List Talk}
    (h : List.Forall₂ (fun item chapter => Reserved item.product item.quantity id ttl chapter) items
      chapters)
    (hfound : ∀ product record, answered (.findStock product) (some record) ∈ chapters.flatten →
      record.product = product) :
    ∃ writes times,
      (∀ ws, chapters.flatten.foldl Exchange.stage (some ws) = some (ws ++ writes)) ∧
      Talk.readings chapters.flatten = times ∧ times.length = items.length ∧
      ∀ t t', Write.applyAll writes t = .ok t' → ∃ bookings : List Booking,
        bookings.map Booking.line = items.map OrderItem.line ∧ bookings.map Booking.time = times ∧
        (∀ b ∈ bookings, b.IsFor ttl id) ∧ t.Books bookings t' := by
  induction h with
  | nil =>
    refine ⟨[], [], fun ws => by simp, rfl, rfl, fun t t' happly => ?_⟩
    obtain rfl := Write.applyAll_nil_iff.mp happly
    exact ⟨[], rfl, rfl, List.forall_mem_nil _, .nil _⟩
  | @cons item chapter items chapters hchapter _ ih =>
    obtain ⟨writes, time, hstage, htime, hbooks⟩ :=
      hchapter.books fun record hmem => hfound _ record (by simp [hmem])
    obtain ⟨more, times, hstages, htimes, hlength, hmore⟩ :=
      ih fun product record hmem => hfound product record (List.mem_append_right _ hmem)
    refine ⟨writes ++ more, time :: times, fun ws => ?_, ?_, congrArg Nat.succ hlength,
      fun t t' happly => ?_⟩
    · rw [List.flatten_cons, List.foldl_append, hstage, hstages, List.append_assoc]
    · rw [List.flatten_cons, Talk.readings_append, htime, htimes, List.singleton_append]
    · obtain ⟨t₁, hfirst, hrest⟩ := Write.applyAll_append_iff.mp happly
      obtain ⟨b, hline, hb, hfor, horders, hentries, hnew, hmade⟩ := hbooks t t₁ hfirst
      obtain ⟨bookings, hlines, htimes, hfors, hbookings⟩ := hmore t₁ t' hrest
      exact ⟨b :: bookings, congrArg₂ List.cons hline hlines, congrArg₂ List.cons hb htimes,
        List.forall_mem_cons.mpr ⟨hfor, hfors⟩, hbookings.cons horders hentries hnew hmade⟩

/-- **The writes of an order that is placed** make the difference that they should. -/
theorem Placed.places {draft : Draft} {order : Order} {body : Talk}
    (h : Placed ttl draft order body) (hid : order = draft.toOrder order.id)
    (hfound : ∀ product record, answered (.findStock product) (some record) ∈ body →
      record.product = product) :
    ∃ writes times, body.foldl Exchange.stage (some []) = some (.insertOrder order :: writes) ∧
      body.readings = times ∧ times.length = order.items.length ∧
      ∀ t t', t.order? order.id = none → Write.applyAll (.insertOrder order :: writes) t = .ok t' →
        ∃ bookings, bookings.map Booking.time = times ∧ t.Places ttl order bookings t' := by
  obtain ⟨chapters, rfl, hchapters⟩ := h
  obtain ⟨writes, times, hstages, htimes, hlength, hbooks⟩ := books_of_reserved hchapters
    fun product record hmem => hfound product record (List.mem_cons_of_mem _ hmem)
  refine ⟨writes, times, hstages [.insertOrder order], htimes, hlength, fun t t' hfresh happly => ?_⟩
  obtain ⟨t₁, hinsert, hrest⟩ := Write.applyAll_cons_iff.mp happly
  obtain rfl := Write.apply_insertOrder_iff.mp hinsert
  obtain ⟨bookings, hlines, htimes, hfors, hbookings⟩ := hbooks _ t' hrest
  refine ⟨bookings, htimes, hfresh, ?_, hbookings.orders, hlines, hfors, hbookings.entries,
    hbookings.new, hbookings.made, hbookings.kept⟩
  rw [hid]
  rfl

end Transaction

/-! ## What a caller is told -/

namespace Crowd

variable {w : Crowd} {i : Nat} {schedule : List Nat} {x : Exchange}

/-- Whatever is said in a run is answered at the desk of its caller. -/
theorem answer_of_saying (h : w.saying i = [x]) :
    ∃ c, w.callers[i]? = some c ∧ x.answer = (c.desk.answer w.store x.request).1 := by
  cases hi : w.callers[i]? with
  | none =>
    rw [saying, hi] at h
    cases h
  | some c =>
    rw [saying_of_getElem? hi] at h
    rcases c.saying_cases w.store with ⟨hnothing, -⟩ | ⟨request, next, hrest⟩
    · rw [hnothing] at h
      cases h
    · rw [Caller.saying_of_ask hrest] at h
      cases h
      exact ⟨c, rfl, rfl⟩

theorem answer_of_mem_talk (h : x ∈ w.talk i schedule) : ∃ first rest c, schedule = first ++ i :: rest ∧
    (w.run first).callers[i]? = some c ∧
      x.answer = (c.desk.answer (w.run first).store x.request).1 := by
  obtain ⟨before, after, htalk⟩ := List.append_of_mem h
  obtain ⟨first, rest, hsplit, -, hsaying, -⟩ := split_talk htalk
  obtain ⟨c, hc, hanswer⟩ := answer_of_saying hsaying
  exact ⟨first, rest, c, hsplit, hc, hanswer⟩

/-- **A new order** is the draft under a number of the store. -/
theorem order_of_answered {draft : Draft} {order : Order}
    (h : answered (.insertOrder draft) order ∈ w.talk i schedule) :
    order = draft.toOrder order.id := by
  obtain ⟨first, rest, c, -, -, hanswer⟩ := answer_of_mem_talk h
  obtain ⟨_, -, rfl⟩ := map_eq_ok_iff.mp (show _ <$> _ = Except.ok order from hanswer.symm)
  rfl

variable {catalogue : Table ProductId Product} {calls : List (ServiceCall × Tape)}

/-- **A record that is found** in a run is that of the product. -/
theorem product_of_answered {product : ProductId} {record : StockRecord}
    (h : answered (.findStock product) (some record) ∈ (opening catalogue calls).talk i schedule) :
    record.product = product := by
  obtain ⟨first, rest, c, -, hc, hanswer⟩ := answer_of_mem_talk h
  have hfind : (Session.find ⟨_, c.desk.unit⟩ (·.liveStock? product)).1 = .ok (some record) :=
    hanswer.symm
  cases hunit : c.desk.unit with
  | none =>
    rw [hunit] at hfind
    cases hfind
  | some u =>
    rw [hunit] at hfind
    have hkeeps := ((watched_opening catalogue calls product first).holds i c hc u hunit).keeps
    exact hkeeps.live (Except.ok.inj hfind)

/-! ## Placing an order -/

variable {stock : StockSettings} {settings : OrderSettings} {request : OrderService.OrderRequest}
  {lines : List OrderLine} {tape : Tape} {order : Order}

/-- **What is said by a call that places an order**: all of it is quiet but the commit of the attempt that
succeeds. -/
theorem talk_of_placed (hmerge : OrderLine.merge request.lines = .ok lines) {talk : Talk}
    (hends : (OrderService.create stock settings request).Ends talk (some (.ok order))) :
    ∃ before draft now body after,
      talk = before ++ begun (.ok ()) :: body ++ .committed (.ok ()) :: after ∧
      Talk.Quiet (before ++ begun (.ok ()) :: body) ∧ (∀ x ∈ after, x.IsRecord) ∧
      now ∈ Talk.readings before ∧ draft.Answers request lines now ∧
      Placed stock.reservationTtl draft order body := by
  obtain ⟨correlation, attempts, talk, rfl, htried⟩ := OrderService.tried_of_create hmerge hends
  obtain ⟨front, said, after, rfl, hfront, hsaid, hrecords⟩ := htried.successful
    (fun _ _ hends => (disciplined_place hends).effective) rfl
  generalize houtcome : some (Except.ok order) = outcome at hsaid
  cases disciplined_place hsaid with
  | @committed _ _ after' _ opened h records =>
    cases houtcome
    obtain ⟨before, body, draft, now, heq, htime, hanswers, hplaced⟩ := h
    have hquiet := opened.quiet
    rw [heq] at hquiet ⊢
    refine ⟨⟨.freshId, correlation⟩ :: front ++ before, draft, now, body, after' ++ after, ?_, ?_,
      List.forall_mem_append.mpr ⟨records, hrecords⟩, ?_, hanswers, hplaced⟩
    · simp
    · rw [List.append_assoc]
      exact (Talk.Quiet.cons rfl hfront).append hquiet
    · rw [Talk.readings_append]
      exact List.mem_append_right _ (Talk.mem_readings_of_time? htime)
  | _ => cases houtcome

/-- **The step that places an order.**  Whatever takes effect in a call that is going to return an order is
the commit of that order, and the call has read the clock for its draft before. -/
theorem placed_of_ends (hmerge : OrderLine.merge request.lines = .ok lines)
    (hcall : calls[i]? = some (.create stock settings request, tape)) {first : List Nat} {more : Talk}
    (hsaying : ((opening catalogue calls).run first).saying i = [x]) (hx : x.takesEffect)
    (hends : (OrderService.create stock settings request).Ends
      ((opening catalogue calls).talk i first ++ x :: more) (some (.ok order))) :
    ∃ (before body : Talk) (draft : Draft) (now : Instant) (bookings : List Booking),
      x = .committed (.ok ()) ∧ (∀ y ∈ more, y.IsRecord) ∧
      (opening catalogue calls).talk i first = before ++ begun (.ok ()) :: body ∧
      Talk.Quiet ((opening catalogue calls).talk i first) ∧ now ∈ before.readings ∧
      draft.Answers request lines now ∧ order = draft.toOrder order.id ∧
      bookings.map Booking.time = body.readings ∧
      ((opening catalogue calls).run first).store.committed.Places stock.reservationTtl order bookings
        (((opening catalogue calls).run first).step i).store.committed := by
  obtain ⟨before, draft, now, body, after, htalk, hquiet, hrecords, hnow, hanswers, hplaced⟩ :=
    talk_of_placed hmerge hends
  obtain ⟨hfirst, rfl, rfl⟩ := Talk.split_unique hquiet hx (Talk.quiet_of_records hrecords) htalk
  rw [← hfirst] at hquiet
  have hmem {y : Exchange} (hy : y ∈ body) : y ∈ (opening catalogue calls).talk i first := by
    rw [hfirst]
    simp [hy]
  have horder : order = draft.toOrder order.id := by
    refine order_of_answered (hmem ?_)
    obtain ⟨chapters, rfl, -⟩ := hplaced
    exact List.mem_cons_self
  obtain ⟨writes, times, hstaged, htimes, -, hplaces⟩ := hplaced.places horder
    fun product record hrecord => product_of_answered (hmem hrecord)
  obtain ⟨midway, desk, hmidway, -, hfollows⟩ := says_talk (fresh_of_opening hcall) first
  -- The writes that wait before the commit are those of the order.
  have hwaiting : desk.staged = some (.insertOrder order :: writes) := by
    rw [hfollows.staged, hfirst, List.foldl_append, List.foldl_cons]
    exact hstaged
  obtain ⟨u, hu, hpending⟩ := Option.map_eq_some_iff.mp hwaiting
  have hnew := (((counted_opening catalogue calls).run first).drawn i _ order hmidway (by
    rw [Desk.pending, hu, Option.elim_some, hpending]
    exact List.mem_cons_self)).2
  rcases effect_step hmidway with ⟨y, hy, -, heffect⟩ | ⟨hnothing, -⟩
  · cases hsaying.symm.trans hy
    obtain ⟨_, hwrites, happly⟩ := heffect
    cases hwaiting.symm.trans hwrites
    obtain ⟨bookings, hbooked, hplace⟩ := hplaces _ _ hnew happly
    exact ⟨before, body, draft, now, bookings, rfl, hrecords, hfirst, hquiet, hnow, hanswers, horder,
      hbooked.trans htimes.symm, hplace⟩
  · rw [hsaying] at hnothing
    cases hnothing _ (List.mem_singleton_self _)

theorem readings_of_records {talk : Talk} (h : ∀ x ∈ talk, x.IsRecord) : talk.readings = [] := by
  refine List.filterMap_eq_nil_iff.mpr fun x hx => ?_
  obtain ⟨request, answer⟩ := x
  obtain ⟨record, rfl⟩ := h _ hx
  rfl

/-- **What a call that has placed an order did in a run**: one step made the whole difference, and each line
was reserved at its own reading of the clock, the last ones of the call. -/
theorem placed_of_returned (hmerge : OrderLine.merge request.lines = .ok lines)
    (hcall : calls[i]? = some (.create stock settings request, tape)) {desk : Desk}
    (hc : ((opening catalogue calls).run schedule).callers[i]? =
      some ⟨.create stock settings request, .done (.ok order), desk⟩) :
    ∃ first rest bookings n, schedule = first ++ i :: rest ∧
      ((opening catalogue calls).run first).store.committed.Places stock.reservationTtl order bookings
        (((opening catalogue calls).run first).step i).store.committed ∧
      bookings.map Booking.line = lines ∧
      desk.tape.readings = tape.readings + n + lines.length ∧
      bookings.map Booking.time =
        (List.range lines.length).map (fun k => tape.clock (tape.readings + n + k)) ∧
      ∀ first' rest', schedule = first' ++ i :: rest' → first' ≠ first →
        (((opening catalogue calls).run first').step i).store.committed =
          ((opening catalogue calls).run first').store.committed := by
  obtain ⟨said, x, after, htalk, -, hx, hafter⟩ :=
    split_of_hasReturned (fresh_of_opening hcall) trivial hc rfl
  obtain ⟨left, desk', hrun, hsays, hfollows⟩ := says_talk (fresh_of_opening hcall) schedule
  cases hrun.symm.trans hc
  obtain ⟨first, rest, hsplit, rfl, hsaying, rfl⟩ := split_talk htalk
  rw [htalk] at hsays hfollows
  obtain ⟨before, body, draft, now, bookings, rfl, hrecords, hfirst, hquiet, -, hanswers, horder, hbooked,
    hplace⟩ := placed_of_ends hmerge hcall hsaying hx hsays
  have hlines : bookings.map Booking.line = lines := by
    rw [hplace.lines, horder]
    exact hanswers.lines
  have hcount : (Talk.readings body).length = lines.length := by
    rw [← hbooked, List.length_map, ← hlines, List.length_map]
  have hreadings : Talk.readings ((opening catalogue calls).talk i first ++ .committed (.ok ()) ::
      (((opening catalogue calls).run (first ++ [i])).talk i rest)) =
        Talk.readings before ++ Talk.readings body := by
    have hcommit (talk : Talk) : Talk.readings (.committed (.ok ()) :: talk) = talk.readings := rfl
    have hbegin : Talk.readings (begun (.ok ()) :: body) = Talk.readings body := rfl
    rw [Talk.readings_append, hfirst, Talk.readings_append, hcommit, hbegin,
      readings_of_records hrecords, List.append_nil]
  obtain ⟨hused, hlast⟩ := hfollows.last hreadings
  rw [hcount] at hused hlast
  exact ⟨first, rest, bookings, (Talk.readings before).length, hsplit, hplace, hlines, hused,
    hbooked.trans hlast, fun first' rest' hsplit' =>
      committed_elsewhere hquiet hafter (hsplit.symm.trans hsplit')⟩

/-- **Creating an order is trying again until it is placed or cannot be**, whoever answers.  Among other
callers of one store it follows the same protocol; a value means that one step has placed the order, and an
error that no step has changed anything. -/
theorem creation_run (hmerge : OrderLine.merge request.lines = .ok lines) :
    (∀ surroundings, OrderService.TriesAgain stock settings request lines
      ((OrderService.create stock settings request).run.converse surroundings []).1
      ((OrderService.create stock settings request).run.converse surroundings []).2) ∧
    ∀ catalogue calls i tape schedule, calls[i]? = some (.create stock settings request, tape) →
      (∀ result desk, ((opening catalogue calls).run schedule).callers[i]? =
          some ⟨.create stock settings request, .done result, desk⟩ →
        OrderService.TriesAgain stock settings request lines
          ((opening catalogue calls).talk i schedule) (some result)) ∧
      (∀ order desk, ((opening catalogue calls).run schedule).callers[i]? =
          some ⟨.create stock settings request, .done (.ok order), desk⟩ →
        ∃ first rest bookings n, schedule = first ++ i :: rest ∧
          ((opening catalogue calls).run first).store.committed.Places stock.reservationTtl order
            bookings (((opening catalogue calls).run first).step i).store.committed ∧
          bookings.map Booking.line = lines ∧
          desk.tape.readings = tape.readings + n + lines.length ∧
          bookings.map Booking.time =
            (List.range lines.length).map (fun k => tape.clock (tape.readings + n + k)) ∧
          ∀ first' rest', schedule = first' ++ i :: rest' → first' ≠ first →
            (((opening catalogue calls).run first').step i).store.committed =
              ((opening catalogue calls).run first').store.committed) ∧
      (∀ error desk, ((opening catalogue calls).run schedule).callers[i]? =
          some ⟨.create stock settings request, .done (.error error), desk⟩ →
        ∀ first rest, schedule = first ++ i :: rest →
          (((opening catalogue calls).run first).step i).store.committed =
            ((opening catalogue calls).run first).store.committed) := by
  refine ⟨fun surroundings => OrderService.triesAgain_of_ends hmerge
    (Program.ends_converse surroundings [] _), fun catalogue calls i tape schedule hcall => ?_⟩
  have hfresh : (opening catalogue calls).callers[i]? = _ := fresh_of_opening hcall
  refine ⟨fun result desk hc => ?_, fun order desk hc => placed_of_returned hmerge hcall hc,
    fun error desk hc first rest hsplit => ?_⟩
  · obtain ⟨left, desk', hrun, hsays, -⟩ := says_talk hfresh schedule
    cases hrun.symm.trans hc
    exact OrderService.triesAgain_of_ends hmerge hsays
  · have hquiet := quiet_of_hasFailed hfresh trivial hc rfl
    rw [hsplit] at hquiet
    exact committed_of_quiet_talk hquiet

/-- Two cups of tea for a user. -/
def teaFor (user : UserId) : OrderService.OrderRequest :=
  ⟨user, [⟨⟨1⟩, 2⟩], ⟨"Ada", "1", "Here", none⟩, ⟨0⟩, ⟨0⟩, none⟩

/-- Tea is registered, and then ordered by two users. -/
def teaCalls : List (ServiceCall × Tape) :=
  [ .register ⟨1⟩ 5 1, .create .standard .standard (teaFor ⟨8⟩),
    .create .standard .standard (teaFor ⟨9⟩) ].map (·, .unused (fun _ => ⟨0⟩) fun _ => ⟨0⟩)

/-- The two orders take turns, and the second one loses the race for the tea. -/
def teaSchedule : List Nat :=
  List.replicate 4 0 ++ (List.replicate 14 [1, 2]).flatten ++ List.replicate 14 2

/-- **The order that lost a race is placed in the next attempt.** -/
theorem creation_run_tea : OrderLine.merge (teaFor ⟨9⟩).lines = .ok [⟨⟨1⟩, 2⟩] ∧
    ∃ order desk, ((opening (Table.empty.insert ⟨1⟩ tea) teaCalls).run teaSchedule).callers[2]? =
        some ⟨.create .standard .standard (teaFor ⟨9⟩), .done (.ok order), desk⟩ ∧
      OrderService.TriesAgain .standard .standard (teaFor ⟨9⟩) [⟨⟨1⟩, 2⟩]
        ((opening (Table.empty.insert ⟨1⟩ tea) teaCalls).talk 2 teaSchedule) (some (.ok order)) ∧
      ∃ first rest bookings, teaSchedule = first ++ 2 :: rest ∧
        ((opening (Table.empty.insert ⟨1⟩ tea) teaCalls).run first).store.committed.Places
          StockSettings.standard.reservationTtl order bookings
          (((opening (Table.empty.insert ⟨1⟩ tea) teaCalls).run first).step 2).store.committed ∧
        bookings.map Booking.line = [⟨⟨1⟩, 2⟩] ∧ bookings.map Booking.time = [⟨0⟩] := by
  have hmerge : OrderLine.merge (teaFor ⟨9⟩).lines = .ok [⟨⟨1⟩, 2⟩] := rfl
  have hrun : ∃ order desk,
      ((opening (Table.empty.insert ⟨1⟩ tea) teaCalls).run teaSchedule).callers[2]? =
        some ⟨.create .standard .standard (teaFor ⟨9⟩), .done (.ok order), desk⟩ := ⟨_, _, rfl⟩
  obtain ⟨order, desk, hc⟩ := hrun
  obtain ⟨htries, hplaced, -⟩ :=
    (@creation_run .standard .standard (teaFor ⟨9⟩) [⟨⟨1⟩, 2⟩] hmerge).2
      (Table.empty.insert ⟨1⟩ tea) teaCalls 2 _ teaSchedule rfl
  obtain ⟨first, rest, bookings, n, hsplit, hplaces, hlines, -, htimes, -⟩ := hplaced order desk hc
  exact ⟨hmerge, order, desk, hc, htries _ desk hc, first, rest, bookings, hsplit, hplaces, hlines,
    htimes⟩

end Crowd

end Stockroom
