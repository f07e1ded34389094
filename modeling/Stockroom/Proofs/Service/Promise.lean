import Stockroom.Proofs.Service.Orders

/-!
# Proofs/Service/Promise — every call keeps its promise

**`ServiceCall.assured` is the theorem about single calls from which everything about crowds follows**:
whatever the others do in the meantime, every request of a call leaves the store alone or is a
`Change` of that call.  A guarded call moreover succeeds by one commit, and `ServiceCall.Drafts` says
what was planned for it.
-/

namespace Stockroom

open Store Call

variable {A : ServiceCall → Prop} {call : ServiceCall} {s : Store} {d : Desk}
  {tape tape' : Tape} {writes : List Write}

namespace ServiceCall

/-- The calls whose writes are all guarded by a version or a status. -/
def IsGuarded : ServiceCall → Prop
  | reserve .. | release .. | deduct .. | adjust .. | pay .. | ship _ | complete _ | cancel .. => True
  | _ => False

/-- The order that moves alone. -/
def DraftsMove (A : ServiceCall → Prop) (tape : Tape) (id : OrderId) (move : OrderMove)
    (moved : Order) (writes : List Write) (tape' : Tape) (s : Store) : Prop :=
  tape' = tape.read ∧ ∃ order, writes = [.replaceOrder moved order.status] ∧
    (Was A s fun t => t.order? id = some order) ∧ move.apply order tape.time = .ok moved

/-- **What a call has planned when it is about to commit** with a value, for the calls that work in one
unit of work. -/
def Drafts (A : ServiceCall → Prop) (tape : Tape) :
    (call : ServiceCall) → call.Result → List Write → Tape → Store → Prop
  | reserve settings product quantity order ttl, next, writes, tape', s =>
    tape' = tape.read ∧ ∃ expiresAt,
      tape.time.after? (ttl.getD settings.reservationTtl) = some expiresAt ∧
        (Movement.reserve product quantity order expiresAt tape.time).Planned A s next writes
  | release product quantity order target, next, writes, tape', s =>
    tape' = tape.read ∧
      (Movement.release product quantity order target tape.time).Planned A s next writes
  | deduct product quantity order, next, writes, tape', s =>
    tape' = tape.read ∧ (Movement.deduct product quantity order tape.time).Planned A s next writes
  | restock product quantity reason operator, after, writes, tape', s =>
    tape' = tape.read ∧
      (Movement.restock product quantity reason operator tape.time).Planned A s after writes
  | adjust product delta reason operator, next, writes, tape', s =>
    tape' = tape.read ∧
      (Movement.adjust product delta reason operator tape.time).Planned A s next writes
  | pay user id, paid, writes, tape', s => ∃ order planned,
    OrderService.MovePlan (ItemPlan.deduct A) user id .pay tape paid writes tape' s order planned
  | ship id, shipped, writes, tape', s => DraftsMove A tape id .ship shipped writes tape' s
  | complete id, completed, writes, tape', s => DraftsMove A tape id .complete completed writes tape' s
  | cancel user id, cancelled, writes, tape', s => ∃ order planned,
    OrderService.MovePlan (ItemPlan.release A) user id .cancel tape cancelled writes tape' s order
      planned
  | _, _, _, _, _ => False

end ServiceCall

/-! ## Plans that take effect -/

variable {t t' : Tables} {id : OrderId} {user : UserId}

/-- An item plan that takes effect does to the tables what `X` says, by edits. -/
def ItemPlan.TakesEffect (P : ItemPlan A id) (X : OrderItem → Tables → Tables → Prop) : Prop :=
  ∀ {s item tape writes tape' t t'}, Reachable A s → P.plans s item tape writes tape' →
    Edits (Tunable A) s.committed t → t.entries.length + writes.length < 2 ^ 63 →
    Write.applyAll writes t = .ok t' → X item t t' ∧ Edits (Tunable A) t t'

/-- A planned movement that takes effect is an edit. -/
theorem Movement.Planned.edit {m : Movement} {next : StockRecord}
    (h : m.Planned A s next writes) (hs : Reachable A s) (he : Edits (Tunable A) s.committed t)
    (hroom : t.entries.length + writes.length < 2 ^ 63)
    (happly : Write.applyAll writes t = .ok t') : m.Posts t t' ∧ Edits (Tunable A) t t' := by
  have hlength : 0 < writes.length := by
    cases h with
    | guarded => exact Nat.succ_pos _
    | restock => exact Nat.succ_pos _
  have hposts := h.posts he (hs.wellKept.edits he) (by omega) happly
  exact ⟨hposts, .single (.movement hposts)⟩

theorem ItemPlan.reserve_takesEffect {ttl : Span} :
    (ItemPlan.reserve A ttl id).TakesEffect (Reserves ttl id) := by
  rintro s item tape writes tape' t t' hs ⟨-, next, expiresAt, hexpires, h⟩ he hroom happly
  obtain ⟨hposts, hedits⟩ := h.edit hs he hroom happly
  exact ⟨⟨expiresAt, tape.time, hexpires, hposts⟩, hedits⟩

theorem ItemPlan.deduct_takesEffect : (ItemPlan.deduct A id).TakesEffect (Deducts id) := by
  rintro s item tape writes tape' t t' hs ⟨-, next, h⟩ he hroom happly
  obtain ⟨hposts, hedits⟩ := h.edit hs he hroom happly
  exact ⟨⟨tape.time, hposts⟩, hedits⟩

/-- A reservation that was seen to have expired is still the same. -/
theorem ItemPlan.release_takesEffect : (ItemPlan.release A id).TakesEffect (Releases id) := by
  rintro s item tape writes tape' t t' hs (⟨-, rfl, hexpired⟩ | ⟨-, next, h⟩) he hroom happly
  · obtain rfl := Write.applyAll_nil_iff.mp happly
    obtain ⟨t₀, ⟨r, hr, hstatus⟩, -, hp⟩ := hexpired.before he
    obtain ⟨r', hr', hprec⟩ := hp.reservations _ _ hr
    obtain rfl := hprec.settled (by rw [hstatus]; exact nofun)
    exact ⟨.inl ⟨r', hr', hstatus, rfl⟩, .refl⟩
  · obtain ⟨hposts, hedits⟩ := h.edit hs he hroom happly
    exact ⟨.inr ⟨tape.time, hposts⟩, hedits⟩

/-- **An order that moved together with its items** was still in the status in which it was seen. -/
theorem OrderService.MovePlan.each {P : (id : OrderId) → ItemPlan A id} {move : OrderMove}
    {moved order : Order} {planned : List Write}
    {X : OrderItem → Tables → Tables → Prop} (hX : (P id).TakesEffect X)
    (hXorders : ∀ {items t t'}, Each X items t t' → t'.orders = t.orders)
    (h : MovePlan P user id move tape moved writes tape' s order planned) (hs : Reachable A s)
    (hadmits : s.Admits writes) (happly : Write.applyAll writes s.committed = .ok t) :
    s.committed.order? id = some order ∧
      ∃ t', Each X order.items s.committed t' ∧ t = t'.putOrder moved := by
  obtain ⟨hseen, -, hmoved, hworks, rfl⟩ := h
  obtain ⟨t', hitems, hsave⟩ := Write.applyAll_append_iff.mp happly
  obtain ⟨t'', hsave, hnil⟩ := Write.applyAll_cons_iff.mp hsave
  obtain rfl := Write.applyAll_nil_iff.mp hnil
  obtain ⟨o, ho, hstatus, rfl⟩ := Write.apply_replaceOrder_iff.mp hsave
  have hroom := hadmits.room
  rw [List.length_append] at hroom
  obtain ⟨heach, -⟩ := hworks.each (X := X)
    (fun _ _ _ _ _ _ hplan he hroom happly => hX hs hplan he hroom happly) .refl
    (by omega) hitems
  have hid : moved.id = id := by
    obtain ⟨s₀, hs₀, -, horder⟩ := hseen
    exact (OrderMove.apply_precedes hmoved).id.trans (hs₀.wellKept.orderKey _ _ horder)
  rw [Tables.order?, hXorders heach, hid] at ho
  obtain rfl := hseen.order .refl ho hstatus
  exact ⟨ho, t', heach, rfl⟩

namespace ServiceCall

/-- An order that moved alone was still in the status in which it was seen. -/
theorem DraftsMove.saved {move : OrderMove} {moved : Order}
    (h : DraftsMove A tape id move moved writes tape' s)
    (happly : Write.applyAll writes s.committed = .ok t) :
    ∃ order, s.committed.order? id = some order ∧ move.apply order tape.time = .ok moved ∧
      t = s.committed.putOrder moved := by
  obtain ⟨-, order, rfl, hseen, hmoved⟩ := h
  obtain ⟨t', hsave, hnil⟩ := Write.applyAll_cons_iff.mp happly
  obtain rfl := Write.applyAll_nil_iff.mp hnil
  obtain ⟨o, ho, hstatus, rfl⟩ := Write.apply_replaceOrder_iff.mp hsave
  have hid : moved.id = id := by
    obtain ⟨s₀, hs₀, -, horder⟩ := hseen
    exact (OrderMove.apply_precedes hmoved).id.trans (hs₀.wellKept.orderKey _ _ horder)
  rw [hid] at ho
  obtain rfl := hseen.order .refl ho hstatus
  exact ⟨o, ho, hmoved, rfl⟩

/-- **A draft that takes effect is a change of its call.** -/
theorem Drafts.change {value : call.Result} (h : call.Drafts A tape value writes tape' s)
    (hs : Reachable A s) (hadmits : s.Admits writes)
    (happly : Write.applyAll writes s.committed = .ok t) : Change call s ⟨t, s.nextOrder⟩ := by
  have hroom := hadmits.room
  cases call with
  | reserve settings product quantity order ttl =>
    obtain ⟨-, expiresAt, hexpires, h⟩ := h
    exact .post (.reserve hexpires) (h.edit hs .refl hroom happly).1
  | release product quantity order target =>
    exact .post .release (h.2.edit hs .refl hroom happly).1
  | deduct product quantity order => exact .post .deduct (h.2.edit hs .refl hroom happly).1
  | restock product quantity reason operator =>
    exact .post .restock (h.2.edit hs .refl hroom happly).1
  | adjust product delta reason operator =>
    exact .post .adjust (h.2.edit hs .refl hroom happly).1
  | pay user id =>
    obtain ⟨order, planned, h⟩ := h
    obtain ⟨horder, t', hitems, rfl⟩ := h.each ItemPlan.deduct_takesEffect
      (fun h => (h.edits_deducts : Edits True _ _ ∧ _).2) hs hadmits happly
    exact .pay horder h.owner h.apply hitems
  | ship id =>
    obtain ⟨order, horder, hmoved, rfl⟩ := DraftsMove.saved h happly
    exact .ship horder hmoved
  | complete id =>
    obtain ⟨order, horder, hmoved, rfl⟩ := DraftsMove.saved h happly
    exact .complete horder hmoved
  | cancel user id =>
    obtain ⟨order, planned, h⟩ := h
    obtain ⟨horder, t', hitems, rfl⟩ := h.each ItemPlan.release_takesEffect
      (fun h => (h.edits_releases : Edits True _ _ ∧ _).2) hs hadmits happly
    exact .cancel horder h.owner h.apply hitems
  | _ => exact h.elim

/-! ## Calls in one unit of work -/

/-- A call that works in one unit of work delivers its draft. -/
theorem delivers (tape : Tape) {component : String} {body : Call call.Result} (hA : A call)
    {commits : List Deed} {start : Tape} (h : d.At A none start commits s)
    (hbody : ∀ d s, d.At A (some []) start commits s →
      body.Assured A call (fun value d s => ∃ writes tape', d.At A (some writes) tape' commits s ∧
        call.Drafts A tape value writes tape' s) d s) :
    (inUnit component body).Assured A call
      (fun value d s => d.Delivers A commits (call.Drafts A tape value) s) d s :=
  .inUnit hA h hbody fun _ _ _ _ _ hs hadmits hdrafts happly =>
    Drafts.change hdrafts hs hadmits happly

/-! ## Calls without a unit of work -/

section Unguarded

variable {product : ProductId} {threshold : Int}

theorem register_assured {stock : Int} (hA : A (.register product stock threshold))
    (hfits : Width.int32.Fits stock) :
    (StockService.register product stock threshold).Assured A (.register product stock threshold)
      (fun _ _ _ => True) d s := by
  refine .andThen (.idle fun _ _ => rfl) fun now d s => .obey_bind fun record hrecord => ?_
  refine .andThen (.step fun _ _ _ => .inl rfl) fun found d s => ?_
  have hcreate : Call.Assured A (.register product stock threshold) (fun _ _ _ => True)
      (demand (.createStock record)) d s := .step fun s unit hs => by
    simp only [Session.answer, Session.createStock]
    split
    · exact .inl rfl
    · next hnew =>
      obtain rfl : record.product = product := by
        rw [(StockRecord.register_eq_ok_iff.mp hrecord).2.2]
      refine .inr ⟨hA, .register ?_ hrecord hfits⟩
      simpa [Table.contains] using hnew
  split
  · exact .throw
  · exact hcreate.andThen fun _ d s => .andThen (.idle fun _ _ => rfl) fun _ d s => .done

theorem stockOf_idle : (StockService.stockOf product).Assured A call (fun _ _ _ => True) d s := by
  refine .andThen (.step fun _ _ _ => .inl rfl) fun found d s => ?_
  cases found with
  | none => exact .throw
  | some record => exact .done

theorem setThreshold_assured (hA : A (.setThreshold product threshold)) :
    (StockService.setThreshold product threshold).Assured A (.setThreshold product threshold)
      (fun _ _ _ => True) d s := by
  refine stockOf_idle.andThen fun current d s => .andThen (.idle fun _ _ => rfl) fun now d s =>
    .obey_bind fun updated _ => .andThen (.insist <| (Call.Assured.step fun s unit hs => ?_).mono
      fun _ _ _ _ _ _ => trivial) fun _ d s => .done
  simp only [Session.answer, Session.setThreshold]
  split
  · exact .inl rfl
  · next record hlive =>
    split
    · next tuned htuned => exact .inr ⟨hA, .tune hlive htuned⟩
    · exact .inl rfl

theorem remove_assured (hA : A (.remove product)) :
    (StockService.remove product).Assured A (.remove product) (fun _ _ _ => True) d s := by
  refine .andThen (.idle fun _ _ => rfl) fun now d s => .andThen (.insist <| (Call.Assured.step
    fun s unit hs => ?_).mono fun _ _ _ _ _ _ => trivial) fun _ d s => .idle fun _ _ => rfl
  simp only [Session.answer, Session.removeStock]
  split
  · exact .inl rfl
  · next record hlive => exact .inr ⟨hA, .remove hlive⟩

theorem ownedBy_idle {user : UserId} {order : Option Order} {subject : Subject} :
    (OrderService.ownedBy user order subject).Assured A call (fun _ _ _ => True) d s := by
  unfold OrderService.ownedBy
  split
  · exact .done
  · exact .throw

end Unguarded

/-! ## Calls with several units of work -/

/-- **Expired reservations are released one by one**, each in a unit of work of its own. -/
theorem cleanup_assured {settings : StockSettings} (hA : A (.cleanup settings)) :
    (StockService.cleanup settings).Assured A (.cleanup settings) (fun _ _ _ => True) d s := by
  have hrelease : ∀ (correlation : CorrelationId) (r : Reservation) (d : Desk) (s : Store),
      (StockService.releaseExpired correlation r).Assured A (.cleanup settings)
        (fun _ _ _ => True) d s := by
    intro correlation r d s
    have hbody : (StockService.release r.product r.quantity r.order .expired).Assured A
        (.cleanup settings) (fun _ _ _ => True) d s := by
      refine (Call.Assured.inUnit (R := fun next writes _ s => ∃ now,
        (Movement.release r.product r.quantity r.order .expired now).Planned A s next writes)
        hA (.any d s) (fun d s h => ?_) ?_).forget
      · exact (StockService.releaseIn_plans h List.not_mem_nil List.not_mem_nil).mono
          fun _ _ _ _ ⟨planned, h, hplanned⟩ => ⟨planned, _, h, _, hplanned⟩
      · intro next writes tape' s t hs hadmits ⟨now, hplanned⟩ happly
        exact .post .expire (hplanned.edit hs .refl hadmits.room happly).1
    refine hbody.caught.forget.andThen fun outcome d s => ?_
    cases outcome with
    | ok next => exact .done
    | error error => exact .andThen (.idle fun _ _ => rfl) fun _ d s => .done
  refine .andThen (.idle fun _ _ => rfl) fun correlation d s => .andThen (.idle fun _ _ => rfl)
    fun now d s => .andThen (.step fun _ _ _ => .inl rfl) fun expired d s =>
      .andThen (Call.Assured.mapM (P := fun _ _ => True) fun r d s =>
        hrelease correlation r d s).forget fun outcomes d s => ?_
  dsimp only
  split
  · exact .andThen (.idle fun _ _ => rfl) fun _ d s => .done
  · exact .done

/-- **One attempt to create an order.** -/
theorem tryCreate_assured {stock : StockSettings} {settings : OrderSettings}
    {request : OrderService.OrderRequest} {lines : List OrderLine}
    (hA : A (.create stock settings request))
    (hlines : OrderLine.merge request.lines = .ok lines) :
    (OrderService.tryCreate stock request lines).Assured A (.create stock settings request)
      (fun _ _ _ => True) d s := by
  refine OrderService.prepare_lines.seq fun draft d s _ ⟨hdraft, huser⟩ => ?_
  have hitems : (draft.items.map OrderItem.product).Nodup := by
    have := OrderLine.nodup_merge hlines
    rw [← hdraft, List.map_map] at this
    exact this
  refine (Call.Assured.inUnit (R := fun order writes tape' s => ∃ id planned tape,
      writes = .insertOrder order :: planned ∧ order = draft.toOrder id ∧
        Works ((ItemPlan.reserve A stock.reservationTtl id).plans s) draft.items tape planned tape')
    hA (.any d s) (fun d s h => ?_) ?_).forget
  · exact (OrderService.placeIn_plans hA (fun s => .draw) hitems h).mono
      fun _ _ _ _ ⟨id, planned, tape', h, horder, hworks⟩ =>
        ⟨_, tape', h, id, planned, _, rfl, horder, hworks⟩
  · rintro _ _ tape' s t hs hadmits ⟨id, planned, tape, rfl, rfl, hworks⟩ happly
    obtain ⟨t', hinsert, hplanned⟩ := Write.applyAll_cons_iff.mp happly
    obtain rfl := Write.apply_insertOrder_iff.mp hinsert
    obtain ⟨hfresh, hid⟩ := hadmits.fresh _ List.mem_cons_self
    have hroom := hadmits.room
    rw [List.length_cons] at hroom
    have hplace : Edits (Tunable A) s.committed (s.committed.putOrder (draft.toOrder id)) :=
      .single (.place hfresh hitems)
    obtain ⟨heach, -⟩ := hworks.each (X := Reserves stock.reservationTtl id)
      (fun _ _ _ _ _ _ hplan he hroom happly =>
        ItemPlan.reserve_takesEffect hs hplan he hroom happly) hplace
      (by show s.committed.entries.length + _ < _; omega) hplanned
    exact .place (hdraft ▸ hlines) huser hid hfresh heach

/-- **Attempts are repeated**, as often as it may be. -/
theorem attemptFrom_assured {tryOnce : Call Order} {user : UserId} {correlation : CorrelationId}
    {backoff : Nat} (htry : ∀ d s, tryOnce.Assured A call (fun _ _ _ => True) d s)
    (remaining attempt : Nat) (last : ServiceError) (d : Desk) (s : Store) :
    (OrderService.attemptFrom tryOnce user correlation backoff attempt last remaining).Assured A
      call (fun _ _ _ => True) d s := by
  induction remaining generalizing attempt last d s with
  | zero => exact .andThen (.idle fun _ _ => rfl) fun _ d s => .throw
  | succ remaining ih =>
    refine (htry d s).caught.forget.andThen fun outcome d s => ?_
    cases outcome with
    | ok order => exact .andThen (.idle fun _ _ => rfl) fun _ d s => .done
    | error error =>
      dsimp only
      split
      · exact .andThen (.idle fun _ _ => rfl) fun _ d s => .andThen (.idle fun _ _ => rfl)
          fun _ d s => ih _ _ d s
      · exact .throw

/-! ## All calls -/

/-- **A guarded call that returns a value delivers its draft.** -/
theorem assured_of_guarded {commits : List Deed} (hguarded : call.IsGuarded) (hA : A call)
    (h : d.At A none tape commits s) :
    call.program.Assured A call
      (fun value d s => d.Delivers A commits (call.Drafts A tape value) s) d s := by
  cases call with
  | reserve settings product quantity order ttl =>
    exact delivers tape hA h fun d s h => (StockService.reserveIn_plans h List.not_mem_nil).mono
      fun _ _ _ _ ⟨planned, expiresAt, h, hexpires, hplanned⟩ =>
        ⟨planned, _, h, rfl, expiresAt, hexpires, hplanned⟩
  | release product quantity order target =>
    exact delivers tape hA h fun d s h =>
      (StockService.releaseIn_plans h List.not_mem_nil List.not_mem_nil).mono
        fun _ _ _ _ ⟨planned, h, hplanned⟩ => ⟨planned, _, h, rfl, hplanned⟩
  | deduct product quantity order =>
    exact delivers tape hA h fun d s h =>
      (StockService.deductIn_plans h List.not_mem_nil List.not_mem_nil).mono
        fun _ _ _ _ ⟨planned, h, hplanned⟩ => ⟨planned, _, h, rfl, hplanned⟩
  | adjust product delta reason operator =>
    refine (delivers tape hA h fun d s h => ?_).seq fun record d s _ h => h.reported
    exact (StockService.adjustIn_plans h List.not_mem_nil).mono
      fun _ _ _ _ ⟨planned, h, hplanned⟩ => ⟨planned, _, h, rfl, hplanned⟩
  | pay user id =>
    refine (delivers tape hA h fun d s h => ?_).seq fun paid d s _ h => h.reported
    rw [OrderService.payIn_eq_moveAll]
    exact OrderService.moveAll_plans (P := ItemPlan.deduct A)
      (fun _ _ _ _ _ => OrderService.deductItem_plans) h
  | cancel user id =>
    refine (delivers tape hA h fun d s h => ?_).seq fun cancelled d s _ h => h.reported
    rw [OrderService.cancelIn_eq_moveAll]
    exact OrderService.moveAll_plans (P := ItemPlan.release A)
      (fun _ _ _ _ _ => OrderService.releaseItem_plans) h
  | ship id =>
    refine h.now.seq fun now d s _ ⟨hnow, h⟩ => ?_
    subst hnow
    refine (delivers tape hA h fun d s h => ?_).seq fun shipped d s _ h => h.reported
    exact (OrderService.moveIn_plans .ship h).mono
      fun _ _ _ _ ⟨order, h, hseen, hmoved⟩ => ⟨_, _, h, rfl, order, rfl, hseen, hmoved⟩
  | complete id =>
    refine h.now.seq fun now d s _ ⟨hnow, h⟩ => ?_
    subst hnow
    refine (delivers tape hA h fun d s h => ?_).seq fun completed d s _ h => h.reported
    exact (OrderService.moveIn_plans .complete h).mono
      fun _ _ _ _ ⟨order, h, hseen, hmoved⟩ => ⟨_, _, h, rfl, order, rfl, hseen, hmoved⟩
  | _ => exact hguarded.elim

/-- **Every request of a call leaves the store alone or is a change of the call**, whatever the others
do in the meantime. -/
theorem assured (hA : A call) (hfits : call.Fits) (d : Desk) (s : Store) :
    call.program.Assured A call (fun _ _ _ => True) d s := by
  cases call with
  | register product stock threshold => exact register_assured hA hfits.1
  | restock product quantity reason operator =>
    refine .obey_bind fun _ _ => .andThen (delivers d.tape hA (.any d s) fun d s h => ?_).forget
      fun record d s => .andThen (.idle fun _ _ => rfl) fun _ d s => .done
    exact (StockService.restockIn_plans h nofun).mono
      fun _ _ _ _ ⟨planned, h, hplanned⟩ => ⟨planned, _, h, rfl, hplanned⟩
  | setThreshold product threshold => exact setThreshold_assured hA
  | remove product => exact remove_assured hA
  | cleanup settings => exact cleanup_assured hA
  | create stock settings request =>
    refine .andThen (.idle fun _ _ => rfl) fun correlation d s => .obey_bind fun lines hlines => ?_
    exact attemptFrom_assured (fun d s => tryCreate_assured hA hlines) _ _ _ _ _
  | stockOf product => exact stockOf_idle
  | checkAll lines => exact OrderService.checkAll_idle
  | listStock page => exact .step fun _ _ _ => .inl rfl
  | listLowStock page => exact .step fun _ _ _ => .inl rfl
  | entriesOf product page => exact .step fun _ _ _ => .inl rfl
  | reservationsOf order => exact .step fun _ _ _ => .inl rfl
  | ordersOf user page => exact .step fun _ _ _ => .inl rfl
  | orderOf user id =>
    exact .andThen (.step fun _ _ _ => .inl rfl) fun _ _ _ => ownedBy_idle
  | orderByNumber user orderNo =>
    exact .andThen (.step fun _ _ _ => .inl rfl) fun _ _ _ => ownedBy_idle
  | reserve | release | deduct | adjust | pay | ship | complete | cancel =>
    exact (assured_of_guarded (by exact True.intro) hA (.any d s)).forget

end ServiceCall

end Stockroom
