import Stockroom.Proofs.Crowd.Lasting
import Stockroom.Proofs.Service.Orders

/-!
# Proofs/Service/Anchoring — what a call commits about a product comes with its record

Every call writes the record of a product before it leaves a reservation or an entry about it, so **whatever
waits in a unit of work is anchored** (`ServiceCall.keeps_anchoring`): over a product that was removed in the
meantime nothing of it is committed.

Only a few requests leave a mark of a product without a look at its record (`HostRequest.marks?`).  A call may
make them as soon as it has written the record, and each movement of stock does so first (`keeps_guarded`).
-/

namespace Stockroom

open Store Call

variable {α β : Type} {p : ProductId} {held : List ProductId}

/-! ## Writes that wait -/

/-- The product about which a request writes without a look at its record. -/
def HostRequest.marks? : HostRequest → Option ProductId
  | store (.within (.insertReservation reservation)) => some reservation.product
  | store (.within (.moveReservation product ..)) => some product
  | store (.within (.appendEntry entry)) => some entry.product
  | _ => none

/-- What may be asked once the records of some products were written in the open unit of work. -/
def HostRequest.KeepsAnchored (held : List ProductId) (request : HostRequest) : Prop :=
  (held = [] ∨ request ≠ .store .begin) ∧ ∀ p, request.marks? = some p → p ∈ held

namespace Desk

variable {d : Desk} {s : Store}

/-- **A desk at which whatever waits is anchored**, and the records of these products were written. -/
structure Anchored (held : List ProductId) (d : Desk) (s : Store) : Prop where
  shows : d.Shows Tables.Filed s
  anchored : ∀ u, d.unit = some u → Write.Anchored u.pending
  held : ∀ u, d.unit = some u → ∀ p ∈ held, .stock p ∈ u.pending.filterMap Write.row?

/-- A write about a product writes its record, or is made by a request that marks it. -/
theorem row_or_marks_of_write {x : Session} {r : UnitRequest} {w : Write} (hw : x.write? r = some w)
    (hp : w.product? = some p) :
    w.row? = some (.stock p) ∨ HostRequest.marks? (.store (.within r)) = some p := by
  cases r with
  | replaceStock next version =>
    cases hw
    cases hp
    exact .inl rfl
  | increaseStock product quantity now =>
    cases hw
    cases hp
    exact .inl rfl
  | insertReservation reservation =>
    cases hw
    exact .inr hp
  | moveReservation product order expected next now =>
    cases hw
    exact .inr hp
  | appendEntry entry =>
    cases hw
    exact .inr hp
  | insertOrder draft =>
    cases hw
    cases hp
  | replaceOrder order expected =>
    cases hw
    cases hp
  | findStock | findReservation | findOrder => cases hw

/-- **Anchored it stays**, whatever is asked that may be asked. -/
theorem Anchored.answer (h : d.Anchored held s) {request : HostRequest}
    (hr : request.KeepsAnchored held) :
    (d.answer s request).2.1.Anchored held (d.answer s request).2.2 := by
  refine ⟨lasting_filed.answer h.shows request, fun u hu => ?_, fun u hu p hp => ?_⟩
  · rcases d.unit_answer s request with hnone | ⟨-, hstart⟩ | hsame | ⟨r, v, w, rfl, hv, hw, hstage⟩
    · cases hnone.symm.trans hu
    · cases hstart.symm.trans hu
      exact Write.anchored_nil
    · exact h.anchored u (hsame.symm.trans hu)
    · cases hstage.symm.trans hu
      rw [UnitOfWork.pending_stage]
      split
      · refine (h.anchored v hv).concat fun p hp => ?_
        exact (row_or_marks_of_write hw hp).symm.imp_left fun hmarks => h.held v hv p (hr.2 p hmarks)
      · rw [List.append_nil]
        exact h.anchored v hv
  · rcases d.unit_answer s request with hnone | ⟨rfl, -⟩ | hsame | ⟨r, v, w, -, hv, -, hstage⟩
    · cases hnone.symm.trans hu
    · rw [hr.1.resolve_right fun hne => hne rfl] at hp
      cases hp
    · exact h.held u (hsame.symm.trans hu) p hp
    · cases hstage.symm.trans hu
      rw [UnitOfWork.pending_stage, List.filterMap_append]
      exact List.mem_append_left _ (h.held v hv p hp)

/-- **A record that was written** anchors what comes next. -/
theorem Anchored.granted {s' : Store} {r : UnitRequest} {w : Write}
    (h : (d.answer s (.store (.within r))).2.1.Anchored held s')
    (hgranted : r.granted (d.answer s (.store (.within r))).1 = some w)
    (hrow : w.row? = some (.stock p)) :
    (d.answer s (.store (.within r))).2.1.Anchored (p :: held) s' := by
  refine ⟨h.shows, h.anchored, fun u hu => List.forall_mem_cons.mpr ⟨?_, h.held u hu⟩⟩
  have hstaged := staged_answer (d := d) (s := s) (.store (.within r))
  rw [Exchange.stage, hgranted, Desk.staged, hu, Option.map_some] at hstaged
  obtain ⟨waiting, -, hpending⟩ := Option.map_eq_some_iff.mp hstaged.symm
  rw [← hpending, List.filterMap_append]
  exact List.mem_append_right _ (by simp [hrow])

theorem Anchored.weaken (h : d.Anchored (p :: held) s) : d.Anchored held s :=
  ⟨h.shows, h.anchored, fun u hu q hq => h.held u hu q (List.mem_cons_of_mem _ hq)⟩

end Desk

/-- **What waits in a unit of work is anchored when it is committed.** -/
def anchoringTerms : Terms :=
  .whileLasting Tables.Filed
    (fun d request _ => request = .store .commit → ∀ u, d.unit = some u → Write.Anchored u.pending) True

/-- How calls keep it so. -/
def anchoring (held : List ProductId) : Upkeep where
  toTerms := anchoringTerms
  holds := Desk.Anchored held
  allows := HostRequest.KeepsAnchored held
  later hs h := ⟨⟨hs h.shows.committed, h.shows.working⟩, h.anchored, h.held⟩
  answer hr h := ⟨fun _ => h.anchored, h.answer hr⟩

namespace Call.Keeps

/-- A request that is not a mark, before any record was written. -/
theorem unmarked {r : HostRequest} (h : r.marks? = none) : (anchoring []).allows r :=
  ⟨.inl rfl, fun _ hp => nomatch h.symm.trans hp⟩

/-- A mark of a product whose record was written. -/
theorem marked {r : HostRequest} (hr : r ≠ .store .begin) (h : r.marks? = some p) :
    (anchoring [p]).allows r :=
  ⟨.inr hr, fun q hq => by
    cases h.symm.trans hq
    exact List.mem_singleton_self p⟩

/-- A request after the record was written. -/
theorem besides {r : HostRequest} (hr : r ≠ .store .begin) (h : r.marks? = none) :
    (anchoring [p]).allows r :=
  ⟨.inr hr, fun _ hp => nomatch h.symm.trans hp⟩

end Call.Keeps

/-! ## Movements -/

namespace StockService

variable {quantity : Int} {order : OrderId}

/-- The record that a unit of work shows for a product is one of this product. -/
theorem product_of_findStock {d : Desk} {s : Store} (h : d.Shows Tables.Filed s)
    {current : StockRecord}
    (hanswer : (d.answer s (.store (.within (.findStock p)))).1 = .ok (some current)) :
    current.product = p := by
  have hfound : (Session.find ⟨s, d.unit⟩ (·.liveStock? p)).1 = .ok (some current) := hanswer
  cases hunit : d.unit with
  | none =>
    rw [hunit] at hfound
    cases hfound
  | some u =>
    rw [hunit] at hfound
    exact (h.working u hunit).product_of_live (Except.ok.inj hfound)

theorem meets_loadStock {d : Desk} {s : Store} (hd : d.Anchored [] s) :
    (loadStock p).Meets anchoringTerms (fun current d s => current.product = p ∧ d.Anchored [] s)
      (fun _ d s => d.Anchored [] s) d s := by
  refine Meets.seq (Keeps.demand_knows (U := anchoring [])
    (F := fun found _ => ∀ current, found = some current → current.product = p)
    (Keeps.unmarked rfl) hd fun s' found hd' hanswer current hfound => ?_) fun found d s hd => ?_
  · rw [hfound] at hanswer
    exact product_of_findStock hd'.shows hanswer
  · cases found with
    | some current => exact Meets.pure fun _ hs => ⟨hd.1 current rfl, (anchoring []).later hs hd.2⟩
    | none => exact Meets.throw fun _ hs => (anchoring []).later hs hd.2

/-- **A write of the record that has to take effect** anchors what comes next. -/
theorem meets_written {d : Desk} {s : Store} (hd : d.Anchored [] s) {r : UnitRequest} {w : Write}
    {F : r.Result → Prop} (hr : HostRequest.marks? (.store (.within r)) = none)
    (hgranted : ∀ result, F result → r.granted (.ok result) = some w) (hrow : w.row? = some (.stock p)) :
    (within r).Meets anchoringTerms
      (fun result d s => (F result → d.Anchored [p] s) ∧ d.Anchored [] s)
      (fun _ d s => d.Anchored [] s) d s := by
  refine (Keeps.demand_knows (U := anchoring []) (r := .within r)
    (F := fun result d => F result → ∀ s, d.Anchored [] s → d.Anchored [p] s)
    (Keeps.unmarked hr) hd fun s' result _ hanswer hresult s'' hd'' => ?_).mono fun result d s h => ?_
  · exact hd''.granted (hanswer ▸ hgranted result hresult) hrow
  · cases result with
    | ok result => exact ⟨fun hresult => h.1 hresult s h.2, h.2⟩
    | error error => exact h

/-- A write that is insisted on. -/
theorem meets_insist_written {d : Desk} {s : Store} {ask : Call Bool} {otherwise : ServiceError}
    (h : ask.Meets anchoringTerms (fun held d s => (held = true → d.Anchored [p] s) ∧ d.Anchored [] s)
      (fun _ d s => d.Anchored [] s) d s) :
    (insist ask otherwise).Meets anchoringTerms (fun _ d s => d.Anchored [p] s)
      (fun _ d s => d.Anchored [] s) d s :=
  Meets.insist (h.mono fun result d s h => by
    rcases result with _ | _ | _
    · exact h
    · exact h.2
    · exact h.1 rfl)

/-- What is kept once the record was written. -/
theorem keeps_weakened {q : Call α} {d : Desk} {s : Store} (h : q.Keeps (anchoring [p]))
    (hd : d.Anchored [p] s) :
    q.Meets anchoringTerms (fun _ d s => d.Anchored [] s) (fun _ d s => d.Anchored [] s) d s :=
  (h d s hd).mono fun result _ _ h => by cases result <;> exact h.weaken

/-- **A record that is read, moved and written back** anchors the rest, where the move keeps the product. -/
theorem keeps_guarded {move : StockRecord → Except Refusal StockRecord}
    (hmove : ∀ {current next}, move current = .ok next → current.SameThreshold next)
    {rest : StockRecord → StockRecord → Call α}
    (hrest : ∀ current next, next.product = p → (rest current next).Keeps (anchoring [p])) :
    (do
      let current ← loadStock p
      let next ← obey (move current)
      replaceGuarded current next
      rest current next).Keeps (anchoring []) := fun d s hd =>
  (meets_loadStock hd).seq fun current d s hd => Meets.obey_bind (fun next hnext => by
    have hproduct : next.product = p := (hmove hnext).product.trans hd.1
    have hreplace : (replaceGuarded current next).Meets anchoringTerms
        (fun _ d s => d.Anchored [p] s) (fun _ d s => d.Anchored [] s) d s :=
      meets_insist_written (meets_written (r := .replaceStock next current.version) (F := (· = true))
        hd.2 rfl (fun result hresult => if_pos hresult) (congrArg (some ∘ RowName.stock) hproduct))
    exact hreplace.seq fun _ _ _ hd => keeps_weakened (hrest current next hproduct) hd)
    fun _ _ _ hs => (anchoring []).later hs hd.2

theorem keeps_loadStock {U : Upkeep} (hfind : U.allows (.store (.within (.findStock p)))) :
    (loadStock p).Keeps U :=
  .bind (.demand hfind) fun found => by
    cases found with
    | some record => exact .pure _
    | none => exact .throw _

theorem keeps_loadSettleable {U : Upkeep}
    (hfind : U.allows (.store (.within (.findReservation p order)))) :
    (loadSettleable p order quantity).Keeps U :=
  .bind (.demand hfind) fun found => by
    cases found with
    | some reservation => exact .bind (.obey _) fun _ => .pure _
    | none => exact .throw _

theorem keeps_openReservation {ttl : Span} {now : Instant} {f : Reservation → Call α}
    (hf : ∀ reservation : Reservation, reservation.product = p → (f reservation).Keeps (anchoring held)) :
    (openReservation p order quantity ttl now >>= f).Keeps (anchoring held) := by
  rw [openReservation, bind_assoc]
  refine Keeps.orAbort_bind (U := anchoring held) trivial fun opened hopened => .obey_bind fun r hr => ?_
  subst hr
  obtain ⟨expiresAt, -, rfl⟩ := expiry_of_lasting hopened
  exact hf _ rfl

theorem keeps_report {level : LogLevel} {message : String} {context : List (String × String)}
    {correlation : Option CorrelationId} :
    (report level message context correlation).Keeps (anchoring [p]) :=
  .request (Keeps.besides nofun rfl)

theorem keeps_reserveIn {ttl : Span} : (reserveIn p quantity order ttl).Keeps (anchoring []) :=
  .bind (.request (Keeps.unmarked rfl)) fun _ => keeps_guarded .reserve fun _ _ hproduct =>
    keeps_openReservation fun _ hreservation =>
      .bind (.demand (Keeps.marked nofun (congrArg some hreservation))) fun _ =>
        .bind (.demand (Keeps.marked nofun (congrArg some hproduct))) fun _ =>
          .bind keeps_report fun _ => .pure _

theorem Settlement.sameThreshold (how : Settlement) {now : Instant} {current next : StockRecord}
    (h : (how.movement p quantity order now).next current = .ok next) : current.SameThreshold next := by
  cases how with
  | release target => exact .release h
  | deduct => exact .deduct h

theorem keeps_settleIn (how : Settlement) : (settleIn how p quantity order).Keeps (anchoring []) :=
  .bind (.request (Keeps.unmarked rfl)) fun _ =>
    .bind (keeps_loadSettleable (Keeps.unmarked rfl)) fun _ =>
      keeps_guarded how.sameThreshold fun _ _ hproduct =>
        .bind (.insist (.demand (Keeps.marked nofun rfl))) fun _ =>
          .bind (.demand (Keeps.marked nofun (congrArg some hproduct))) fun _ =>
            .bind keeps_report fun _ => .pure _

theorem keeps_adjustIn {delta : Int} {reason : Option String} {operator : Option OperatorId} :
    (adjustIn p delta reason operator).Keeps (anchoring []) :=
  .bind (.request (Keeps.unmarked rfl)) fun _ => keeps_guarded .adjust fun _ _ hproduct =>
    .bind (.demand (Keeps.marked nofun (congrArg some hproduct))) fun _ => .pure _

/-- A restock writes the record without a look at its version. -/
theorem keeps_restockIn {reason : Option String} {operator : Option OperatorId} :
    (restockIn p quantity reason operator).Keeps (anchoring []) :=
  .bind (.request (Keeps.unmarked rfl)) fun now => .bind (keeps_loadStock (Keeps.unmarked rfl)) fun _ =>
    .bind (.obey _) fun _ _ _ hd =>
      (meets_insist_written (meets_written (r := .increaseStock p quantity now) (F := (· = true)) hd rfl
        (fun _ hresult => if_pos hresult) rfl)).seq fun _ _ _ hd => keeps_weakened
          (.bind (keeps_loadStock (Keeps.besides nofun rfl)) fun _ =>
            .bind (.demand (Keeps.marked nofun rfl)) fun _ => .pure _) hd

theorem keeps_stockOf {U : Upkeep} (hfind : U.allows (.store (.stockOf p))) : (stockOf p).Keeps U :=
  .bind (.demand hfind) fun found => by
    cases found with
    | some record => exact .pure _
    | none => exact .throw _

theorem keeps_checkAll {lines : List OrderLine} : (checkAll lines).Keeps (anchoring []) :=
  .mapM (fun _ => .bind (.obey _) fun _ => .bind (keeps_stockOf (Keeps.unmarked rfl)) fun _ => .pure _) lines

end StockService

/-- A unit of work begins with nothing that waits. -/
theorem keeps_inUnit {component : String} {body : Call α} (h : body.Keeps (anchoring [])) :
    (inUnit component body).Keeps (anchoring []) :=
  .inUnit (Keeps.unmarked rfl) (Keeps.unmarked rfl) (Keeps.unmarked rfl) (fun _ => Keeps.unmarked rfl) h

theorem keeps_log {record : LogRecord} : (log record).Keeps (anchoring []) :=
  .request (Keeps.unmarked rfl)

/-- Each expired reservation is released in a unit of work of its own. -/
theorem StockService.keeps_cleanup {settings : StockSettings} :
    (cleanup settings).Keeps (anchoring []) := by
  refine .bind (.request (Keeps.unmarked rfl)) fun correlation =>
    .bind (.request (Keeps.unmarked rfl)) fun _ => .bind (.demand (Keeps.unmarked rfl)) fun expired =>
      .bind (.mapM (fun reservation => ?_) _) fun outcomes => ?_
  · refine .bind (keeps_inUnit (keeps_settleIn (.release .expired))).caught fun outcome => ?_
    cases outcome with
    | ok _ => exact .pure _
    | error error => exact .bind keeps_log fun _ => .pure _
  · dsimp only
    split
    · exact .bind keeps_log fun _ => .pure _
    · exact .pure _

/-! ## Orders -/

namespace OrderService

open StockService

theorem keeps_prepare {request : OrderRequest} {lines : List OrderLine} :
    (prepare request lines).Keeps (anchoring []) := by
  refine .bind (.demand (Keeps.unmarked rfl)) fun products => .bind (.mapM (fun line => ?_) _) fun _ =>
    .bind keeps_checkAll fun checks => .bind ?_ fun _ => .bind (.request (Keeps.unmarked rfl)) fun _ =>
      .obey _
  · unfold itemFor
    split
    · exact .obey _
    · exact .throw _
  · unfold ensureCovered
    split
    · exact .throw _
    · exact .pure _

theorem keeps_placeIn {settings : StockSettings} {draft : Draft} :
    (placeIn settings draft).Keeps (anchoring []) :=
  .bind (.demand (Keeps.unmarked rfl)) fun _ =>
    .bind (.forM (fun _ => .bind keeps_reserveIn fun _ => .pure _) _) fun _ => .pure _

theorem keeps_attemptFrom {tryOnce : Call Order} (h : tryOnce.Keeps (anchoring [])) {user : UserId}
    {correlation : CorrelationId} {backoff attempt : Nat} {last : ServiceError} {remaining : Nat} :
    (attemptFrom tryOnce user correlation backoff attempt last remaining).Keeps (anchoring []) := by
  induction remaining generalizing attempt last with
  | zero => exact .bind keeps_log fun _ => .throw _
  | succ remaining ih =>
    refine .bind h.caught fun result => ?_
    cases result with
    | ok order => exact .bind keeps_log fun _ => .pure _
    | error error =>
      dsimp only
      split
      · exact .bind keeps_log fun _ => .bind (.request (Keeps.unmarked rfl)) fun _ => ih
      · exact .throw _

theorem keeps_create {stock : StockSettings} {settings : OrderSettings} {request : OrderRequest} :
    (create stock settings request).Keeps (anchoring []) :=
  .bind (.request (Keeps.unmarked rfl)) fun _ => .bind (.obey _) fun _ =>
    keeps_attemptFrom (.bind keeps_prepare fun _ => keeps_inUnit keeps_placeIn)

theorem keeps_loadOrder {id : OrderId} {owner : Option UserId} :
    (loadOrder id owner).Keeps (anchoring []) := by
  refine .bind (.demand (Keeps.unmarked rfl)) fun found => ?_
  cases found with
  | none => exact .throw _
  | some order =>
    dsimp only
    split
    · exact .pure _
    · exact .throw _

theorem keeps_saveMove {order : Order} {expected : OrderStatus} :
    (saveMove order expected).Keeps (anchoring []) :=
  .insist (.demand (Keeps.unmarked rfl))

/-- An order that moves together with its items. -/
theorem keeps_moveAll {user : UserId} {id : OrderId} (move : OrderMove)
    {settle : OrderId → OrderItem → Call Unit} (h : ∀ id item, (settle id item).Keeps (anchoring [])) :
    (moveAll user id move settle).Keeps (anchoring []) :=
  .bind keeps_loadOrder fun _ => .bind (.request (Keeps.unmarked rfl)) fun _ => .bind (.obey _) fun _ =>
    .bind (.forM (h _) _) fun _ => .bind keeps_saveMove fun _ => .pure _

theorem keeps_deductItem (id : OrderId) (item : OrderItem) :
    (deductItem id item).Keeps (anchoring []) :=
  .bind (keeps_settleIn .deduct) fun _ => .pure _

theorem keeps_releaseItem (id : OrderId) (item : OrderItem) :
    (releaseItem id item).Keeps (anchoring []) := by
  refine .bind (.demand (Keeps.unmarked rfl)) fun reservation => ?_
  split
  · exact keeps_log
  · exact .bind (keeps_settleIn (.release .cancelled)) fun _ => .pure _

theorem keeps_payIn {user : UserId} {id : OrderId} : (payIn user id).Keeps (anchoring []) := by
  rw [payIn_eq_moveAll]
  exact keeps_moveAll .pay keeps_deductItem

theorem keeps_cancelIn {user : UserId} {id : OrderId} : (cancelIn user id).Keeps (anchoring []) := by
  rw [cancelIn_eq_moveAll]
  exact keeps_moveAll .cancel keeps_releaseItem

theorem keeps_moveIn {id : OrderId} {move : Order → Except Refusal Order} :
    (moveIn id move).Keeps (anchoring []) :=
  .bind keeps_loadOrder fun _ => .bind (.obey _) fun _ => .bind keeps_saveMove fun _ => .pure _

theorem keeps_ownedBy {user : UserId} {order : Option Order} {subject : Subject} :
    (ownedBy user order subject).Keeps (anchoring []) := by
  unfold ownedBy
  split
  · exact .pure _
  · exact .throw _

end OrderService

open StockService OrderService in
/-- **Whatever a call commits is anchored.** -/
theorem ServiceCall.keeps_anchoring (call : ServiceCall) : call.program.Keeps (anchoring []) := by
  cases call with
  | register =>
    refine Keeps.bind (.request (Keeps.unmarked rfl)) fun _ => .bind (.obey _) fun record =>
      .bind (.demand (Keeps.unmarked rfl)) fun found => ?_
    split
    · exact .throw _
    · exact .bind (.demand (Keeps.unmarked rfl)) fun _ => .bind keeps_log fun _ => .pure _
  | setThreshold =>
    exact Keeps.bind (keeps_stockOf (Keeps.unmarked rfl)) fun _ =>
      .bind (.request (Keeps.unmarked rfl)) fun _ => .bind (.obey _) fun _ =>
        .bind (.insist (.demand (Keeps.unmarked rfl))) fun _ => .pure _
  | reserve => exact keeps_inUnit keeps_reserveIn
  | release product quantity order target => exact keeps_inUnit (keeps_settleIn (.release target))
  | deduct => exact keeps_inUnit (keeps_settleIn .deduct)
  | restock =>
    exact Keeps.bind (.obey _) fun _ => .bind (keeps_inUnit keeps_restockIn) fun _ =>
      .bind keeps_log fun _ => .pure _
  | adjust => exact Keeps.bind (keeps_inUnit keeps_adjustIn) fun _ => .bind keeps_log fun _ => .pure _
  | remove =>
    exact Keeps.bind (.request (Keeps.unmarked rfl)) fun _ =>
      .bind (.insist (.demand (Keeps.unmarked rfl))) fun _ => keeps_log
  | cleanup => exact keeps_cleanup
  | create => exact keeps_create
  | pay => exact Keeps.bind (keeps_inUnit keeps_payIn) fun _ => .bind keeps_log fun _ => .pure _
  | cancel => exact Keeps.bind (keeps_inUnit keeps_cancelIn) fun _ => .bind keeps_log fun _ => .pure _
  | ship | complete =>
    exact Keeps.bind (.request (Keeps.unmarked rfl)) fun _ => .bind (keeps_inUnit keeps_moveIn) fun _ =>
      .bind keeps_log fun _ => .pure _
  | stockOf => exact keeps_stockOf (Keeps.unmarked rfl)
  | checkAll => exact keeps_checkAll
  | orderOf | orderByNumber => exact Keeps.bind (.demand (Keeps.unmarked rfl)) fun _ => keeps_ownedBy
  | listStock | listLowStock | entriesOf | reservationsOf | ordersOf =>
    exact Keeps.demand (Keeps.unmarked rfl)

end Stockroom
