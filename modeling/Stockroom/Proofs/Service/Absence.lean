import Stockroom.Proofs.Crowd.Duty
import Stockroom.Proofs.Service.Anchoring

/-!
# Proofs/Service/Absence — what a call can do about a product that was removed

A call that needs a product and begins when the product was removed **returns no value**
(`ServiceCall.balks_begun`), whatever others do in the meantime: it does not find the record, or in the case
of a new registration it finds the row in its way.  An order needs all its products, when it is created and
when it is paid.  What was removed is also on no page of a listing (`meets_listed`).
-/

namespace Stockroom

open Store Call

variable {α : Type} {p : ProductId} {d : Desk} {s : Store}

/-- A product that was removed, in tables that are in order. -/
def Store.Tables.Absent (p : ProductId) (t : Tables) : Prop := t.Filed ∧ t.Removed p

theorem Store.lasting_absent (p : ProductId) : Lasting (Tables.Absent p) :=
  lasting_filed.and (lasting_removed p)

/-- **Calls that begin when a product was removed** may do what they like. -/
def absence (p : ProductId) : Upkeep where
  toTerms := .whileLasting (Tables.Absent p) (fun _ _ _ => True) False
  holds := Desk.Shows (Tables.Absent p)
  allows _ := True
  later hs h := ⟨hs h.committed, h.working⟩
  answer _ h := ⟨trivial, (lasting_absent p).answer h _⟩

namespace StockService

variable {q : ProductId} {quantity threshold stock : Int} {order : OrderId}

/-! ## Stock -/

theorem balks_loadStock : (loadStock p).Balks (absence p) :=
  .demand_bind trivial fun d s found hd hanswer => by
    have hfound : (Session.find ⟨s, d.unit⟩ (·.liveStock? p)).1 = .ok found := hanswer
    cases hunit : d.unit with
    | none =>
      rw [hunit] at hfound
      cases hfound
    | some u =>
      rw [hunit] at hfound
      obtain rfl := (Except.ok.inj hfound).symm.trans (hd.working u hunit).2.not_live
      exact .throw _

theorem balks_reserveIn {ttl : Span} : (reserveIn p quantity order ttl).Balks (absence p) :=
  Keeps.balks (.request trivial) fun _ => balks_loadStock.bind _

theorem balks_settleIn (how : Settlement) : (settleIn how p quantity order).Balks (absence p) :=
  Keeps.balks (.request trivial) fun _ => (keeps_loadSettleable trivial).balks fun _ => balks_loadStock.bind _

theorem balks_restockIn {reason : Option String} {operator : Option OperatorId} :
    (restockIn p quantity reason operator).Balks (absence p) :=
  Keeps.balks (.request trivial) fun _ => balks_loadStock.bind _

theorem balks_adjustIn {reason : Option String} {operator : Option OperatorId} :
    (adjustIn p quantity reason operator).Balks (absence p) :=
  Keeps.balks (.request trivial) fun _ => balks_loadStock.bind _

theorem balks_inUnit {component : String} {body : Call α} (h : body.Balks (absence p)) :
    (inUnit component body).Balks (absence p) :=
  .inUnit trivial trivial (fun _ => trivial) h

theorem balks_stockOf : (stockOf p).Balks (absence p) :=
  .demand_bind trivial fun d s found hd hanswer => by
    obtain rfl := (Except.ok.inj hanswer).symm.trans hd.committed.2.not_live
    exact .throw _

/-- **The row of a removed product is in the way** of a new registration. -/
theorem createStock_of_removed (h : s.committed.Removed p) (unit : Option UnitOfWork)
    {record : StockRecord} (hproduct : record.product = p) : ∃ detail,
    Session.answer ⟨s, unit⟩ (.createStock record) = (.error (.uniqueViolation detail), ⟨s, unit⟩) := by
  obtain ⟨old, time, hrow⟩ := h
  refine ⟨_, if_pos ?_⟩
  rw [Table.contains, hproduct, hrow]
  rfl

theorem balks_register : (register p stock threshold).Balks (absence p) := by
  refine Keeps.balks (.request trivial) fun now => .obey_bind fun record hrecord =>
    Keeps.balks (.demand trivial) fun found => ?_
  obtain ⟨-, -, hrecord⟩ := StockRecord.register_eq_ok_iff.mp hrecord
  have hproduct : record.product = p := hrecord ▸ rfl
  split
  · exact .bind (.throw _) _
  · refine .demand_bind trivial fun d s result hd hanswer => ?_
    obtain ⟨detail, hblocked⟩ := createStock_of_removed hd.committed.2 d.unit hproduct
    rw [Desk.answer_store hblocked] at hanswer
    cases hanswer

theorem balks_setThreshold : (setThreshold p threshold).Balks (absence p) := balks_stockOf.bind _

theorem balks_remove : (remove p).Balks (absence p) := by
  refine Keeps.balks (.request trivial) fun now => Balks.bind (.demand_bind trivial
    fun d s held hd hanswer => ?_) _
  have hnone : Session.answer ⟨s, d.unit⟩ (.removeStock p now) = (.ok false, ⟨s, d.unit⟩) := by
    simp only [Session.answer, Session.removeStock, hd.committed.2.not_live]
  rw [Desk.answer_store hnone] at hanswer
  cases hanswer
  exact .throw _

/-! ## Listings -/

/-- A page of live records shows nothing that was removed. -/
theorem not_mem_cut (h : s.committed.Absent p) {listing : List StockRecord}
    (hlisting : ∀ record ∈ listing, record ∈ s.committed.liveRecords) (page : PageRequest) :
    ∀ record ∈ (Page.cut listing page).items, record.product ≠ p := fun _ hrecord =>
  h.1.not_mem_liveRecords h.2 (hlisting _ (List.mem_of_mem_drop (List.mem_of_mem_take hrecord)))

/-- **No page of a listing shows a product that was removed.** -/
theorem meets_listing {r : StoreRequest} {shown : r.Result → List StockRecord}
    (hshown : ∀ (d : Desk) (s : Store) (result : r.Result), s.committed.Absent p →
      (d.answer s (.store r)).1 = .ok result → ∀ record ∈ shown result, record.product ≠ p)
    (hs : d.Shows (Tables.Absent p) s) :
    (demand r).Meets (absence p).toTerms
      (fun result _ _ => ∀ record ∈ shown result, record.product ≠ p) (fun _ _ _ => True) d s :=
  (Keeps.demand_knows (U := absence p) (F := fun result _ => ∀ record ∈ shown result, record.product ≠ p)
    trivial hs fun s' result hs' => hshown d s' result hs'.committed).mono fun result _ _ h => by
      cases result with
      | ok result => exact h.1
      | error error => exact trivial

theorem meets_listStock {page : PageRequest} (hs : d.Shows (Tables.Absent p) s) :
    (listStock page).Meets (absence p).toTerms
      (fun result _ _ => ∀ record ∈ result.items, record.product ≠ p) (fun _ _ _ => True) d s :=
  meets_listing (r := .listStock page) (fun d s result habsent hanswer => by
    cases hanswer
    exact not_mem_cut habsent (fun _ => id) page) hs

theorem meets_listLowStock {page : PageRequest} (hs : d.Shows (Tables.Absent p) s) :
    (listLowStock page).Meets (absence p).toTerms
      (fun result _ _ => ∀ record ∈ result.items, record.product ≠ p) (fun _ _ _ => True) d s :=
  meets_listing (r := .listLowStock page) (fun d s result habsent hanswer => by
    cases hanswer
    exact not_mem_cut habsent (fun _ hrecord => List.mem_of_mem_filter (List.mem_mergeSort.mp hrecord))
      page) hs

/-! ## Removals -/

/-- **A product is removed when a call has removed it**, and stays so. -/
theorem meets_remove : (remove p).Meets (.whileLasting (Tables.Removed p) (fun _ _ _ => True) False)
    (fun _ _ s => s.committed.Removed p) (fun _ _ _ => True) d s := by
  refine Meets.seq (Q := fun _ _ _ => True) (Meets.request fun _ _ => ⟨trivial, fun _ _ => trivial⟩)
    fun now d s _ => ?_
  refine Meets.seq (Q := fun _ _ s => s.committed.Removed p) (Meets.insist (Meets.demand fun s' _ =>
    ⟨trivial, ?_⟩)) fun _ d s hs => Meets.request fun s' hs' => ⟨trivial, fun s'' hs'' => hs'' (hs' hs)⟩
  cases hlive : s'.committed.liveStock? p with
  | none =>
    refine ⟨.ok false, ⟨s', d.unit⟩, ?_, fun _ _ => trivial⟩
    simp only [Session.answer, Session.removeStock, hlive]
  | some live =>
    refine ⟨.ok true, Session.withCommitted ⟨s', d.unit⟩ { s'.committed with
      stock := s'.committed.stock.insert p ⟨live, some now⟩ }, ?_, fun _ hs => hs ?_⟩
    · simp only [Session.answer, Session.removeStock, hlive]
    · exact ⟨live, now, (Table.get?_insert ..).trans (if_pos rfl)⟩

end StockService

/-! ## Orders -/

namespace OrderService

open StockService

theorem keeps_itemFor {products : List Product} {line : OrderLine} :
    (itemFor products line).Keeps (absence p) := by
  unfold itemFor
  split
  · exact .obey _
  · exact .throw _

theorem keeps_checkAvailability {line : OrderLine} : (checkAvailability line).Keeps (absence p) :=
  .bind (.obey _) fun _ => .bind (keeps_stockOf trivial) fun _ => .pure _

theorem balks_checkAvailability {line : OrderLine} (h : line.product = p) :
    (checkAvailability line).Balks (absence p) := by
  subst h
  exact Keeps.balks (.obey _) fun _ => balks_stockOf.bind _

theorem balks_prepare {request : OrderRequest} {lines : List OrderLine} {line : OrderLine}
    (hline : line ∈ lines) (hproduct : line.product = p) :
    (prepare request lines).Balks (absence p) := by
  have hchecks : (checkAll lines).Balks (absence p) :=
    .mapM (fun _ => keeps_checkAvailability) hline (balks_checkAvailability hproduct)
  exact Keeps.balks (.demand trivial) fun _ => Keeps.balks (.mapM (fun _ => keeps_itemFor) _) fun _ =>
    hchecks.bind _

/-- However often it is tried. -/
theorem balks_attemptFrom {tryOnce : Call Order} (h : tryOnce.Balks (absence p)) {user : UserId}
    {correlation : CorrelationId} {backoff attempt : Nat} {last : ServiceError} {remaining : Nat} :
    (attemptFrom tryOnce user correlation backoff attempt last remaining).Balks (absence p) := by
  induction remaining generalizing attempt last with
  | zero => exact Keeps.balks (.request trivial) fun _ => .throw _
  | succ remaining ih =>
    intro d s hd
    refine (h d s hd).caught.seq fun result d s hresult => ?_
    cases result with
    | ok order => exact hresult.elim
    | error error =>
      have hagain : Call.Balks (absence p) (do
          unless error.isRetryable do throw error
          report .warn "在庫の競合により注文作成を再試行します"
            [ ("user_id", toString user),
              ("attempt", toString attempt),
              ("error", error.message) ] correlation
          sleep (backoff * attempt)
          attemptFrom tryOnce user correlation backoff (attempt + 1) error remaining) := by
        split
        · exact Keeps.balks (.request trivial) fun _ => Keeps.balks (.request trivial) fun _ => ih
        · exact .throw _
      exact hagain d s hresult

theorem balks_create {stock : StockSettings} {settings : OrderSettings} {request : OrderRequest}
    (h : p ∈ request.lines.map OrderLine.product) :
    (create stock settings request).Balks (absence p) :=
  Keeps.balks (.request trivial) fun _ => .obey_bind fun lines hlines => by
    obtain ⟨line, hline, hproduct⟩ := List.mem_map.mp (OrderLine.subset_merge hlines h)
    exact balks_attemptFrom ((balks_prepare hline hproduct).bind _)

/-- The item of a paid order, whatever its product is. -/
theorem keeps_deductItem_absence (id : OrderId) (item : OrderItem) :
    (deductItem id item).Keeps (absence p) :=
  .bind (.bind (.request trivial) fun _ => .bind (keeps_loadSettleable trivial) fun _ =>
    .bind (keeps_loadStock trivial) fun _ => .bind (.obey _) fun _ =>
      .bind (.insist (.demand trivial)) fun _ => .bind (.insist (.demand trivial)) fun _ =>
        .bind (.demand trivial) fun _ => .bind (.request trivial) fun _ => .pure _) fun _ => .pure _

/-- **An order is not paid without one of its items.** -/
theorem payIn_of_item (user : UserId) {id : OrderId} {u : UnitOfWork} {order : Order}
    (hd : d.Shows (Tables.Absent p) s) (hunit : d.unit = some u)
    (horder : u.working.order? id = some order) (hitem : p ∈ order.items.map OrderItem.product) :
    (payIn user id).Meets (absence p).toTerms (fun _ _ _ => False) (fun _ => (absence p).holds) d s := by
  have hload : (loadOrder id user).Meets (absence p).toTerms
      (fun found d s => found = order ∧ (absence p).holds d s) (fun _ => (absence p).holds) d s := by
    refine Meets.seq (Keeps.demand_knows (U := absence p) (r := .within (.findOrder id))
      (F := fun found _ => found = some order) trivial hd fun s' found _ hanswer => ?_)
      fun found d s hfound => ?_
    · have hfind : (Session.find ⟨s', d.unit⟩ (·.order? id)).1 = .ok found := hanswer
      rw [hunit] at hfind
      exact (Except.ok.inj hfind).symm.trans horder
    · obtain ⟨rfl, hd⟩ := hfound
      dsimp only
      split
      · exact Meets.pure fun _ hs => ⟨rfl, (absence p).later hs hd⟩
      · exact Meets.throw fun _ hs => (absence p).later hs hd
  refine hload.seq fun found d s hfound => ?_
  obtain ⟨rfl, hd⟩ := hfound
  have hrest : Call.Balks (absence p) (do
      let paid ← obey (found.pay (← now))
      paid.items.forM (deductItem paid.id)
      saveMove paid found.status
      return paid) := by
    refine Keeps.balks (.request trivial) fun now => .obey_bind fun paid hpaid => ?_
    have hmove : OrderMove.pay.apply found now = .ok paid := hpaid
    have hitems : paid.items = found.items := congrArg Draft.items (OrderMove.apply_precedes hmove).draft
    obtain ⟨item, hmem, rfl⟩ := List.mem_map.mp hitem
    rw [hitems]
    exact (Balks.forM (keeps_deductItem_absence paid.id) hmem ((balks_settleIn .deduct).bind _)).bind _
  exact hrest d s hd

end OrderService

/-! ## All calls -/

/-- **A caller that returns no value**, as long as a product stays removed. -/
def Caller.Balks (p : ProductId) (c : Caller) (s : Store) : Prop :=
  c.Meets (fun _ => (absence p).toTerms) (fun _ => Post (fun _ _ _ => False) fun _ => (absence p).holds) s

namespace ServiceCall

/-- Whether a call needs a product that is in the stockroom: it moves the stock of the product, changes its
record, or pays an order for it. -/
def Needs (p : ProductId) (t : Tables) : ServiceCall → Prop
  | register product .. | setThreshold product _ | remove product => product = p
  | reserve _ product .. | release product .. | deduct product .. => product = p
  | restock product .. | adjust product .. => product = p
  | create _ _ request => p ∈ request.lines.map OrderLine.product
  | pay _ id => ∃ order, t.order? id = some order ∧ p ∈ order.items.map OrderItem.product
  | _ => False

open StockService OrderService in
/-- **A call that needs a product returns no value** if it begins when the product was removed. -/
theorem balks_begun {call : ServiceCall} (tape : Tape) (hs : s.committed.Absent p)
    (hneeds : call.Needs p s.committed) :
    ((Caller.fresh call tape).step s).1.Balks p ((Caller.fresh call tape).step s).2 := by
  have hfresh : (absence p).holds (.fresh tape) s := Desk.shows_fresh tape hs
  have hbalks {call : ServiceCall} (h : call.program.Balks (absence p)) :
      ((Caller.fresh call tape).step s).1.Balks p ((Caller.fresh call tape).step s).2 := by
    have hmeets : (Caller.fresh call tape).Balks p s := h _ s hfresh
    exact hmeets.step.2
  cases call with
  | register =>
    cases hneeds
    exact hbalks balks_register
  | setThreshold =>
    cases hneeds
    exact hbalks balks_setThreshold
  | remove =>
    cases hneeds
    exact hbalks balks_remove
  | reserve =>
    cases hneeds
    exact hbalks (balks_inUnit balks_reserveIn)
  | release product quantity order target =>
    cases hneeds
    exact hbalks (balks_inUnit (balks_settleIn (.release target)))
  | deduct =>
    cases hneeds
    exact hbalks (balks_inUnit (balks_settleIn .deduct))
  | restock =>
    cases hneeds
    exact hbalks (Keeps.balks (.obey _) fun _ => (balks_inUnit balks_restockIn).bind _)
  | adjust =>
    cases hneeds
    exact hbalks ((balks_inUnit balks_adjustIn).bind _)
  | create => exact hbalks (balks_create hneeds)
  | pay user id =>
    obtain ⟨order, horder, hitem⟩ := hneeds
    -- The unit of work shows the order as it is now.
    have hbody := payIn_of_item user (d := ⟨some (.start s.committed), tape, _⟩)
      ((absence p).answer (r := .store .begin) trivial hfresh).2 rfl horder hitem
    exact (balks_opened trivial (fun _ => trivial) hbody).seq fun _ _ _ hfalse => hfalse.elim
  | _ => exact hneeds.elim

end ServiceCall

end Stockroom
