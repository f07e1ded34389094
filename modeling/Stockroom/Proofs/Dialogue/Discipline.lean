import Stockroom.Proofs.Dialogue.Bodies

/-!
# Proofs/Dialogue/Discipline — every transaction stops at the first objection

**Whatever is said in a transaction is disciplined** (`Transaction.disciplined_of_ends`): at most one unit
of work is opened, it is committed if there was no objection and rolled back right after the first one
otherwise, and the call answers with the error of that objection.

Only a reservation that would end outside the calendar stops a call without an answer, and then nothing
ends its unit of work: it is dropped with the call.
-/

namespace Stockroom

open Call Exchange

/-! ## Preparing an order -/

/-- **A draft that was made up** has its items, and the number of its time. -/
theorem Draft.of_prepare {user : UserId} {items : List OrderItem} {receiver : Receiver}
    {discount shipping : Money} {remark : Option String} {now : Instant} {draft : Draft}
    (h : Draft.prepare user items receiver discount shipping remark now = .ok draft) :
    draft.items = items ∧ draft.user = user ∧ draft.orderNo = orderNumber now ∧
      draft.createdAt = now := by
  unfold Draft.prepare at h
  split at h
  · cases h
  · obtain ⟨total, -, h⟩ := bind_eq_ok_iff.mp h
    obtain ⟨pay, -, h⟩ := bind_eq_ok_iff.mp h
    cases h
    exact ⟨rfl, rfl, rfl, rfl⟩

/-- **A draft that answers a request** at a time: it has an item for each line, belongs to the user, and has
the number of the time. -/
structure Draft.Answers (request : OrderService.OrderRequest) (lines : List OrderLine) (now : Instant)
    (draft : Draft) : Prop where
  lines : draft.items.map OrderItem.line = lines
  user : draft.user = request.user
  orderNo : draft.orderNo = orderNumber now
  createdAt : draft.createdAt = now

namespace OrderService

/-- A check that is already decided. -/
def settled {α : Type} : Except ServiceError α → Call α
  | .ok a => pure a
  | .error error => throw error

theorem itemFor_eq_settled (products : List Product) (line : OrderLine) :
    itemFor products line = settled (quote products line) := by
  rw [itemFor, quote]
  cases products.find? fun product => product.id = line.product with
  | none => rfl
  | some product =>
    dsimp only
    cases OrderItem.ofProduct product line.quantity <;> rfl

theorem mapM_itemFor_eq_settled (products : List Product) (lines : List OrderLine) :
    lines.mapM (itemFor products) = settled (lines.mapM (quote products)) := by
  induction lines with
  | nil => rfl
  | cons line lines ih =>
    rw [List.mapM_cons, List.mapM_cons, ih, itemFor_eq_settled]
    cases quote products line with
    | error error => rfl
    | ok item => cases lines.mapM (quote products) <;> rfl

/-- The item for a line asks for what the line asks for, and that is something. -/
theorem line_of_quote {products : List Product} {line : OrderLine} {item : OrderItem}
    (h : quote products line = .ok item) : item.line = line ∧ 0 < line.quantity := by
  rw [quote] at h
  cases hfound : products.find? fun product => product.id = line.product with
  | none =>
    rw [hfound] at h
    cases h
  | some product =>
    rw [hfound] at h
    have hid : product.id = line.product := by simpa using List.find?_some hfound
    dsimp only at h
    cases hitem : OrderItem.ofProduct product line.quantity with
    | error refusal =>
      rw [hitem] at h
      cases h
    | ok item' =>
      rw [hitem] at h
      cases h
      obtain ⟨u, hpositive, hitem⟩ := bind_eq_ok_iff.mp hitem
      obtain ⟨price, -, hitem⟩ := bind_eq_ok_iff.mp hitem
      cases hitem
      exact ⟨congrArg (OrderLine.mk · line.quantity) hid, ensurePositive_eq_ok_iff.mp hpositive⟩

theorem forall_of_mapM_quote {products : List Product} {lines : List OrderLine}
    {items : List OrderItem} (h : lines.mapM (quote products) = .ok items) :
    items.map OrderItem.line = lines ∧ ∀ line ∈ lines, 0 < line.quantity := by
  induction lines generalizing items with
  | nil =>
    cases h
    exact ⟨rfl, List.forall_mem_nil _⟩
  | cons line lines ih =>
    rw [List.mapM_cons] at h
    obtain ⟨item, hitem, h⟩ := bind_eq_ok_iff.mp h
    obtain ⟨items, hitems, h⟩ := bind_eq_ok_iff.mp h
    cases h
    obtain ⟨hline, hpositive⟩ := line_of_quote hitem
    obtain ⟨hlines, hpositives⟩ := ih hitems
    exact ⟨by rw [List.map_cons, hline, hlines], List.forall_mem_cons.mpr ⟨hpositive, hpositives⟩⟩

/-- What a check of a line answers about the record that it finds. -/
def availability (line : OrderLine) (record : StockRecord) : StockService.Availability :=
  ⟨line.product, record.available, record.reserved, line.quantity, record.covers line.quantity⟩

theorem ensureCovered_eq_settled (lines : List OrderLine) (records : List StockRecord) :
    ensureCovered (lines.zipWith availability records) =
      settled ((shortage? lines records).elim (.ok ()) .error) := by
  rw [ensureCovered, shortage?, ← List.map_uncurry_zip_eq_zipWith, List.find?_map]
  have hpred : (fun check : StockService.Availability => !check.isAvailable) ∘
      Function.uncurry availability = fun pair => !pair.2.covers pair.1.quantity := rfl
  rw [hpred]
  cases (lines.zip records).find? fun pair => !pair.2.covers pair.1.quantity <;> rfl

theorem checkAvailability_eq {line : OrderLine} (h : 0 < line.quantity) :
    StockService.checkAvailability line = (do
      match ← demand (.stockOf line.product) with
      | some record => return availability line record
      | none => throw (.notFound (.stock line.product))) := by
  have hpositive : ensurePositive line.quantity = .ok () := ensurePositive_eq_ok_iff.mpr h
  rw [StockService.checkAvailability, hpositive]
  show StockService.stockOf line.product >>= _ = _
  rw [StockService.stockOf, bind_assoc]
  refine congrArg (demand (.stockOf line.product) >>= ·) (funext fun found => ?_)
  cases found <;> rfl

end OrderService

namespace Transaction

open OrderService

variable {settings : StockSettings} {request : OrderRequest} {lines : List OrderLine} {β : Type}
  {R : Talk → β → Prop}

/-- What is neither a list of products nor the opening of a unit of work. -/
def IsPlain (y : Exchange) : Prop := y.products? = none ∧ y.isBegin = false

/-- **All lines are checked** before the first one that is not covered ends the call: the objection comes
with the record of the last line. -/
theorem audited_covered {f : Call β} {rest done : List OrderLine} {records : List StockRecord}
    {past : Talk} (hlines : done ++ rest = lines) (hlength : done.length = records.length)
    (hpast : past.filterMap stock? = records) (hpositive : ∀ line ∈ rest, 0 < line.quantity)
    (hdone : rest = [] → shortage? lines records = none)
    (h : ∀ more : Talk, (∀ y ∈ more, IsPlain y) →
      f.Audited (place settings request lines).audit HostRequest.IsOutside R (past ++ more)) :
    (do
      let checks ← rest.mapM StockService.checkAvailability
      ensureCovered (done.zipWith availability records ++ checks)
      f).Audited (place settings request lines).audit HostRequest.IsOutside R past := by
  induction rest generalizing done records past with
  | nil =>
    rw [List.append_nil] at hlines
    subst hlines
    rw [List.mapM_nil, pure_bind, List.append_nil, ensureCovered_eq_settled, hdone rfl]
    simpa [settled] using h [] (List.forall_mem_nil _)
  | cons line rest ih =>
    obtain ⟨hline, hrest⟩ := List.forall_mem_cons.mp hpositive
    rw [List.mapM_cons, checkAvailability_eq hline]
    simp only [bind_assoc]
    refine .demand trivial (fun _ => rfl) fun found => ?_
    cases found with
    | none => exact ⟨nofun, fun error herror => by cases herror; rfl⟩
    | some record =>
    let found : Exchange := ⟨.store (.stockOf line.product), .ok (some record)⟩
    have hfound : (past ++ [found]).filterMap stock? = records ++ [record] := by
      rw [List.filterMap_append, hpast]
      rfl
    have hlength' : (done ++ [line]).length = (records ++ [record]).length := by simp [hlength]
    have hzip : done.zipWith availability records ++ [availability line record] =
        (done ++ [line]).zipWith availability (records ++ [record]) := by
      rw [List.zipWith_append hlength]
      rfl
    have hsplit : (done ++ [line]) ++ rest = lines := by simpa using hlines
    have hrule : (place settings request lines).audit.objection past found =
          if (records ++ [record]).length = lines.length then shortage? lines (records ++ [record])
          else none := by
      rw [← hpast]
      rfl
    have hnext (hnone : rest = [] → shortage? lines (records ++ [record]) = none) :
        (do
          let checks ← rest.mapM StockService.checkAvailability
          ensureCovered (done.zipWith availability records ++ availability line record :: checks)
          f).Audited (place settings request lines).audit HostRequest.IsOutside R
            (past ++ [found]) := by
      have hcovered := ih hsplit hlength' hfound hrest hnone
        fun more hmore => by
          rw [List.append_assoc]
          exact h (found :: more) (List.forall_mem_cons.mpr ⟨⟨rfl, rfl⟩, hmore⟩)
      simpa only [← hzip, List.append_assoc, List.singleton_append] using hcovered
    rw [hrule]
    simp only [pure_bind]
    cases rest with
    | nil =>
      rw [List.append_nil] at hsplit
      rw [if_pos (by rw [← hsplit, hlength'])]
      refine ⟨fun hnone => hnext fun _ => hnone, fun error herror => ?_⟩
      rw [List.mapM_nil, pure_bind, hzip, hsplit, ensureCovered_eq_settled, herror]
      rfl
    | cons other rest =>
      have hlonger : (records ++ [record]).length ≠ lines.length := by
        have hcount : lines.length = (done ++ [line]).length + (other :: rest).length := by
          rw [← hsplit]
          exact List.length_append
        rw [hcount, ← hlength', List.length_cons]
        omega
      rw [if_neg hlonger]
      exact ⟨fun _ => hnext nofun, nofun⟩

/-- What is asked outside of a unit of work is neither a log record, nor about an order, nor a write. -/
theorem facts_of_isOutside {y : Exchange} (h : y.request.IsOutside) :
    y.isLog = false ∧ y.order? = none ∧ y.isReplacement = false := by
  obtain ⟨request, answer⟩ := y
  cases request with
  | store r => cases r <;> first | exact h.elim | exact ⟨rfl, rfl, rfl⟩
  | log record => exact h.elim
  | _ => exact ⟨rfl, rfl, rfl⟩

variable {past : Talk}

theorem countP_isLog_of_outside (h : ∀ y ∈ past, y.request.IsOutside) : past.countP isLog = 0 :=
  List.countP_eq_zero.mpr fun y hy => by simp [(facts_of_isOutside (h y hy)).1]

theorem order?_of_outside (h : ∀ y ∈ past, y.request.IsOutside) : Talk.order? past = none :=
  List.findSome?_eq_none_iff.mpr fun y hy => (facts_of_isOutside (h y hy)).2.1

theorem not_mayAbort_of_outside {x : Transaction} (h : ∀ y ∈ past, y.request.IsOutside) :
    ¬x.mayAbort past := by
  rintro ⟨hlast, -⟩
  rcases List.eq_nil_or_concat past with rfl | ⟨front, y, rfl⟩
  · exact Bool.false_ne_true hlast
  · rw [List.concat_eq_append, List.getLast?_concat, Option.any_some,
      (facts_of_isOutside (h y (by simp))).2.2] at hlast
    exact Bool.false_ne_true hlast

/-- **What an attempt does before its unit of work**: the draft answers the request at the time of the last
reading. -/
theorem audited_prepare :
    (prepare request lines).Audited (place settings request lines).audit HostRequest.IsOutside
      (fun past draft => ∃ now, Talk.time? past = some now ∧ draft.Answers request lines now) [] := by
  refine .demand trivial (fun _ => rfl) fun products => ?_
  show (error? (lines.mapM (quote products)) = none → _) ∧
    ∀ error, error? (lines.mapM (quote products)) = some error → _
  rw [mapM_itemFor_eq_settled]
  cases hitems : lines.mapM (quote products) with
  | error error => exact ⟨nofun, fun error' herror => by cases herror; rfl⟩
  | ok items =>
  refine ⟨fun _ => ?_, nofun⟩
  obtain ⟨hlines, hpositive⟩ := forall_of_mapM_quote hitems
  have hempty : ([] : List OrderLine).length = ([] : List StockRecord).length := rfl
  refine audited_covered (List.nil_append lines) hempty rfl hpositive ?_ fun more hmore => ?_
  · rintro rfl
    rfl
  refine .ask (r := .now) trivial fun (now : Instant) => ?_
  let listed : Exchange := ⟨.store (.productsOf (lines.map OrderLine.product)), .ok products⟩
  have hbegin : (listed :: more).any isBegin = false :=
    List.any_eq_false.mpr fun y hy => by
      rcases List.mem_cons.mp hy with rfl | hy
      · exact Bool.false_ne_true
      · rw [(hmore y hy).2]
        exact Bool.false_ne_true
  have hrule : (place settings request lines).timeRule (listed :: more) now =
      refusal? (Draft.prepare request.user items request.receiver request.discount
        request.shipping request.remark now) := by
    have hlisted : (listed :: more).findSome? products? = some products := rfl
    rw [timeRule, hbegin, hlisted, Option.bind_some, hitems]
    rfl
  show ((place settings request lines).timeRule (listed :: more) now = none → _) ∧
    ∀ error, (place settings request lines).timeRule (listed :: more) now = some error → _
  rw [hrule]
  refine rule_cases (bind_pure _).symm fun draft hdraft heq => ?_
  rw [heq]
  obtain ⟨rfl, huser, hnumber, hcreated⟩ := Draft.of_prepare hdraft
  exact .pure ⟨now, Talk.time?_now now, hlines, huser, hnumber, hcreated⟩

/-! ## Transactions -/

variable {x : Transaction} {talk : Talk}

/-- A transaction that asks nothing before its unit of work. -/
theorem disciplined_alone {α : Type} {component : String} {body : Call α} {afterword : α → Call α}
    {R : Talk → α → Prop} {outcome : Option (Except ServiceError α)}
    (hbody : body.Audited x.audit HostRequest.IsInside R [begun (.ok ())])
    (hafter : Audit.IsAfterword afterword)
    (hends : (inUnit component body >>= afterword).Ends talk outcome) :
    x.audit.Disciplined R talk outcome := by
  rw [← List.nil_append talk]
  exact Audit.disciplined_inUnit (List.forall_mem_nil _) Audit.clear_nil rfl hbody hafter hends

/-- A transaction that reads the clock before its unit of work, and moves an order alone. -/
theorem disciplined_moveIn {id : OrderId} {move : Order → Instant → Except Refusal Order}
    {message : String} {outcome : Option (Except ServiceError Order)} (howner : x.owner? = none)
    (htime : ∀ past now, x.timeRule past now = none)
    (horder : ∀ past now order, Talk.time? past = some now →
      x.orderRule past id order = refusal? (move order now))
    (hends : (do
      let now ← now
      let order ← inUnit component (moveIn id (move · now))
      reportMove order message
      return order).Ends talk outcome) :
    x.audit.Disciplined (fun _ _ => True) talk outcome := by
  have hprep : Call.now.Audited x.audit HostRequest.IsOutside
      (fun past now => Talk.time? past = some now) [] := by
    rw [← bind_pure Call.now]
    exact .heard (r := .now) trivial fun now => ⟨htime [] now, .pure (Talk.time?_now now)⟩
  refine Audit.disciplined_of_audited hprep (fun past => not_mayAbort_of_outside) (fun _ => rfl)
    (fun now past _ hnow => ?_) (Audit.isAfterword_log _) hends
  refine audited_moveIn howner fun order => horder _ now order ?_
  rw [Talk.time?_append (by simp [begun, time?]), hnow]

/-- **One attempt to create an order.** -/
theorem disciplined_place {outcome : Option (Except ServiceError Order)}
    (hends : (tryCreate settings request lines).Ends talk outcome) :
    (place settings request lines).audit.Disciplined (fun talk order => ∃ before body draft now,
      talk = before ++ begun (.ok ()) :: body ∧ Talk.time? before = some now ∧
      draft.Answers request lines now ∧ Placed settings.reservationTtl draft order body)
      talk outcome := by
  have hends' : (prepare request lines >>= fun draft =>
      inUnit component (placeIn settings draft) >>= pure).Ends talk outcome := by
    simpa only [bind_pure, tryCreate] using hends
  refine Audit.disciplined_of_audited audited_prepare (fun past => not_mayAbort_of_outside)
    (fun _ => rfl) (fun draft past houtside hdraft => ?_) Audit.isAfterword_pure hends'
  refine (audited_placeIn (by simp [begun, isBegin]) ?_ ?_).mono fun order past' => ?_
  · simp [countP_isLog_of_outside houtside, begun, isLog]
  · rw [Talk.order?, List.findSome?_append]
    rw [show past.findSome? Exchange.order? = none from order?_of_outside houtside]
    rfl
  · rintro ⟨body, rfl, hplaced⟩
    obtain ⟨now, htime, hanswers⟩ := hdraft
    exact ⟨past, body, draft, now, by simp, htime, hanswers, hplaced⟩

/-- **Every conversation of a transaction is disciplined.** -/
theorem disciplined_of_ends (x : Transaction) {outcome : Option (Except ServiceError x.Result)}
    (hends : x.program.Ends talk outcome) : x.audit.Disciplined (fun _ _ => True) talk outcome := by
  cases x with
  | reserve settings product quantity order ttl =>
    refine disciplined_alone ?_ Audit.isAfterword_pure (by rwa [bind_pure])
    refine (audited_reserveIn (fun _ => rfl) (fun now record => ?_) rfl).mono fun _ _ _ => trivial
    rw [recordRule, Talk.time?_now]
    rfl
  | release product quantity order target =>
    refine disciplined_alone ?_ Audit.isAfterword_pure (by rwa [bind_pure])
    refine (audited_settleIn (.release target) (fun _ => rfl) (fun _ _ => rfl)
      fun now reservation record => ?_).mono fun _ _ _ => trivial
    rw [recordRule, Talk.time?_append (by simp [answered, time?]), Talk.time?_now]
    rfl
  | deduct product quantity order =>
    refine disciplined_alone ?_ Audit.isAfterword_pure (by rwa [bind_pure])
    refine (audited_settleIn .deduct (fun _ => rfl) (fun _ _ => rfl)
      fun now reservation record => ?_).mono fun _ _ _ => trivial
    rw [recordRule, Talk.time?_append (by simp [answered, time?]), Talk.time?_now]
    rfl
  | restock product quantity reason operator =>
    cases hquantity : ensurePositive quantity with
    | error refusal =>
      rw [program, StockService.restock, hquantity] at hends
      obtain ⟨rfl, rfl⟩ := Ends.of_throw hends
      exact .refused
    | ok u =>
      rw [program, StockService.restock, hquantity] at hends
      exact disciplined_alone audited_restockIn (Audit.isAfterword_log _) hends
  | adjust product delta reason operator =>
    exact disciplined_alone audited_adjustIn (Audit.isAfterword_log _) hends
  | pay user order =>
    have hbody : (payIn user order).Audited (pay user order).audit HostRequest.IsInside
        (fun _ _ => True) [begun (.ok ())] := by
      rw [payIn_eq_moveAll]
      refine audited_moveAll rfl (fun found howned => ?_) (fun found now => ?_) rfl rfl
        fun _ _ _ _ _ hk hready => audited_deductItem hk hready
      · exact if_pos howned
      · rw [timeRule, List.getLast?_concat]
        rfl
    exact disciplined_alone hbody (Audit.isAfterword_log _) hends
  | cancel user order =>
    have hbody : (cancelIn user order).Audited (cancel user order).audit HostRequest.IsInside
        (fun _ _ => True) [begun (.ok ())] := by
      rw [cancelIn_eq_moveAll]
      refine audited_moveAll rfl (fun found howned => ?_) (fun found now => ?_) rfl rfl
        fun _ _ _ _ _ hk hready => audited_releaseItem hk hready
      · exact if_pos howned
      · rw [timeRule, List.getLast?_concat]
        rfl
    exact disciplined_alone hbody (Audit.isAfterword_log _) hends
  | ship order =>
    refine disciplined_moveIn rfl (fun _ _ => rfl) (fun past now found hnow => ?_) hends
    rw [orderRule, hnow]
    rfl
  | complete order =>
    refine disciplined_moveIn rfl (fun _ _ => rfl) (fun past now found hnow => ?_) hends
    rw [orderRule, hnow]
    rfl
  | place settings request lines => exact (disciplined_place hends).mono fun _ _ _ => trivial

/-- **Every transaction is disciplined**, whoever answers: it asks the rest only while no answer is
objected to, commits the one unit of work that it opens exactly if none was, rolls it back otherwise,
and ends with the first objection. -/
theorem disciplined (x : Transaction) (surroundings : Surroundings) :
    x.audit.Disciplined (fun _ _ => True) (x.program.run.converse surroundings []).1
      (x.program.run.converse surroundings []).2 :=
  x.disciplined_of_ends (Program.ends_converse surroundings [] x.program.run)

/-! ### A call that is given up -/

/-- A store in which every condition holds, and which finds the same record again and again. -/
def obligingStore (record : StockRecord) : (request : StoreRequest) →
    Except StoreError request.Result
  | .begin | .commit | .rollback => .ok ()
  | .within (.findStock _) => .ok (some record)
  | .within (.replaceStock ..) => .ok true
  | .within (.insertReservation _) | .within (.appendEntry _) => .ok ()
  | _ => .error (.operationFailed "not asked")

/-- The obliging store at the beginning of 1970. -/
def obliging (record : StockRecord) : Surroundings := fun _ request =>
  match request with
  | .store request => obligingStore record request
  | .now => ⟨0⟩
  | .freshId => ⟨0⟩
  | .log _ | .sleep _ => ()

/-- A reservation for the longest span. -/
def endless : Transaction := reserve .standard ⟨1⟩ 3 ⟨7⟩ (some ⟨Span.limit⟩)

/-- What is said about the endless reservation, where it covers. -/
def endlessTalk : Talk :=
  (endless.program.run.converse (obliging ⟨⟨1⟩, 10, 0, 0, 0, ⟨0⟩, ⟨0⟩⟩) []).1

/-- **Not every unit of work that is opened is committed or rolled back**: the endless reservation would
end outside the calendar, and is given up after its record was replaced. -/
theorem abandoned : ¬∀ (x : Transaction) (surroundings : Surroundings),
    begun (.ok ()) ∈ (x.program.run.converse surroundings []).1 →
      ∃ y ∈ (x.program.run.converse surroundings []).1,
        y.request = .store .commit ∨ y.request = .store .rollback := by
  intro h
  have hrequests : endlessTalk.map Exchange.request =
      [ .store .begin, .now, .store (.within (.findStock ⟨1⟩)),
        .store (.within (.replaceStock ⟨⟨1⟩, 7, 3, 0, 1, ⟨0⟩, ⟨0⟩⟩ 0)) ] := by
    decide +kernel
  have hbegun : begun (.ok ()) ∈ endlessTalk := List.mem_cons_self
  obtain ⟨y, hy, hrequest⟩ := h endless _ hbegun
  have hmem : y.request ∈ endlessTalk.map Exchange.request := List.mem_map_of_mem hy
  rw [hrequests] at hmem
  rcases hrequest with hrequest | hrequest <;> simp [hrequest] at hmem

end Transaction

end Stockroom
