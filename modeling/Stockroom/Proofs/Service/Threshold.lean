import Stockroom.Proofs.Crowd.Call
import Stockroom.Proofs.Crowd.Terms
import Stockroom.Proofs.Store.Threshold

/-!
# Proofs/Service/Threshold — what each call does to thresholds

A call that sets a threshold asks for exactly that, as its last request (`meets_setThreshold`), and one
that registers a product asks for the threshold that it was given (`meets_register`).  All other calls
write records as a whole at most, and **a whole record that is written carries the threshold along
that the unit of work showed for it** (`ServiceCall.carries`), whatever others do in the meantime.

What a call is answered does not matter for this, so each call is gone through once, request by request.
-/

namespace Stockroom

open Store

/-- What every request of a call satisfies: a whole record is only written for a product `on` which the
call may do so, with the threshold that the unit of work shows for it. -/
def Carried (on : ProductId → Prop) (d : Desk) : HostRequest → Store → Prop
  | .store (.within (.replaceStock next _)), _ =>
    ∃ u product live, on product ∧ d.unit = some u ∧ u.working.liveStock? product = some live ∧
      live.SameThreshold next
  | .store (.createStock _), _ | .store (.setThreshold ..), _ => False
  | _, _ => True

/-- **A call that carries thresholds along.** -/
def Call.Carries {α : Type} (on : ProductId → Prop) (p : Call α) : Prop :=
  ∀ d s, p.Meets (.always (Carried on)) (fun _ _ _ => True) (fun _ _ _ => True) d s

namespace Call

variable {α β : Type} {on : ProductId → Prop}

theorem post_trivial (x : Except ServiceError α) (d : Desk) (s : Store) :
    Post (fun _ _ _ => True) (fun _ _ _ => True) x d s := by
  cases x <;> exact trivial

namespace Carries

theorem pure (a : α) : (Pure.pure a : Call α).Carries on := fun _ _ _ _ => trivial

theorem throw (error : ServiceError) : (throw error : Call α).Carries on := fun _ _ _ _ => trivial

theorem bind {p : Call α} {f : α → Call β} (h : p.Carries on) (hf : ∀ a, (f a).Carries on) :
    (p >>= f).Carries on := fun d s =>
  (h d s).seq fun a d' s' _ => hf a d' s'

theorem caught {p : Call α} (h : p.Carries on) : Call.Carries on (ExceptT.lift p.run) := fun d s =>
  Program.Meets.bind (h d s) fun _ _ _ _ _ _ => trivial

/-- A request that writes no record. -/
theorem request {r : HostRequest} (hr : ∀ d s, Carried on d r s) :
    Call.Carries on (ExceptT.lift (Program.request (I := Host) r)) := fun d _ =>
  Meets.request fun s' _ => ⟨hr d s', fun _ _ => trivial⟩

theorem demand {r : StoreRequest} (hr : ∀ d s, Carried on d (.store r) s) :
    (Call.demand r).Carries on :=
  bind (request hr) fun answer => by
    cases answer with
    | ok result => exact pure result
    | error error => exact throw _

theorem now : Call.now.Carries on := request fun _ _ => trivial

theorem freshId : Call.freshId.Carries on := request fun _ _ => trivial

theorem sleep (millis : Nat) : (Call.sleep millis).Carries on := request fun _ _ => trivial

theorem log (record : LogRecord) : (Call.log record).Carries on := request fun _ _ => trivial

theorem obey (x : Except Refusal α) : (Call.obey x).Carries on := by
  cases x with
  | ok a => exact pure a
  | error refusal => exact throw _

theorem orAbort (x : Option α) : (Call.orAbort x).Carries on := by
  cases x with
  | some a => exact pure a
  | none => exact fun _ _ => trivial

theorem insist {p : Call Bool} {otherwise : ServiceError} (h : p.Carries on) :
    (Call.insist p otherwise).Carries on :=
  bind h fun held => by
    cases held with
    | true => exact pure ()
    | false => exact throw otherwise

theorem mapM {f : β → Call α} (hf : ∀ b, (f b).Carries on) (bs : List β) :
    (bs.mapM f).Carries on := by
  induction bs with
  | nil => exact pure []
  | cons b bs ih =>
    rw [List.mapM_cons]
    exact bind (hf b) fun _ => bind ih fun _ => pure _

theorem forM {f : β → Call PUnit} (hf : ∀ b, (f b).Carries on) (bs : List β) :
    (bs.forM f).Carries on := by
  induction bs with
  | nil => exact pure _
  | cons b bs ih => exact bind (hf b) fun _ => ih

theorem inUnit {component : String} {body : Call α} (h : body.Carries on) :
    (Call.inUnit component body).Carries on := by
  refine bind (demand fun _ _ => trivial) fun _ => bind h.caught fun result => ?_
  cases result with
  | ok a => exact bind (demand fun _ _ => trivial) fun _ => pure a
  | error cause =>
    refine bind (bind (request fun _ _ => trivial) fun answer => ?_) fun _ => throw cause
    cases answer with
    | ok _ => exact pure ()
    | error failure => exact log _

end Carries

end Call

/-! ## Movements of stock -/

namespace StockService

open Call

variable {α : Type} {on : ProductId → Prop}

theorem carries_loadStock {product : ProductId} : (loadStock product).Carries on :=
  .bind (.demand fun _ _ => trivial) fun found => by
    cases found with
    | some record => exact .pure _
    | none => exact .throw _

/-- **A record that is read, moved and written back**, where the move keeps the threshold. -/
theorem carries_guarded {product : ProductId} (hon : on product)
    {move : StockRecord → Except Refusal StockRecord}
    (hmove : ∀ {current next}, move current = .ok next → current.SameThreshold next)
    {rest : StockRecord → StockRecord → Call α}
    (hrest : ∀ current next, (rest current next).Carries on) :
    (do
      let current ← StockService.loadStock product
      let next ← Call.obey (move current)
      StockService.replaceGuarded current next
      rest current next).Carries on := by
  intro d s
  have hload : (StockService.loadStock product).Meets (.always (Carried on)) (fun current d _ =>
      ∃ u, d.unit = some u ∧ u.working.liveStock? product = some current)
      (fun _ _ _ => True) d s := by
    refine Meets.seq (Q := fun found d _ => ∃ u, d.unit = some u ∧
      u.working.liveStock? product = found) (Meets.demand fun s' _ => ⟨trivial, ?_⟩) ?_
    · cases hunit : d.unit with
      | none => exact ⟨_, _, rfl, fun _ _ => trivial⟩
      | some u => exact ⟨_, _, rfl, fun _ _ => ⟨u, rfl, rfl⟩⟩
    · rintro found d s ⟨u, hunit, rfl⟩
      cases hfound : u.working.liveStock? product with
      | none => exact Meets.throw fun _ _ => trivial
      | some current => exact Meets.pure fun _ _ => ⟨u, hunit, hfound⟩
  refine hload.seq ?_
  rintro current d s ⟨u, hunit, hlive⟩
  refine Meets.obey_bind (fun next hnext => ?_) fun _ _ _ _ => trivial
  refine Meets.seq (Q := fun _ _ _ => True) (Meets.insist (Meets.demand fun s' _ => ?_))
    fun _ d s _ => hrest current next d s
  refine ⟨⟨u, product, current, hon, hunit, hlive, hmove hnext⟩, _, _, rfl, fun _ _ => ?_⟩
  simp only [ite_self]
  exact post_trivial ..

variable {product : ProductId}

theorem carries_loadSettleable {product : ProductId} {order : OrderId} {quantity : Int} :
    (loadSettleable product order quantity).Carries on :=
  .bind (.demand fun _ _ => trivial) fun found => by
    cases found with
    | some reservation => exact .bind (.obey _) fun _ => .pure _
    | none => exact .throw _

theorem carries_settle {product : ProductId} {order : OrderId} {status : ReservationStatus}
    {now : Instant} : (settle product order status now).Carries on := by
  unfold settle
  exact .insist (.demand fun _ _ => trivial)

theorem carries_reserveIn (hon : on product) {quantity : Int} {order : OrderId} {ttl : Span} :
    (reserveIn product quantity order ttl).Carries on :=
  .bind .now fun _ => carries_guarded hon .reserve fun _ _ =>
    .bind (.bind (.orAbort _) fun _ => .obey _) fun _ =>
      .bind (.demand fun _ _ => trivial) fun _ => .bind (.demand fun _ _ => trivial) fun _ =>
        .bind (.log _) fun _ => .pure _

theorem carries_releaseIn (hon : on product) {quantity : Int} {order : OrderId}
    {target : ReleaseTarget} : (releaseIn product quantity order target).Carries on :=
  .bind .now fun _ => .bind carries_loadSettleable fun _ =>
    carries_guarded hon .release fun _ _ => .bind carries_settle fun _ =>
      .bind (.demand fun _ _ => trivial) fun _ => .bind (.log _) fun _ => .pure _

theorem carries_deductIn (hon : on product) {quantity : Int} {order : OrderId} :
    (deductIn product quantity order).Carries on :=
  .bind .now fun _ => .bind carries_loadSettleable fun _ =>
    carries_guarded hon .deduct fun _ _ => .bind carries_settle fun _ =>
      .bind (.demand fun _ _ => trivial) fun _ => .bind (.log _) fun _ => .pure _

theorem carries_adjustIn (hon : on product) {delta : Int} {reason : Option String}
    {operator : Option OperatorId} : (adjustIn product delta reason operator).Carries on :=
  .bind .now fun _ => carries_guarded hon .adjust fun _ _ =>
    .bind (.demand fun _ _ => trivial) fun _ => .pure _

/-- A restock writes no whole record. -/
theorem carries_restockIn {product : ProductId} {quantity : Int} {reason : Option String}
    {operator : Option OperatorId} : (restockIn product quantity reason operator).Carries on :=
  .bind .now fun _ => .bind carries_loadStock fun _ => .bind (.obey _) fun _ =>
    .bind (.insist (.demand fun _ _ => trivial)) fun _ => .bind carries_loadStock fun _ =>
      .bind (.demand fun _ _ => trivial) fun _ => .pure _

theorem carries_stockOf {product : ProductId} : (stockOf product).Carries on :=
  .bind (.demand fun _ _ => trivial) fun found => by
    cases found with
    | some record => exact .pure _
    | none => exact .throw _

theorem carries_checkAll {lines : List OrderLine} : (checkAll lines).Carries on :=
  .mapM (fun _ => .bind (.obey _) fun _ => .bind carries_stockOf fun _ => .pure _) lines

/-- Each expired reservation is of a product of its own. -/
theorem carries_cleanup (hon : ∀ product, on product) {settings : StockSettings} :
    (cleanup settings).Carries on := by
  refine .bind .freshId fun correlation => .bind .now fun _ =>
    .bind (.demand fun _ _ => trivial) fun expired => .bind (.mapM (fun reservation => ?_) _)
      fun outcomes => ?_
  · refine .bind (Carries.inUnit (carries_releaseIn (hon _))).caught fun outcome => ?_
    cases outcome with
    | ok _ => exact .pure _
    | error error => exact .bind (.log _) fun _ => .pure _
  · dsimp only
    split
    · exact .bind (.log _) fun _ => .pure _
    · exact .pure _

end StockService

/-! ## Orders -/

namespace OrderService

open Call StockService

variable {on : ProductId → Prop}

theorem carries_prepare {request : OrderRequest} {lines : List OrderLine} :
    (prepare request lines).Carries on := by
  refine .bind (.demand fun _ _ => trivial) fun products => .bind (.mapM (fun line => ?_) _) fun _ =>
    .bind carries_checkAll fun checks => .bind ?_ fun _ => .bind .now fun _ => .obey _
  · unfold itemFor
    split
    · exact .obey _
    · exact .throw _
  · unfold ensureCovered
    split
    · exact .throw _
    · exact .pure _

theorem carries_placeIn (hon : ∀ product, on product) {settings : StockSettings} {draft : Draft} :
    (placeIn settings draft).Carries on :=
  .bind (.demand fun _ _ => trivial) fun _ =>
    .bind (.forM (fun _ => .bind (carries_reserveIn (hon _)) fun _ => .pure _) _) fun _ => .pure _

theorem carries_attemptFrom {tryOnce : Call Order} (h : tryOnce.Carries on) {user : UserId}
    {correlation : CorrelationId} {backoff attempt : Nat} {last : ServiceError} {remaining : Nat} :
    (attemptFrom tryOnce user correlation backoff attempt last remaining).Carries on := by
  induction remaining generalizing attempt last with
  | zero => exact .bind (.log _) fun _ => .throw _
  | succ remaining ih =>
    refine .bind h.caught fun result => ?_
    cases result with
    | ok order => exact .bind (.log _) fun _ => .pure _
    | error error =>
      dsimp only
      split
      · exact .bind (.log _) fun _ => .bind (.sleep _) fun _ => ih
      · exact .throw _

theorem carries_create (hon : ∀ product, on product) {stock : StockSettings}
    {settings : OrderSettings} {request : OrderRequest} :
    (create stock settings request).Carries on :=
  .bind .freshId fun _ => .bind (.obey _) fun _ =>
    carries_attemptFrom (.bind carries_prepare fun _ => .inUnit (carries_placeIn hon))

theorem carries_loadOrder {id : OrderId} {owner : Option UserId} :
    (loadOrder id owner).Carries on := by
  refine .bind (.demand fun _ _ => trivial) fun found => ?_
  cases found with
  | none => exact .throw _
  | some order =>
    dsimp only
    split
    · exact .pure _
    · exact .throw _

theorem carries_saveMove {order : Order} {expected : OrderStatus} :
    (saveMove order expected).Carries on := by
  unfold saveMove
  exact .insist (.demand fun _ _ => trivial)

theorem carries_payIn (hon : ∀ product, on product) {user : UserId} {id : OrderId} :
    (payIn user id).Carries on :=
  .bind carries_loadOrder fun _ => .bind .now fun _ => .bind (.obey _) fun _ =>
    .bind (.forM (fun _ => .bind (carries_deductIn (hon _)) fun _ => .pure _) _) fun _ =>
      .bind carries_saveMove fun _ => .pure _

theorem carries_moveIn {id : OrderId} {move : Order → Except Refusal Order} :
    (moveIn id move).Carries on :=
  .bind carries_loadOrder fun _ => .bind (.obey _) fun _ =>
    .bind carries_saveMove fun _ => .pure _

theorem carries_cancelIn (hon : ∀ product, on product) {user : UserId} {id : OrderId} :
    (cancelIn user id).Carries on := by
  refine .bind carries_loadOrder fun _ => .bind .now fun _ => .bind (.obey _) fun _ =>
    .bind (.forM (fun item => ?_) _) fun _ => .bind carries_saveMove fun _ => .pure _
  refine .bind (.demand fun _ _ => trivial) fun reservation => ?_
  split
  · exact .log _
  · exact .bind (carries_releaseIn (hon _)) fun _ => .pure _

theorem carries_ownedBy {user : UserId} {order : Option Order} {subject : Subject} :
    (ownedBy user order subject).Carries on := by
  unfold ownedBy
  split
  · exact .pure _
  · exact .throw _

end OrderService

/-! ## Setting a threshold -/

namespace StockService

open Call

variable {product : ProductId} {threshold : Int} {d : Desk} {s : Store}

/-- A caller that has only looked its product up. -/
def Looked (product : ProductId) (d : Desk) : Prop :=
  ∀ deed ∈ d.trail, deed.request = .stockOf product ∧ deed.after = deed.before

/-- A caller that has set a threshold. -/
def Tuned (product : ProductId) (threshold : Int) (d : Desk) : Prop :=
  ∃ deed ∈ d.trail, deed.request ≠ .stockOf product ∧
    deed.after.committed.threshold? product = some threshold

/-- What a call that sets a threshold owes: it looks, and then asks for nothing else. -/
def Tunes (product : ProductId) (threshold : Int) (d : Desk) (r : HostRequest) (_ : Store) : Prop :=
  Looked product d ∧ (r = .now ∨ r = .store (.stockOf product) ∨
    ∃ now, r = .store (.setThreshold product threshold now))

theorem Tunes.answer {r : HostRequest} (hs : s.committed.KeepsProducts)
    (h : Tunes product threshold d r s) :
    (d.answer s r).2.1.unit = d.unit ∧ ((d.answer s r).2.2 = s ∨
      ∃ record : StockRecord, record.product = product ∧
        (d.answer s r).2.2.committed = s.committed.putLive product record) := by
  obtain ⟨-, rfl | rfl | ⟨now, rfl⟩⟩ := h
  · exact ⟨rfl, .inl rfl⟩
  · exact ⟨rfl, .inl rfl⟩
  rcases Session.setThreshold_cases ⟨s, d.unit⟩ product threshold now with
    ⟨live, tuned, hlive, hproduct, -, hanswer⟩ | ⟨answer, -, hanswer⟩
  · rw [Desk.answer_store (r := .setThreshold product threshold now) hanswer]
    exact ⟨rfl, .inr ⟨tuned, hproduct.trans (hs.live hlive), rfl⟩⟩
  · rw [Desk.answer_store (r := .setThreshold product threshold now) hanswer]
    exact ⟨rfl, .inl rfl⟩

/-- The terms of a call that sets a threshold. -/
def tuneTerms (product : ProductId) (threshold : Int) : Terms where
  rely _ _ := True
  refl _ := trivial
  trans _ _ := trivial
  owes := Tunes product threshold
  mayAbort := False

/-- **A call that sets a threshold** has set it if it returns a value, and else has changed nothing. -/
theorem meets_setThreshold (hd : Looked product d) :
    (setThreshold product threshold).Meets (tuneTerms product threshold)
      (fun _ d _ => Tuned product threshold d)
      (fun _ d _ => ∀ deed ∈ d.trail, deed.after = deed.before) d s := by
  have hlook : (stockOf product).Meets (tuneTerms product threshold) (fun _ d _ => Looked product d)
      (fun _ d _ => ∀ deed ∈ d.trail, deed.after = deed.before) d s := by
    refine Meets.seq (Q := fun _ d _ => Looked product d)
      (Meets.demand fun s' _ => ⟨⟨hd, .inr (.inl rfl)⟩, _, _, rfl, fun _ _ =>
        Desk.forall_after hd ⟨rfl, rfl⟩⟩) fun found d s hd => ?_
    cases found with
    | none => exact Meets.throw fun _ _ deed hdeed => (hd deed hdeed).2
    | some record => exact Meets.pure fun _ _ => hd
  refine hlook.seq fun current d s hd => ?_
  refine Meets.seq (Q := fun _ d _ => Looked product d)
    (Meets.request fun _ _ => ⟨⟨hd, .inl rfl⟩, fun _ _ => hd⟩) fun now d s hd => ?_
  refine Meets.obey_bind (fun updated _ => ?_) fun _ _ _ _ deed hdeed => (hd deed hdeed).2
  refine Meets.seq (Q := fun _ d _ => Tuned product threshold d) (Meets.insist (Meets.demand
    fun s' _ => ⟨⟨hd, .inr (.inr ⟨_, rfl⟩)⟩, ?_⟩)) fun _ _ _ htuned => Meets.pure fun _ _ => htuned
  rcases Session.setThreshold_cases ⟨s', d.unit⟩ product threshold updated.updatedAt with
    ⟨live, tuned, -, -, hthreshold, hanswer⟩ | ⟨answer, hne, hanswer⟩
  · refine ⟨_, _, hanswer, fun _ _ => ⟨_, Desk.mem_after .., nofun, ?_⟩⟩
    exact hthreshold ▸ Tables.threshold?_insert.trans (if_pos rfl)
  · refine ⟨_, _, hanswer, fun _ _ => ?_⟩
    have hquiet : ∀ deed ∈ (d.after (.setThreshold product threshold updated.updatedAt) s'
        ⟨s', d.unit⟩).trail, deed.after = deed.before :=
      Desk.forall_after (fun deed hdeed => (hd deed hdeed).2) rfl
    match answer with
    | .ok true => exact absurd rfl hne
    | .ok false => exact hquiet
    | .error _ => exact hquiet

/-- **A call that sets a threshold** has either returned a value, and then has set it, or has changed nothing
so far. -/
theorem tuned_or_quiet {p : Program Host (Except ServiceError StockRecord)}
    (h : p.Meets (tuneTerms product threshold) (Post (fun _ d _ => Tuned product threshold d)
      fun _ d _ => ∀ deed ∈ d.trail, deed.after = deed.before) d s) :
    (∃ value, p = .done (.ok value)) ∧ Tuned product threshold d ∨
      (∀ value, p ≠ .done (.ok value)) ∧ ∀ deed ∈ d.trail, deed.after = deed.before := by
  match p with
  | .done (.ok value) => exact .inl ⟨⟨value, rfl⟩, h s trivial⟩
  | .done (.error error) => exact .inr ⟨nofun, h s trivial⟩
  | .abort => exact h.elim
  | .ask request next => exact .inr ⟨nofun, fun deed hdeed => ((h s trivial).1.1 deed hdeed).2⟩

/-! ## Registering a product -/

/-- What a call that registers a product owes: it writes nothing but the record of the product. -/
def Enters (product : ProductId) (threshold : Int) (d : Desk) (r : HostRequest) (s : Store) : Prop :=
  (d.answer s r).2.2 = s ∧ (d.answer s r).2.1.unit = d.unit ∨ ∃ record, r = .store (.createStock record) ∧
    record.product = product ∧ record.threshold = threshold

theorem Enters.answer {r : HostRequest} (h : Enters product threshold d r s) :
    (d.answer s r).2.1.unit = d.unit ∧ ((d.answer s r).2.2 = s ∨
      ∃ record : StockRecord, record.product = product ∧ record.threshold = threshold ∧
        (d.answer s r).2.2.committed = s.committed.putLive product record) := by
  rcases h with ⟨heq, hunit⟩ | ⟨record, rfl, rfl, hthreshold⟩
  · exact ⟨hunit, .inl heq⟩
  rcases Session.createStock_cases ⟨s, d.unit⟩ record with hanswer | ⟨answer, hanswer⟩
  · rw [Desk.answer_store (r := .createStock record) hanswer]
    exact ⟨rfl, .inr ⟨record, rfl, hthreshold, rfl⟩⟩
  · rw [Desk.answer_store (r := .createStock record) hanswer]
    exact ⟨rfl, .inl rfl⟩

theorem meets_register {stock : Int} :
    (register product stock threshold).Meets (.always (Enters product threshold))
      (fun _ _ _ => True) (fun _ _ _ => True) d s := by
  refine Meets.seq (Q := fun _ _ _ => True)
    (Meets.request fun _ _ => ⟨.inl ⟨rfl, rfl⟩, fun _ _ => trivial⟩) fun now d s _ => ?_
  refine Meets.obey_bind (fun record hrecord => ?_) fun _ _ _ _ => trivial
  obtain ⟨-, -, hrecord⟩ := StockRecord.register_eq_ok_iff.mp hrecord
  refine Meets.seq (Q := fun _ _ _ => True) (Meets.demand fun s' _ =>
    ⟨.inl ⟨rfl, rfl⟩, _, _, rfl, fun _ _ => trivial⟩) fun found d s _ => ?_
  split
  · exact Meets.throw fun _ _ => trivial
  refine Meets.seq (Q := fun _ _ _ => True) (Meets.demand fun s' _ =>
    ⟨.inr ⟨record, rfl, hrecord ▸ rfl, hrecord ▸ rfl⟩, _, _, rfl, fun _ _ => post_trivial ..⟩)
    fun _ d s _ => ?_
  refine Meets.seq (Q := fun _ _ _ => True)
    (Meets.request fun _ _ => ⟨.inl ⟨rfl, rfl⟩, fun _ _ => trivial⟩) fun now d s _ => ?_
  exact Meets.pure fun _ _ => trivial

end StockService

/-! ## All calls -/

namespace ServiceCall

/-- The products whose records a call may write as a whole. -/
def Rewrites : ServiceCall → ProductId → Prop
  | reserve _ product .., other | release product .., other | deduct product .., other
  | adjust product .., other => product = other
  | cleanup _, _ | create .., _ | pay .., _ | cancel .., _ => True
  | _, _ => False

instance (call : ServiceCall) (product : ProductId) : Decidable (call.Rewrites product) :=
  match call with
  | reserve _ other .. | release other .. | deduct other .. | adjust other .. =>
    inferInstanceAs (Decidable (other = product))
  | cleanup _ | create .. | pay .. | cancel .. => .isTrue trivial
  | register .. | restock .. | setThreshold .. | remove _ | ship _ | complete _ | stockOf _
  | listStock _ | listLowStock _ | entriesOf .. | reservationsOf _ | checkAll _ | orderOf ..
  | orderByNumber .. | ordersOf .. => .isFalse id

/-- What the threshold of a product needs of a call. -/
def thresholdTerms : ServiceCall → Terms
  | .setThreshold product threshold => StockService.tuneTerms product threshold
  | .register product _ threshold => .always (StockService.Enters product threshold)
  | call => .always (Carried call.Rewrites)

/-- What is known of a call that is done. -/
def ThresholdPost : (call : ServiceCall) → Except ServiceError call.Result → Desk → Store → Prop
  | .setThreshold product threshold =>
    Call.Post (fun _ d _ => StockService.Tuned product threshold d)
      fun _ d _ => ∀ deed ∈ d.trail, deed.after = deed.before
  | _ => Call.Post (fun _ _ _ => True) fun _ _ _ => True

theorem thresholdTerms_rely (call : ServiceCall) (s s' : Store) : call.thresholdTerms.rely s s' := by
  cases call <;> exact trivial

open StockService OrderService in
/-- **Every call keeps to what it may do to thresholds.** -/
theorem meets_thresholdTerms (call : ServiceCall) (tape : Tape) (s : Store) :
    call.program.run.Meets call.thresholdTerms call.ThresholdPost (.fresh tape) s := by
  cases call with
  | register => exact meets_register
  | setThreshold => exact meets_setThreshold fun _ hdeed => absurd hdeed List.not_mem_nil
  | reserve => exact Call.Carries.inUnit (carries_reserveIn rfl) _ _
  | release => exact Call.Carries.inUnit (carries_releaseIn rfl) _ _
  | deduct => exact Call.Carries.inUnit (carries_deductIn rfl) _ _
  | restock => exact Call.Carries.bind (.obey _) (fun _ => .bind (.inUnit carries_restockIn) fun _ =>
      .bind (.log _) fun _ => .pure _) _ _
  | adjust => exact Call.Carries.bind (.inUnit (carries_adjustIn rfl)) (fun _ =>
      .bind (.log _) fun _ => .pure _) _ _
  | remove => exact Call.Carries.bind .now (fun _ => .bind (.insist (.demand fun _ _ => by trivial))
      fun _ => .log _) _ _
  | cleanup => exact carries_cleanup (fun _ => trivial) _ _
  | create => exact carries_create (fun _ => trivial) _ _
  | pay => exact Call.Carries.bind (.inUnit (carries_payIn fun _ => trivial)) (fun _ =>
      .bind (.log _) fun _ => .pure _) _ _
  | cancel => exact Call.Carries.bind (.inUnit (carries_cancelIn fun _ => trivial)) (fun _ =>
      .bind (.log _) fun _ => .pure _) _ _
  | ship => exact Call.Carries.bind .now (fun _ => .bind (.inUnit carries_moveIn) fun _ =>
      .bind (.log _) fun _ => .pure _) _ _
  | complete => exact Call.Carries.bind .now (fun _ => .bind (.inUnit carries_moveIn) fun _ =>
      .bind (.log _) fun _ => .pure _) _ _
  | stockOf => exact carries_stockOf _ _
  | checkAll => exact carries_checkAll _ _
  | orderOf => exact Call.Carries.bind (.demand fun _ _ => by trivial) (fun _ => carries_ownedBy) _ _
  | orderByNumber =>
    exact Call.Carries.bind (.demand fun _ _ => by trivial) (fun _ => carries_ownedBy) _ _
  | listStock => exact Call.Carries.demand (fun _ _ => by trivial) _ _
  | listLowStock => exact Call.Carries.demand (fun _ _ => by trivial) _ _
  | entriesOf => exact Call.Carries.demand (fun _ _ => by trivial) _ _
  | reservationsOf => exact Call.Carries.demand (fun _ _ => by trivial) _ _
  | ordersOf => exact Call.Carries.demand (fun _ _ => by trivial) _ _

end ServiceCall

end Stockroom
