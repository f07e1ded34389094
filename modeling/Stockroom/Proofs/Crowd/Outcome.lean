import Stockroom.Proofs.Crowd.History
import Stockroom.Proofs.Crowd.Independence
import Stockroom.Proofs.Crowd.Placement
import Stockroom.Proofs.Service.Appraisal
import Stockroom.Proofs.Service.Reserving

/-!
# Proofs/Crowd/Outcome — what becomes of an order that nobody interferes with

An attempt to create an order looks first and reserves later, and the two are written apart.  **With nobody
else around, what has been seen can be reserved**: the lines are for different products, so none of them takes
pieces from another, and no version runs out.  Only a reservation that is already there under the next number
can still be in the way.

So an order is placed exactly if it is `Placeable`, no race is ever lost, and what changes is the order, and
the record, the reservation and the entry of each of its lines (`Crowd.outcome_run`).
-/

namespace Stockroom

open Store Call

variable {s : Store} {t : Tables} {tape : Tape} {stock : StockSettings} {settings : OrderSettings}
  {request : OrderService.OrderRequest} {lines : List OrderLine} {items : List OrderItem} {draft : Draft}
  {order : Order} {error : ServiceError} {refusal : Refusal}

namespace Call.Yields

/-- **An order gets the next number of the store**, and is written in the unit of work. -/
theorem alone_insertOrder (hk : s.committed.KeepsKeys) {d : Desk} (hd : d.Mirrors t tape s) (draft : Draft) :
    ∃ d', (within (.insertOrder draft)).run.alone d s =
        some (.ok (draft.toOrder ⟨s.nextOrder⟩), d', ⟨s.committed, s.nextOrder + 1⟩) ∧
      d'.Mirrors (t.putOrder (draft.toOrder ⟨s.nextOrder⟩)) tape ⟨s.committed, s.nextOrder + 1⟩ := by
  obtain ⟨next, hstage, hmirrors⟩ := stage_mirrors (s := ⟨s.committed, s.nextOrder + 1⟩)
    (w := .insertOrder (draft.toOrder ⟨s.nextOrder⟩)) hk ⟨hd.unit, hd.tape⟩ rfl
  have hanswer : Session.answer ⟨s, d.unit⟩ (.within (.insertOrder draft)) =
      (.ok (draft.toOrder ⟨s.nextOrder⟩), ⟨⟨s.committed, s.nextOrder + 1⟩, some next⟩) := by
    rw [Session.answer_insertOrder, hstage]
    rfl
  exact ⟨_, alone_demand hanswer, hmirrors _ rfl hd.tape⟩

end Call.Yields

namespace OrderService

/-! ## One attempt -/

/-- **The items of a draft can be reserved**, as long as none of them is. -/
structure Reservable (s : Store) (draft : Draft) : Prop where
  keys : s.committed.KeepsKeys
  items : ∀ item ∈ draft.items, ∃ record, s.committed.Bookable item record
  nodup : (draft.items.map OrderItem.product).Nodup

/-- The order does not take anything away from its items. -/
theorem Reservable.bookable (h : Reservable s draft) (order : Order) :
    ∀ item ∈ draft.items, ∃ record, (s.committed.putOrder order).Bookable item record := by
  intro item hitem
  obtain ⟨record, hbookable⟩ := h.items item hitem
  exact ⟨record, ⟨hbookable.offered.live, hbookable.offered.product, hbookable.offered.bounds⟩,
    hbookable.room, hbookable.positive, hbookable.covered⟩

section Attempt

variable {d : Desk}

/-- **After the draft** an attempt opens its unit of work. -/
theorem tryCreate_of_draft (hdraft : s.committed.appraise request lines d.tape.time = .ok draft)
    (stock : StockSettings) : ∃ d₁, d₁.tape = d.tape.read ∧
      (tryCreate stock request lines).run.alone d s =
        (inUnit component (placeIn stock draft)).run.alone d₁ s := by
  obtain ⟨tape', hlooks, hread⟩ := prepare_looks s d.tape request lines
  obtain rfl := hread draft hdraft
  rw [hdraft] at hlooks
  obtain ⟨d₁, hprepared, hd₁⟩ := hlooks d rfl
  exact ⟨d₁, hd₁, alone_bind hprepared⟩

/-- **It places the order** if none of its items is reserved under the number yet. -/
theorem tryCreate_of_free (h : Reservable s draft)
    (hdraft : s.committed.appraise request lines d.tape.time = .ok draft)
    (hexpires : ∀ i, ((d.tape.clock i).after? stock.reservationTtl).isSome)
    (hfree : ∀ item ∈ draft.items, s.committed.reservation? item.product ⟨s.nextOrder⟩ = none) :
    ∃ d' t', (tryCreate stock request lines).run.alone d s =
        some (.ok (draft.toOrder ⟨s.nextOrder⟩), d', ⟨t', s.nextOrder + 1⟩) ∧
      (s.committed.putOrder (draft.toOrder ⟨s.nextOrder⟩)).Reserves stock.reservationTtl ⟨s.nextOrder⟩
        (fun i => d.tape.clock (d.tape.readings + (i + 1))) draft.items t' := by
  obtain ⟨d₁, hd₁, hdrafted⟩ := tryCreate_of_draft hdraft stock
  obtain ⟨t', tape', hyields, hreserves⟩ := reserveItems_yields (s := ⟨s.committed, s.nextOrder + 1⟩)
    d.tape.read h.keys (h.bookable (draft.toOrder ⟨s.nextOrder⟩)) h.nodup hexpires hfree
  rw [Tape.times_read] at hreserves
  obtain ⟨d', hplaced, -⟩ : ∃ d', (inUnit component (placeIn stock draft)).run.alone d₁ s =
      some (.ok (draft.toOrder ⟨s.nextOrder⟩), d', ⟨t', s.nextOrder + 1⟩) ∧ d'.tape = tape' := by
    refine Yields.alone_inUnit_of ⟨s.committed, s.nextOrder + 1⟩ fun d₂ hd₂ => ?_
    obtain ⟨d₃, hinserted, hd₃⟩ := Yields.alone_insertOrder h.keys (hd₁ ▸ hd₂) draft
    obtain ⟨d₄, hreserved, hd₄⟩ := hyields d₃ hd₃
    exact ⟨d₄, (alone_bind hinserted).trans (alone_bind hreserved), hd₄⟩
  exact ⟨d', t', hdrafted.trans hplaced, hreserves⟩

/-- **It finds the first item that is reserved already**, and nothing is placed. -/
theorem tryCreate_of_taken (h : Reservable s draft)
    (hdraft : s.committed.appraise request lines d.tape.time = .ok draft)
    (hexpires : ∀ i, ((d.tape.clock i).after? stock.reservationTtl).isSome)
    (htaken : ∃ item ∈ draft.items, s.committed.reservation? item.product ⟨s.nextOrder⟩ ≠ none) :
    ∃ clash d', (tryCreate stock request lines).run.alone d s =
      some (.error (.alreadyExists clash), d', ⟨s.committed, s.nextOrder + 1⟩) := by
  obtain ⟨d₁, hd₁, hdrafted⟩ := tryCreate_of_draft hdraft stock
  obtain ⟨clash, tape', hfails⟩ := reserveItems_fails (s := ⟨s.committed, s.nextOrder + 1⟩)
    d.tape.read h.keys (h.bookable (draft.toOrder ⟨s.nextOrder⟩)) h.nodup hexpires htaken
  obtain ⟨d', hfailed, -⟩ : ∃ d', (inUnit component (placeIn stock draft)).run.alone d₁ s =
      some (.error (.alreadyExists clash), d', ⟨s.committed, s.nextOrder + 1⟩) ∧ d'.tape = tape' := by
    refine Fails.alone_inUnit_of fun d₂ hd₂ => ?_
    obtain ⟨d₃, hinserted, hd₃⟩ := Yields.alone_insertOrder h.keys (hd₁ ▸ hd₂) draft
    obtain ⟨d₄, hreserved, hd₄⟩ := hfails.bind d₃ hd₃
    exact ⟨d₄, (alone_bind hinserted).trans hreserved, hd₄⟩
  exact ⟨clash, d', hdrafted.trans hfailed⟩

/-- **What is in the way ends the attempt**, and the store is as it was. -/
theorem tryCreate_of_error (herror : s.committed.appraise request lines d.tape.time = .error error)
    (stock : StockSettings) :
    ∃ d', (tryCreate stock request lines).run.alone d s = some (.error error, d', s) := by
  obtain ⟨tape', hlooks, -⟩ := prepare_looks s d.tape request lines
  rw [herror] at hlooks
  obtain ⟨d', hstopped, -⟩ := hlooks.stop d rfl
  exact ⟨d', hstopped⟩

end Attempt

/-! ## All attempts -/

section Attempts

variable {tryOnce : Call Order} {user : UserId} {correlation : CorrelationId} {backoff attempt : Nat}
  {d d' : Desk} {s' : Store}

theorem attemptFrom_of_ok (h : tryOnce.run.alone d s = some (.ok order, d', s'))
    (last : ServiceError) (remaining : Nat) :
    (attemptFrom tryOnce user correlation backoff attempt last (remaining + 1)).run.alone d s =
      some (.ok order, d', s') :=
  alone_bind (alone_caught h)

/-- An attempt that has not lost a race is the last one. -/
theorem attemptFrom_of_error (h : tryOnce.run.alone d s = some (.error error, d', s'))
    (herror : error.isRetryable = false) (last : ServiceError) (remaining : Nat) :
    (attemptFrom tryOnce user correlation backoff attempt last (remaining + 1)).run.alone d s =
      some (.error error, d', s') := by
  refine (alone_bind (alone_caught h)).trans ?_
  dsimp only
  rw [herror]
  rfl

/-- The first thing that a creation does is to draw an id. -/
theorem alone_freshId (tape : Tape) (s : Store) :
    freshId.run.alone (.fresh tape) s = some (.ok tape.id, .fresh tape.draw, s) := rfl

/-- **How the creation of an order ends** depends on its first attempt, unless that has lost a race. -/
theorem create_of_attempt (hmerge : OrderLine.merge request.lines = .ok lines)
    {result : Except ServiceError Order}
    (h : (tryCreate stock request lines).run.alone (.fresh tape.draw) s = some (result, d', s'))
    (hresult : ∀ error, result = .error error → error.isRetryable = false) (settings : OrderSettings) :
    ServiceCall.finish (.create stock settings request) tape s = (.done result, d', s') := by
  obtain ⟨more, hmore⟩ : ∃ more, max settings.maxAttempts 1 = more + 1 :=
    Nat.exists_eq_add_of_le' (Nat.le_max_right ..)
  refine Program.alone_eq_some_iff.mp ((alone_bind (alone_freshId tape s)).trans ?_)
  rw [hmerge, hmore]
  cases result with
  | ok order => exact attemptFrom_of_ok h neverTried more
  | error error => exact attemptFrom_of_error h (hresult error rfl) neverTried more

/-- Lines that cannot be merged are not attempted. -/
theorem create_of_unmerged (hmerge : OrderLine.merge request.lines = .error refusal)
    (stock : StockSettings) (settings : OrderSettings) (tape : Tape) (s : Store) :
    ServiceCall.finish (.create stock settings request) tape s =
      (.done (.error (.refused refusal)), .fresh tape.draw, s) := by
  refine Program.alone_eq_some_iff.mp ((alone_bind (alone_freshId tape s)).trans ?_)
  rw [hmerge]
  rfl

end Attempts

/-! ## What becomes of a request -/

/-- **A request whose order can be placed**, with its merged lines, its items and its draft.  Each line has a
price and is covered by the stock, and nothing is reserved for it under the next number. -/
structure Placeable (s : Store) (request : OrderRequest) (now : Instant) (lines : List OrderLine)
    (items : List OrderItem) (draft : Draft) : Prop where
  merged : OrderLine.merge request.lines = .ok lines
  priced : List.Forall₂ s.committed.Prices lines items
  covered : ∀ line ∈ lines, s.committed.Covers line
  accepted : Draft.prepare request.user items request.receiver request.discount request.shipping
    request.remark now = .ok draft
  free : ∀ line ∈ lines, s.committed.reservation? line.product ⟨s.nextOrder⟩ = none

theorem Placeable.appraise_eq {now : Instant} (h : Placeable s request now lines items draft)
    (hlisted : s.committed.IsListed) : s.committed.appraise request lines now = .ok draft :=
  (Tables.appraise_eq_ok_iff hlisted (OrderLine.positive_merge h.merged)).mpr
    ⟨items, h.priced, h.covered, h.accepted⟩

/-- **How a creation ends that nobody interferes with**, and the store after it. -/
inductive Outcome (stock : StockSettings) (request : OrderRequest) (tape : Tape) (s : Store) :
    Except ServiceError Order → Store → Prop
  | unmerged {refusal : Refusal} (hmerge : OrderLine.merge request.lines = .error refusal) :
      Outcome stock request tape s (.error (.refused refusal)) s
  | turnedDown {lines : List OrderLine} {error : ServiceError}
      (hmerge : OrderLine.merge request.lines = .ok lines)
      (herror : s.committed.appraise request lines tape.time = .error error) :
      Outcome stock request tape s (.error error) s
  | taken {lines : List OrderLine} {draft : Draft} {clash : Clash}
      (hmerge : OrderLine.merge request.lines = .ok lines)
      (hdraft : s.committed.appraise request lines tape.time = .ok draft)
      (htaken : ∃ line ∈ lines, s.committed.reservation? line.product ⟨s.nextOrder⟩ ≠ none) :
      Outcome stock request tape s (.error (.alreadyExists clash)) ⟨s.committed, s.nextOrder + 1⟩
  | placed {lines : List OrderLine} {items : List OrderItem} {draft : Draft} {t' : Tables}
      (h : Placeable s request tape.time lines items draft)
      (hreserves : (s.committed.putOrder (draft.toOrder ⟨s.nextOrder⟩)).Reserves stock.reservationTtl
        ⟨s.nextOrder⟩ (fun i => tape.clock (tape.readings + (i + 1))) items t') :
      Outcome stock request tape s (.ok (draft.toOrder ⟨s.nextOrder⟩)) ⟨t', s.nextOrder + 1⟩

end OrderService

/-! ## A store in order -/

/-- **A store in order**: its tables are sound, no version is about to run out, and the catalogue lists each
product under its own number. -/
structure Store.Steady (s : Store) : Prop where
  sound : s.committed.Sound
  wellKept : s.committed.WellKept
  room : s.committed.HasRoom 1
  listed : s.committed.IsListed

/-- Items are for the lines that they have the prices of. -/
theorem Store.Tables.line_of_prices (h : List.Forall₂ t.Prices lines items) :
    items.map OrderItem.line = lines := by
  induction h with
  | nil => rfl
  | cons hfirst _ ih =>
    obtain ⟨product, -, -, rfl⟩ := hfirst
    exact congrArg₂ List.cons rfl ih

namespace OrderService

/-- **What can be seen can be reserved.**  The lines are merged, so their products are different. -/
theorem reservable_of_steady (h : s.Steady) (hmerge : OrderLine.merge request.lines = .ok lines)
    (hpriced : List.Forall₂ s.committed.Prices lines items)
    (hcovered : ∀ line ∈ lines, s.committed.Covers line) (hitems : draft.items = items) :
    Reservable s draft := by
  obtain rfl := Tables.line_of_prices hpriced
  subst hitems
  have hmem {item : OrderItem} (hitem : item ∈ draft.items) :
      item.line ∈ draft.items.map OrderItem.line := List.mem_map_of_mem hitem
  refine ⟨h.wellKept.filed.reservations, fun item hitem => ?_, ?_⟩
  · obtain ⟨record, hlive, hle⟩ := hcovered _ (hmem hitem)
    have hrow := Tables.liveStock?_eq_some_iff.mp hlive
    exact ⟨record, ⟨hlive, h.wellKept.filed.product_of_live hlive, h.sound.bounds _ _ hrow⟩,
      (h.room _ _ hrow).2, OrderLine.positive_merge hmerge _ (hmem hitem), hle⟩
  · have hnodup := OrderLine.nodup_merge hmerge
    rwa [List.map_map] at hnodup

/-- **All that can become of a request** with nobody else around.  What an attempt sees before it opens its unit
of work decides, but for a reservation that is there already. -/
theorem create_outcome (h : s.Steady) (stock : StockSettings) (settings : OrderSettings)
    (request : OrderRequest) (hexpires : ∀ i, ((tape.clock i).after? stock.reservationTtl).isSome) :
    ∃ result d' s', ServiceCall.finish (.create stock settings request) tape s = (.done result, d', s') ∧
      Outcome stock request tape s result s' := by
  cases hmerge : OrderLine.merge request.lines with
  | error refusal => exact ⟨_, _, s, create_of_unmerged hmerge stock settings tape s, .unmerged hmerge⟩
  | ok lines =>
  have hpositive := OrderLine.positive_merge hmerge
  cases hdraft : s.committed.appraise request lines tape.time with
  | error error =>
    have hverdict := ServiceError.kind_of_isVerdict (Tables.isVerdict_of_appraise hdraft)
    obtain ⟨d', hattempt⟩ := tryCreate_of_error (d := .fresh tape.draw) hdraft stock
    exact ⟨_, d', s, create_of_attempt hmerge hattempt (fun _ heq => by cases heq; exact hverdict.1) settings,
      .turnedDown hmerge hdraft⟩
  | ok draft =>
  obtain ⟨items, hpriced, hcovered, haccepted⟩ := (Tables.appraise_eq_ok_iff h.listed hpositive).mp hdraft
  obtain ⟨rfl, -⟩ := Draft.of_prepare haccepted
  have hreservable := reservable_of_steady h hmerge hpriced hcovered rfl
  have hlines := Tables.line_of_prices hpriced
  by_cases hfree : ∀ line ∈ lines, s.committed.reservation? line.product ⟨s.nextOrder⟩ = none
  · have hitems : ∀ item ∈ draft.items, s.committed.reservation? item.product ⟨s.nextOrder⟩ = none :=
      fun item hitem => hfree item.line (hlines ▸ List.mem_map_of_mem hitem)
    obtain ⟨d', t', hattempt, hreserves⟩ :=
      tryCreate_of_free (d := .fresh tape.draw) hreservable hdraft hexpires hitems
    exact ⟨_, d', _, create_of_attempt hmerge hattempt nofun settings,
      .placed ⟨hmerge, hpriced, hcovered, haccepted, hfree⟩ hreserves⟩
  · push Not at hfree
    obtain ⟨line, hline, htaken⟩ := hfree
    obtain ⟨item, hitem, rfl⟩ := List.mem_map.mp (hlines ▸ hline)
    obtain ⟨clash, d', hattempt⟩ :=
      tryCreate_of_taken (d := .fresh tape.draw) hreservable hdraft hexpires ⟨item, hitem, htaken⟩
    exact ⟨_, d', _, create_of_attempt hmerge hattempt (fun _ heq => by cases heq; rfl) settings,
      .taken hmerge hdraft ⟨_, hline, htaken⟩⟩

namespace Outcome

variable {result : Except ServiceError Order} {s' : Store}

/-- **What is placeable is placed.** -/
theorem exists_order (h : Outcome stock request tape s result s') (hlisted : s.committed.IsListed)
    (hplaceable : Placeable s request tape.time lines items draft) : ∃ order, result = .ok order := by
  cases h with
  | unmerged hmerge => cases hmerge.symm.trans hplaceable.merged
  | turnedDown hmerge herror =>
    cases hmerge.symm.trans hplaceable.merged
    cases herror.symm.trans (hplaceable.appraise_eq hlisted)
  | taken hmerge _ htaken =>
    cases hmerge.symm.trans hplaceable.merged
    obtain ⟨line, hline, htaken⟩ := htaken
    exact absurd (hplaceable.free line hline) htaken
  | placed => exact ⟨_, rfl⟩

/-- **Nothing is lost to anybody**, and the store does not fail. -/
theorem not_raced (h : Outcome stock request tape s result s') :
    (∀ race, result ≠ .error (.concurrentUpdate race)) ∧
      (∀ attempts last, result ≠ .error (.retriesExhausted attempts last)) ∧
      ∀ failure, result ≠ .error (.storeFailed failure) := by
  cases h with
  | unmerged | taken | placed => exact ⟨nofun, nofun, nofun⟩
  | turnedDown _ herror =>
    have hverdict := Tables.isVerdict_of_appraise herror
    refine ⟨fun race heq => ?_, fun attempts last heq => ?_, fun failure heq => ?_⟩ <;>
      · cases heq
        cases hverdict

/-- **What the lines meet is what the call reports.** -/
theorem eq_error (h : Outcome stock request tape s result s') (hlisted : s.committed.IsListed)
    (hmerged : OrderLine.merge request.lines = .ok lines)
    (herror : s.committed.appraise request lines tape.time = .error error) : result = .error error := by
  cases h with
  | unmerged hmerge => cases hmerge.symm.trans hmerged
  | turnedDown hmerge herror' =>
    cases hmerge.symm.trans hmerged
    rw [Except.error.inj (herror'.symm.trans herror)]
  | taken hmerge hdraft =>
    cases hmerge.symm.trans hmerged
    cases hdraft.symm.trans herror
  | placed hplaceable =>
    cases hplaceable.merged.symm.trans hmerged
    cases (hplaceable.appraise_eq hlisted).symm.trans herror

end Outcome

end OrderService

/-! ## Runs -/

namespace Crowd

open OrderService

variable {catalogue : Table ProductId Product} {calls : List (ServiceCall × Tape)} {past : List Nat}

/-- **The catalogue is never changed.** -/
theorem products_run (hfits : ∀ call ∈ calls, call.1.Fits) (hpast : past.length < 2 ^ 63) :
    ((opening catalogue calls).run past).store.committed.products = catalogue := by
  have hlater : Later (fun _ => True) (opening catalogue calls).store
      ((opening catalogue calls).run past).store :=
    (assured_opening catalogue (fun _ _ => trivial) hfits).later_run (counted_opening catalogue calls)
      (by omega)
  exact (hlater.edits (wellKept_emptyStore catalogue)).keeps (P := fun t => t.products = catalogue)
    (fun _ ht he => he.products.trans ht) (wellKept_emptyStore catalogue) rfl

/-- **A short run leaves a store in order.** -/
theorem steady_run (hlisted : ∀ id product, catalogue.get? id = some product → product.id = id)
    (hfits : ∀ call ∈ calls, call.1.Fits) (hpast : past.length < 2 ^ 63) :
    ((opening catalogue calls).run past).store.Steady := by
  have hreachable := (assured_run catalogue hfits hpast).reachable
  have hsize := Nat.lt_of_le_of_lt (size_run catalogue calls past) hpast
  refine ⟨hreachable.sound, hreachable.wellKept, (hreachable.wellKept.hasRoom hsize).mono (by omega), ?_⟩
  rw [Tables.IsListed, products_run hfits hpast]
  exact hlisted

variable {ending : Program Host (Except ServiceError Order)} {desk : Desk} {s' : Store}

/-- **All about an order that nobody interferes with**, from every store that can be reached.  It is placed
exactly if the request is placeable; no race is lost, and the store does not fail.  If all lines have a price,
the first short one is reported, unless there is one without a record: then that is.  What is placed is new and
pending, has the next number, and each of its lines is reserved in its turn. -/
theorem outcome_run (catalogue : Table ProductId Product)
    (hlisted : ∀ id product, catalogue.get? id = some product → product.id = id)
    (hfits : ∀ call ∈ calls, call.1.Fits) (hpast : past.length < 2 ^ 63)
    (hs : s = ((opening catalogue calls).run past).store) (settings : OrderSettings)
    (hexpires : ∀ i, ((tape.clock i).after? stock.reservationTtl).isSome)
    (hends : ServiceCall.finish (.create stock settings request) tape s = (ending, desk, s')) :
    ((∃ order, ending = .done (.ok order)) ↔
        ∃ lines items draft, Placeable s request tape.time lines items draft) ∧
      (∃ result, ending = .done result ∧ (∀ race, result ≠ .error (.concurrentUpdate race)) ∧
        (∀ attempts last, result ≠ .error (.retriesExhausted attempts last)) ∧
        ∀ failure, result ≠ .error (.storeFailed failure)) ∧
      (∀ lines items, OrderLine.merge request.lines = .ok lines →
        List.Forall₂ s.committed.Prices lines items →
          (∀ line record, s.committed.FallsShort lines line record → ending = .done (.error (.refused
            (.insufficientStock line.product record.available line.quantity)))) ∧
          ∀ line, s.committed.Lacks lines line →
            ending = .done (.error (.notFound (.stock line.product)))) ∧
      ∀ order, ending = .done (.ok order) → ∃ lines items draft,
        Placeable s request tape.time lines items draft ∧ order = draft.toOrder ⟨s.nextOrder⟩ ∧
        order.status = .pending ∧ order.items = items ∧ s.committed.order? order.id = none ∧
        (s.committed.putOrder order).Reserves stock.reservationTtl order.id
          (fun i => tape.clock (tape.readings + (i + 1))) items s'.committed ∧
        s'.nextOrder = s.nextOrder + 1 := by
  have hsteady : s.Steady := hs ▸ steady_run hlisted hfits hpast
  have hnew : s.committed.order? ⟨s.nextOrder⟩ = none :=
    hs ▸ ((counted_opening catalogue calls).run past).order?_nextOrder
  obtain ⟨result, desk', store', hfinish, houtcome⟩ :=
    create_outcome hsteady stock settings request hexpires
  obtain ⟨rfl, hrest⟩ := Prod.mk.inj (hends.symm.trans hfinish)
  obtain ⟨rfl, rfl⟩ := Prod.mk.inj hrest
  have hdone {result' : Except ServiceError Order} :
      (Program.done result : Program Host _) = .done result' ↔ result = result' :=
    ⟨Program.done.inj, congrArg _⟩
  simp only [hdone]
  refine ⟨⟨?_, ?_⟩, ⟨result, rfl, houtcome.not_raced⟩, fun lines items hmerged hpriced => ⟨?_, ?_⟩, ?_⟩
  · rintro ⟨order, rfl⟩
    cases houtcome with
    | placed h => exact ⟨_, _, _, h⟩
  · rintro ⟨lines, items, draft, h⟩
    exact houtcome.exists_order hsteady.listed h
  · exact fun line record hshort => houtcome.eq_error hsteady.listed hmerged
      (Tables.appraise_of_short hsteady.listed (OrderLine.positive_merge hmerged) hpriced hshort)
  · exact fun line hlacks => houtcome.eq_error hsteady.listed hmerged
      (Tables.appraise_of_missing hsteady.listed (OrderLine.positive_merge hmerged) hpriced hlacks)
  · rintro order rfl
    cases houtcome with
    | placed h hreserves =>
      obtain ⟨hitems, -⟩ := Draft.of_prepare h.accepted
      exact ⟨_, _, _, h, rfl, rfl, hitems, hnew, hreserves, rfl⟩

/-- The store once the tea is registered. -/
def teaStore : Store := ((opening (Table.empty.insert ⟨1⟩ tea) teaCalls).run (List.replicate 4 0)).store

def teaTape : Tape := .unused (fun _ => ⟨0⟩) fun _ => ⟨0⟩

/-- **A user orders two of the five cups.** -/
theorem outcome_run_tea : ∃ order desk s',
    ServiceCall.finish (.create .standard .standard (teaFor ⟨8⟩)) teaTape teaStore =
        (.done (.ok order), desk, s') ∧
      (∃ items draft, Placeable teaStore (teaFor ⟨8⟩) ⟨0⟩ [⟨⟨1⟩, 2⟩] items draft) ∧
      order.status = .pending ∧ order.id = ⟨1⟩ ∧ teaStore.committed.order? ⟨1⟩ = none ∧
      (teaStore.committed.putOrder order).Reserves StockSettings.standard.reservationTtl ⟨1⟩
        (fun _ => ⟨0⟩) order.items s'.committed ∧ s'.nextOrder = 2 := by
  have hlisted : ∀ id product, (Table.empty.insert ⟨1⟩ tea : Table ProductId Product).get? id =
      some product → product.id = id := by
    intro id product hproduct
    rw [Table.get?_insert] at hproduct
    split at hproduct
    · next hid =>
      cases hproduct
      exact hid.symm
    · cases hproduct
  have hrun : ∃ order desk s',
      ServiceCall.finish (.create .standard .standard (teaFor ⟨8⟩)) teaTape teaStore =
        (.done (.ok order), desk, s') := ⟨_, _, _, rfl⟩
  obtain ⟨order, desk, s', hends⟩ := hrun
  have hfits : ∀ call ∈ teaCalls, call.1.Fits := by
    simp [teaCalls, teaFor, ServiceCall.Fits]
    decide
  obtain ⟨-, -, -, hplaced⟩ := outcome_run (s := teaStore) (Table.empty.insert ⟨1⟩ tea) hlisted hfits
    (by decide : (List.replicate 4 0).length < 2 ^ 63) rfl .standard (fun _ => rfl) hends
  obtain ⟨lines, items, draft, hplaceable, rfl, hpending, rfl, hnew, hreserves, hnext⟩ := hplaced order rfl
  have hid : teaStore.nextOrder = 1 := by decide +kernel
  obtain rfl : [⟨⟨1⟩, 2⟩] = lines := Except.ok.inj hplaceable.merged
  rw [hid] at hends hnew hreserves hnext hpending
  exact ⟨_, desk, s', hends, ⟨_, _, hplaceable⟩, hpending, rfl, hnew, hreserves, hnext⟩

end Crowd

end Stockroom
