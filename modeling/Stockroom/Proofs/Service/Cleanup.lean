import Stockroom.Proofs.Service.Alone
import Stockroom.Proofs.Store.Backlog

/-!
# Proofs/Service/Cleanup — what one cleanup collects

With nobody else around and a clock that stands still, **a cleanup collects the front of the backlog**
(`StockService.cleanup_concludes`): it always returns, releases every reservation of a live product in its
batch, and counts the others as failed.  Each release has a unit of work of its own, so one that fails leaves
the store as it was for the next.
-/

namespace Stockroom

open Store Call

variable {α β : Type} {time : Instant} {s : Store} {t : Tables} {r : Reservation}

/-! ## A clock that stands still -/

/-- Every reading of the clock says the same. -/
def Tape.Stopped (time : Instant) (tape : Tape) : Prop := ∀ i, tape.clock i = time

/-- **How a call ends with nobody else around** while the clock stands still: with a value, and `Q` holds
of the value and of the store. -/
def Call.Concludes (time : Instant) (s : Store) (p : Call α) (Q : α → Store → Prop) : Prop :=
  ∀ d : Desk, d.tape.Stopped time → ∃ a d' s', p.run.alone d s = some (.ok a, d', s') ∧
    d'.tape.Stopped time ∧ Q a s'

namespace Call.Concludes

variable {Q : α → Store → Prop} {R : β → Store → Prop}

theorem pure {a : α} (h : Q a s) : (Pure.pure a : Call α).Concludes time s Q :=
  fun d hd => ⟨a, d, s, rfl, hd, h⟩

/-- **One call after the other.** -/
theorem bind {p : Call α} {f : α → Call β} (h : p.Concludes time s Q)
    (hf : ∀ a s', Q a s' → (f a).Concludes time s' R) : (p >>= f).Concludes time s R := by
  intro d hd
  obtain ⟨a, d₁, s₁, h₁, hd₁, hQ⟩ := h d hd
  obtain ⟨b, d₂, s₂, h₂, hd₂, hR⟩ := hf a s₁ hQ d₁ hd₁
  exact ⟨b, d₂, s₂, (alone_bind h₁).trans h₂, hd₂, hR⟩

theorem freshId : Call.freshId.Concludes time s fun _ s' => s' = s :=
  fun d hd => ⟨_, { d with tape := d.tape.draw }, s, rfl, hd, rfl⟩

theorem now : Call.now.Concludes time s fun reading s' => reading = time ∧ s' = s :=
  fun d hd => ⟨_, { d with tape := d.tape.read }, s, rfl, hd, hd _, rfl⟩

theorem log (record : LogRecord) : (Call.log record).Concludes time s fun _ s' => s' = s :=
  fun d hd => ⟨_, d, s, rfl, hd, rfl⟩

/-- A request outside of a unit of work that only reads. -/
theorem demand {request : StoreRequest} {result : request.Result}
    (h : ∀ unit, Session.answer ⟨s, unit⟩ request = (.ok result, ⟨s, unit⟩)) :
    (Call.demand request).Concludes time s fun found s' => found = result ∧ s' = s :=
  fun d hd => ⟨result, _, s, Yields.alone_demand (h d.unit), hd, rfl, rfl⟩

end Call.Concludes

namespace StockService

/-! ## One reservation -/

/-- **An expired reservation of a live product is released.** -/
theorem runs_of_live {live : StockRecord} (hsound : t.Sound) (hfiled : t.Filed)
    (hlive : t.liveStock? r.product = some live) (hr : t.reservations.get? r.key = some r)
    (hactive : r.status = .active) (time : Instant) :
    (Movement.release r.product r.quantity r.order .expired time).Runs t live
      (live.next (live.available + r.quantity) (live.reserved - r.quantity) time) (t.collect time r) := by
  have hnext := hsound.release hlive hr hactive time
  have hproduct : (live.next (live.available + r.quantity) (live.reserved - r.quantity) time).product =
      r.product := (StockRecord.SameThreshold.release hnext).product.trans (hfiled.product_of_live hlive)
  refine ⟨hlive, hproduct, hnext, fun order quantity hsettles => ?_, ?_⟩
  · cases hsettles
    exact ⟨r, hr, Reservation.ensureSettleable_eq_ok_iff.mpr ⟨hactive, rfl⟩⟩
  · rw [Tables.collect, hlive]
    refine Write.applyAll_cons_iff.mpr ⟨t.putLive r.product _, ?_, Write.applyAll_cons_iff.mpr
      ⟨_, Write.apply_moveReservation_iff.mpr ⟨r, hr, hactive, by rw [hactive]; rfl, rfl⟩,
        Write.applyAll_cons_iff.mpr ⟨_, rfl, Write.applyAll_nil_iff.mpr rfl⟩⟩⟩
    exact Write.apply_replaceStock_iff.mpr ⟨live, hproduct ▸ hlive, rfl, by rw [hproduct]⟩

/-- The release of a reservation whose product was removed fails. -/
theorem releaseIn_fails {tape : Tape} (hlive : t.liveStock? r.product = none)
    (hr : t.reservations.get? r.key = some r) (hactive : r.status = .active) :
    (releaseIn r.product r.quantity r.order .expired).Fails s t tape (.notFound (.stock r.product))
      tape.read := by
  have hsettle := Reservation.ensureSettleable_eq_ok_iff (u := ()) |>.mpr ⟨hactive, rfl⟩
  rw [releaseIn_eq_settleIn]
  exact settleIn_fails_of_removed (.release .expired) hr hsettle hlive

/-- **An expired reservation is collected**, and it is said whether its product is live. -/
theorem releaseExpired_concludes {correlation : CorrelationId} (hsound : s.committed.Sound)
    (hfiled : s.committed.Filed) (hr : r ∈ s.committed.backlog time) :
    (releaseExpired correlation r).Concludes time s fun released s' =>
      released = s.committed.isLive r.product ∧ s' = ⟨s.committed.collect time r, s.nextOrder⟩ := by
  obtain ⟨hr, hexpired⟩ := (Tables.mem_backlog hfiled.reservations).mp hr
  have hactive := Reservation.active_of_isExpiredAt hexpired
  intro d hd
  cases hlive : s.committed.liveStock? r.product with
  | some live =>
    obtain ⟨d', halone, htape⟩ := Yields.alone_inUnit (d := d)
      (releaseIn_yields hfiled.reservations (runs_of_live hsound hfiled hlive hr hactive d.tape.time))
    have htime : d.tape.time = time := hd _
    refine ⟨true, d', _, alone_bind (alone_caught halone), htape ▸ hd, ?_, by rw [htime]⟩
    rw [Tables.isLive, hlive]
    rfl
  | none =>
    obtain ⟨d', halone, htape⟩ := Fails.alone_inUnit (d := d) (releaseIn_fails hlive hr hactive)
    refine ⟨false, d', s, alone_bind (alone_caught halone), htape ▸ hd, ?_, ?_⟩
    · rw [Tables.isLive, hlive]
      rfl
    · rw [Tables.collect, hlive]

/-! ## A batch -/

/-- **A batch from the backlog is collected**, one reservation after the other. -/
theorem mapM_releaseExpired_concludes {correlation : CorrelationId} {batch front back : List Reservation}
    (hsound : s.committed.Sound) (hfiled : s.committed.Filed)
    (hbacklog : s.committed.backlog time = front ++ batch ++ back) :
    (batch.mapM (releaseExpired correlation)).Concludes time s fun outcomes s' =>
      outcomes = batch.map (fun r => s.committed.isLive r.product) ∧
        s' = ⟨batch.foldl (Tables.collect time) s.committed, s.nextOrder⟩ := by
  induction batch generalizing s front with
  | nil => exact .pure ⟨rfl, rfl⟩
  | cons r batch ih =>
    have hmem : r ∈ s.committed.backlog time := by simp [hbacklog]
    have hfirst := Tables.Collects.collect hsound hfiled hmem
    have hrest := hfirst.backlog front (batch ++ back) (by simp [hbacklog])
    rw [List.mapM_cons]
    refine .bind (releaseExpired_concludes hsound hfiled hmem) ?_
    rintro released s₁ ⟨rfl, rfl⟩
    refine .bind (ih hfirst.sound hfirst.filed (hrest.trans (List.append_assoc ..).symm)) ?_
    rintro outcomes s₂ ⟨rfl, rfl⟩
    refine .pure ⟨?_, rfl⟩
    simp only [hfirst.live, List.map_cons]

/-- **What a cleanup reports on its batch**: all of it, those whose product is live, and the others. -/
def reportOn (t : Tables) (batch : List Reservation) : CleanupReport :=
  ⟨batch.length, batch.countP fun r => t.isLive r.product, batch.countP t.isStuck⟩

theorem reportOn_eq (t : Tables) (batch : List Reservation) :
    reportOn t batch = ⟨batch.length, (batch.map fun r => t.isLive r.product).count true,
      (batch.map fun r => t.isLive r.product).length -
        (batch.map fun r => t.isLive r.product).count true⟩ := by
  have hreleased : (batch.map fun r => t.isLive r.product).count true =
      batch.countP fun r => t.isLive r.product := by
    rw [List.count, List.countP_map]
    exact List.countP_congr fun r _ => by simp
  have hall := List.length_eq_countP_add_countP (l := batch) fun r => t.isLive r.product
  have hfailed : batch.countP t.isStuck = batch.countP fun r => ¬t.isLive r.product :=
    List.countP_congr fun r _ => by simp [Tables.isStuck]
  rw [reportOn, hreleased, List.length_map, hfailed]
  congr 1
  omega

/-- **A cleanup collects a batch from the front of the backlog**, and reports on it. -/
theorem cleanup_concludes (settings : StockSettings) (time : Instant) (hsound : s.committed.Sound)
    (hfiled : s.committed.Filed) :
    (cleanup settings).Concludes time s fun report s' =>
      report = reportOn s.committed ((s.committed.backlog time).take settings.cleanupBatch) ∧
        s' = ⟨((s.committed.backlog time).take settings.cleanupBatch).foldl (Tables.collect time)
          s.committed, s.nextOrder⟩ := by
  have hsplit : s.committed.backlog time = [] ++ (s.committed.backlog time).take settings.cleanupBatch ++
      (s.committed.backlog time).drop settings.cleanupBatch := by simp
  refine .bind .freshId fun correlation s' hs' => ?_
  subst hs'
  refine .bind .now ?_
  rintro reading s' ⟨rfl, rfl⟩
  have hshown (unit : Option UnitOfWork) :
      Session.answer ⟨s', unit⟩ (.expiredReservations reading settings.cleanupBatch) =
        (.ok ((s'.committed.backlog reading).take settings.cleanupBatch), ⟨s', unit⟩) := by
    rw [← Tables.expiredReservations_eq_take]
    rfl
  refine .bind (.demand hshown) ?_
  rintro expired s' ⟨rfl, rfl⟩
  refine .bind (mapM_releaseExpired_concludes hsound hfiled hsplit) ?_
  rintro outcomes s₁ ⟨rfl, rfl⟩
  rw [reportOn_eq]
  dsimp only
  split
  · exact .bind (.log _) fun _ s₂ hs₂ => .pure ⟨rfl, hs₂⟩
  · exact .pure ⟨rfl, rfl⟩

end StockService

end Stockroom
