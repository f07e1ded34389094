import Stockroom.Proofs.Crowd.Desk
import Stockroom.Proofs.Crowd.Terms

/-!
# Proofs/Service/Race — reservations that race for one record

A `Racer` is one call to reserve pieces of a product for an order of its own.  While it waits it can
be outrun: the record of the product may have moved on, in which case it has a newer version, but its
own reservation is as it was (`Racer.terms`).  In return it changes the store at most by its
`Books`.

**A racer is not aborted and ends in one of three ways** (`Racer.meets`): it has booked, or there was
too little stock, or it has lost the race; and unless it wanted more than there was at first, a racer
that has not booked has been outrun.
-/

namespace Stockroom

open Store

/-! ## The record -/

/-- The record of a product that is for sale, within its bounds. -/
structure Store.Tables.Offers (t : Tables) (product : ProductId) (record : StockRecord) : Prop where
  live : t.liveStock? product = some record
  product : record.product = product
  bounds : record.InBounds

/-- Whether a record is still there or has given way to a newer version. -/
def StockRecord.Yields (r r' : StockRecord) : Prop := r' = r ∨ r.version < r'.version

namespace StockRecord

variable {r r' r'' : StockRecord} {quantity : Int} {now : Instant} {refusal : Refusal}

theorem Yields.trans (h : r.Yields r') (h' : r'.Yields r'') : r.Yields r'' := by
  rcases h' with rfl | h'
  · exact h
  rcases h with rfl | h
  · exact .inr h'
  · exact .inr (Int.lt_trans h h')

/-- A record that yields to one of another version is outdated. -/
theorem Yields.lt_of_ne (h : r.Yields r') (hne : r'.version ≠ r.version) :
    r.version < r'.version :=
  h.resolve_left fun heq => hne (congrArg version heq)

theorem Yields.eq_of_version (h : r.Yields r') (heq : r'.version = r.version) : r' = r :=
  h.resolve_right (by omega)

/-- **Within its bounds a record turns a positive quantity down only if it has fewer pieces.** -/
theorem reserve_eq_error (h : r.InBounds) (hquantity : 0 < quantity)
    (herror : r.reserve quantity now = .error refusal) :
    r.available < quantity ∧ refusal = .insufficientStock r.product r.available quantity := by
  by_cases hcovers : quantity ≤ r.available
  · cases herror.symm.trans (reserve_of_covered h hquantity hcovers now)
  · have hshort := Int.not_le.mp hcovers
    exact ⟨hshort, Except.error.inj (herror.symm.trans (reserve_of_short hquantity hshort))⟩

end StockRecord

/-! ## Racers -/

/-- **One call to reserve pieces of a product**, all but the product. -/
structure Racer where
  settings : StockSettings
  quantity : Int
  order : OrderId
  ttl : Option Span
  tape : Tape

/-- What a racer does when it wins: it reserves its quantity for its order. -/
def Racer.Books (r : Racer) (product : ProductId) (t t' : Tables) : Prop :=
  ∃ record next expiresAt now, t.liveStock? product = some record ∧
    record.reserve r.quantity now = .ok next ∧ t.reservation? product r.order = none ∧
    t'.liveStock? product = some next ∧
    t'.reservations =
      t.reservations.insert ⟨product, r.order⟩ (.start product r.order r.quantity expiresAt now)

/-- What others may do while a racer waits. -/
structure Racer.OutrunBy (r : Racer) (product : ProductId) (s s' : Store) : Prop where
  reservation : s'.committed.reservation? product r.order = s.committed.reservation? product r.order
  record : ∀ record, s.committed.Offers product record →
    ∃ record', s'.committed.Offers product record' ∧ record.Yields record'

namespace Racer

variable {r : Racer} {product : ProductId} {record seen next : StockRecord} {s s' s'' : Store}
  {d : Desk}

def call (r : Racer) (product : ProductId) : ServiceCall × Tape :=
  (.reserve r.settings product r.quantity r.order r.ttl, r.tape)

/-- How long the reservation of a racer is to last. -/
def span (r : Racer) : Span := r.ttl.getD r.settings.reservationTtl

theorem OutrunBy.refl (s : Store) : r.OutrunBy product s s :=
  ⟨rfl, fun record h => ⟨record, h, .inl rfl⟩⟩

theorem OutrunBy.trans (h : r.OutrunBy product s s') (h' : r.OutrunBy product s' s'') :
    r.OutrunBy product s s'' where
  reservation := h'.reservation.trans h.reservation
  record record hrecord := by
    obtain ⟨record', hrecord', hyields⟩ := h.record record hrecord
    obtain ⟨record'', hrecord'', hyields'⟩ := h'.record record' hrecord'
    exact ⟨record'', hrecord'', hyields.trans hyields'⟩

/-- **The terms of a racer.** -/
def terms (r : Racer) (product : ProductId) : Terms where
  rely := r.OutrunBy product
  refl := OutrunBy.refl
  trans := OutrunBy.trans
  owes d request s := (d.answer s request).2.2 = s ∨
    r.Books product s.committed (d.answer s request).2.2.committed
  mayAbort := False

theorem terms_lenient (r : Racer) (product : ProductId) : (r.terms product).Lenient :=
  fun _ _ _ => .inl

/-! ### What a racer knows -/

/-- A racer that has seen a record and has not booked. -/
structure Waits (r : Racer) (product : ProductId) (seen : StockRecord) (s : Store) : Prop where
  free : s.committed.reservation? product r.order = none
  offered : ∃ record, s.committed.Offers product record ∧ seen.Yields record

/-- A racer that has its reservation. -/
def Booked (r : Racer) (product : ProductId) (s : Store) : Prop :=
  ∃ booking, s.committed.reservation? product r.order = some booking ∧
    booking.status = .active ∧ booking.quantity = r.quantity

/-- Whether a record has a newer version by now. -/
def Outdated (product : ProductId) (record : StockRecord) (s : Store) : Prop :=
  ∃ record', s.committed.Offers product record' ∧ record.version < record'.version

/-- **How a racer can lose**: it was outrun, or it wanted more than there was at first. -/
structure Lost (r : Racer) (product : ProductId) (record : StockRecord) (error : ServiceError)
    (s : Store) : Prop where
  free : s.committed.reservation? product r.order = none
  cause : (∃ available, error = .refused (.insufficientStock product available r.quantity)) ∧
      record.available < r.quantity ∨
    ((∃ available, error = .refused (.insufficientStock product available r.quantity)) ∨
      ∃ race, error = .concurrentUpdate race) ∧ Outdated product record s

theorem Waits.later (h : r.Waits product seen s) (hs : r.OutrunBy product s s') :
    r.Waits product seen s' := by
  obtain ⟨record, hrecord, hyields⟩ := h.offered
  obtain ⟨record', hrecord', hyields'⟩ := hs.record record hrecord
  exact ⟨hs.reservation.trans h.free, record', hrecord', hyields.trans hyields'⟩

theorem Booked.later (h : r.Booked product s) (hs : r.OutrunBy product s s') :
    r.Booked product s' := by
  obtain ⟨booking, hbooking, hkept⟩ := h
  exact ⟨booking, hs.reservation.trans hbooking, hkept⟩

theorem Outdated.later (h : Outdated product record s) (hs : r.OutrunBy product s s') :
    Outdated product record s' := by
  obtain ⟨record', hrecord', hnewer⟩ := h
  obtain ⟨record'', hrecord'', hyields⟩ := hs.record record' hrecord'
  refine ⟨record'', hrecord'', ?_⟩
  rcases hyields with rfl | hnewer'
  · exact hnewer
  · exact Int.lt_trans hnewer hnewer'

theorem Lost.later {error : ServiceError} (h : r.Lost product record error s)
    (hs : r.OutrunBy product s s') : r.Lost product record error s' :=
  ⟨hs.reservation.trans h.free, h.cause.imp_right fun h => ⟨h.1, h.2.later hs⟩⟩

/-- Whoever meets another version than it has seen was outrun. -/
theorem Waits.outdated (h : r.Waits product seen s) (hseen : record.Yields seen)
    (hmoved : ∀ live, s.committed.liveStock? product = some live → live.version ≠ seen.version) :
    Outdated product record s := by
  obtain ⟨live, hlive, hyields⟩ := h.offered
  refine ⟨live, hlive, ?_⟩
  have hnewer := hyields.lt_of_ne (hmoved live hlive.live)
  rcases hseen with rfl | hseen
  · exact hnewer
  · exact Int.lt_trans hseen hnewer

/-! ### The requests of a racer -/

/-- The unit of work that is open at a desk, with what it has written. -/
def Working (written : List RowName) (pending : List Write) (d : Desk) : Prop :=
  ∃ working, d.unit = some ⟨working, written, pending⟩

variable {written : List RowName} {pending : List Write}
  {E : ServiceError → Desk → Store → Prop}

/-- Whoever turns a racer down for too little stock has seen as little at first, or a newer record. -/
theorem Waits.lost_of_short {refusal : Refusal} {now : Instant} (h : r.Waits product seen s)
    (hseen : record.Yields seen) (hproduct : seen.product = product) (hbounds : seen.InBounds)
    (hquantity : 0 < r.quantity) (hrefused : seen.reserve r.quantity now = .error refusal) :
    r.Lost product record (.refused refusal) s := by
  obtain ⟨hshort, rfl⟩ := StockRecord.reserve_eq_error hbounds hquantity hrefused
  rw [hproduct]
  refine ⟨h.free, ?_⟩
  rcases hseen with rfl | hnewer
  · exact .inl ⟨⟨_, rfl⟩, hshort⟩
  · obtain ⟨live, hlive, hyields⟩ := h.offered
    refine .inr ⟨.inl ⟨_, rfl⟩, live, hlive, ?_⟩
    rcases hyields with rfl | hyields
    · exact hnewer
    · exact Int.lt_trans hnewer hyields

/-- **The guarded write**: it is remembered, or the racer was outrun. -/
theorem meets_replaceGuarded (h : r.Waits product seen s) (hyields : record.Yields seen)
    (hunit : Working [] [] d) (hseen : seen.product = product) (hnext : next.product = product) :
    (StockService.replaceGuarded seen next).Meets (r.terms product)
      (fun _ d s => Working [.stock product] [.replaceStock next seen.version] d ∧
        r.Waits product seen s)
      (fun error _ s => r.Lost product record error s) d s := by
  subst hnext
  obtain ⟨working, hunit⟩ := hunit
  refine Call.Meets.insist (Call.Meets.quietly (r.terms_lenient _) fun s' hs => ?_)
  rw [hunit]
  obtain ⟨live, hlive, -⟩ := (h.later hs).offered
  have hstage := @UnitOfWork.stage_replaceStock s'.committed working [] [] next live seen.version
    List.not_mem_nil hlive.live
  split at hstage
  · obtain ⟨working', hstage⟩ := hstage
    exact ⟨_, _, Session.stage_some hstage, fun s'' hs' => ⟨⟨working', rfl⟩,
      (h.later hs).later hs'⟩⟩
  · next hmoved =>
    have hout := (h.later hs).outdated hyields fun other hother => by
      cases hlive.live.symm.trans hother
      exact hmoved
    exact ⟨_, _, Session.stage_some (Prod.ext hstage rfl), fun s'' hs' =>
      Lost.later ⟨(h.later hs).free, .inr ⟨.inr ⟨_, rfl⟩, hout⟩⟩ hs'⟩

/-- Opening a reservation that ends within the calendar asks nothing. -/
theorem openReservation_eq {now expiresAt : Instant} (hquantity : 0 < r.quantity)
    (hexpires : now.after? r.span = some expiresAt) :
    StockService.openReservation product r.order r.quantity r.span now =
      pure (.start product r.order r.quantity expiresAt now) := by
  have hpositive : ensurePositive r.quantity = .ok () := ensurePositive_eq_ok_iff.mpr hquantity
  have hlasting : (Reservation.lasting product r.order r.quantity r.span now).run =
      some (.ok (.start product r.order r.quantity expiresAt now)) := by
    rw [Reservation.lasting, hpositive, hexpires]
    rfl
  rw [StockService.openReservation, hlasting]
  rfl

theorem meets_insertReservation {expiresAt now : Instant} (h : r.Waits product seen s)
    (hunit : Working [.stock product] pending d) :
    (Call.within (.insertReservation (.start product r.order r.quantity expiresAt now))).Meets
      (r.terms product)
      (fun _ d s => (∃ written, Working written (pending ++
        [.insertReservation (.start product r.order r.quantity expiresAt now)]) d) ∧
        r.Waits product seen s) E d s := by
  obtain ⟨working, hunit⟩ := hunit
  refine Call.Meets.quietly (r.terms_lenient product) fun s' hs => ?_
  rw [hunit]
  obtain ⟨working', hstage⟩ := @UnitOfWork.stage_insertReservation s'.committed working
    [.stock product] pending (.start product r.order r.quantity expiresAt now) (by simp)
    (h.later hs).free
  exact ⟨_, _, Session.stageUnit_some hstage, fun s'' hs' =>
    ⟨⟨_, working', rfl⟩, (h.later hs).later hs'⟩⟩

/-! ### The whole call -/

/-- The writes of a racer that has come as far as its commit. -/
def writes (r : Racer) (product : ProductId) (seen next : StockRecord) (expiresAt now : Instant)
    (entry : Entry) : List Write :=
  [ .replaceStock next seen.version,
    .insertReservation (.start product r.order r.quantity expiresAt now), .appendEntry entry ]

/-- A racer that has yet to commit. -/
def Ready (r : Racer) (product : ProductId) (record next : StockRecord) (d : Desk) (s : Store) :
    Prop :=
  ∃ seen written expiresAt now entry,
    Working written (r.writes product seen next expiresAt now entry) d ∧
      seen.reserve r.quantity now = .ok next ∧ seen.product = product ∧ record.Yields seen ∧
      r.Waits product seen s

/-- **Inside its unit of work** a racer gets ready, or it has lost. -/
theorem meets_reserveIn (h : r.Waits product seen s) (htape : d.tape = r.tape) {t : Tables}
    (hunit : d.unit = some (.start t)) (hseen : t.Offers product seen)
    (hyields : record.Yields seen) (hquantity : 0 < r.quantity)
    (hexpires : (r.tape.time.after? r.span).isSome) :
    (StockService.reserveIn product r.quantity r.order r.span).Meets (r.terms product)
      (fun next d s => r.Ready product record next d s)
      (fun error _ s => r.Lost product record error s) d s := by
  obtain ⟨expiresAt, hexpires⟩ := Option.isSome_iff_exists.mp hexpires
  have hlenient := r.terms_lenient product
  refine (Call.Meets.now hlenient).seq ?_
  rintro _ d₁ s₁ ⟨rfl, hunit₁, -, hs₁⟩
  rw [htape]
  refine (Call.Meets.loadStock hlenient (hunit₁.trans hunit) fun hnone => ?_).seq ?_
  · cases hnone.symm.trans hseen.live
  rintro current d₂ s₂ ⟨hcurrent, hunit₂, -, hs₂⟩
  obtain rfl := Option.some.inj (hseen.live.symm.trans hcurrent)
  have h₂ := (h.later hs₁).later hs₂
  refine Call.Meets.obey_bind (fun next hnext => ?_) fun refusal hrefused s' hs =>
    (h₂.later hs).lost_of_short hyields hseen.product hseen.bounds hquantity hrefused
  refine (meets_replaceGuarded h₂ hyields ⟨t, hunit₂⟩ hseen.product
    ((StockRecord.SameThreshold.reserve hnext).product.trans hseen.product)).seq
      fun _ d₃ s₃ ⟨hunit₃, h₃⟩ => ?_
  rw [openReservation_eq hquantity hexpires, pure_bind]
  refine (meets_insertReservation h₃ hunit₃).seq ?_
  rintro - d₄ s₄ ⟨⟨written, working, hunit₄⟩, h₄⟩
  refine (Call.Meets.appendEntry hlenient hunit₄ _).seq ?_
  rintro - d₅ s₅ ⟨hunit₅, -, hs₅⟩
  refine (Call.Meets.log hlenient _).seq ?_
  rintro - _ s₆ ⟨rfl, hs₆⟩
  refine Call.Meets.pure fun s' hs => ?_
  exact ⟨seen, written, expiresAt, _, _, ⟨_, hunit₅⟩, hnext, hseen.product, hyields,
    ((h₄.later hs₅).later hs₆).later hs⟩

/-- **The commit** books, or the racer was outrun. -/
theorem meets_commit (h : r.Ready product record next d s) :
    (Call.demand .commit).Meets (r.terms product) (fun _ _ s => r.Booked product s)
      (fun error _ s => r.Lost product record error s) d s := by
  obtain ⟨seen, written, expiresAt, now, entry, ⟨working, hunit⟩, hnext, hproduct, hyields, h⟩ := h
  have hsame : next.product = product :=
    (StockRecord.SameThreshold.reserve hnext).product.trans hproduct
  refine Call.Meets.demand fun s' hs => ?_
  have hwaits := h.later hs
  obtain ⟨live, hlive, hmoved⟩ := hwaits.offered
  by_cases hversion : live.version = seen.version
  · obtain rfl := hmoved.eq_of_version hversion
    have happly : Write.applyAll (r.writes product live next expiresAt now entry) s'.committed =
        .ok (((s'.committed.putLive next.product next).putReservation
          (.start product r.order r.quantity expiresAt now)).append entry) :=
      Write.applyAll_cons_iff.mpr ⟨_, Write.apply_replaceStock_iff.mpr
        ⟨live, hsame.symm ▸ hlive.live, rfl, rfl⟩, Write.applyAll_cons_iff.mpr
        ⟨_, Write.apply_insertReservation_iff.mpr ⟨hwaits.free, rfl⟩, rfl⟩⟩
    have hanswer := Session.commit_of_ok hunit happly
    refine ⟨.inr ?_, _, _, hanswer, fun s'' hs' => ?_⟩
    · rw [Desk.answer_store hanswer]
      exact ⟨live, next, expiresAt, now, hlive.live, hnext, hwaits.free,
        (Tables.liveStock?_putLive ..).trans (if_pos hsame.symm), rfl⟩
    · refine Booked.later ?_ hs'
      exact ⟨_, (Table.get?_insert ..).trans (if_pos rfl), rfl, rfl⟩
  · have happly : Write.applyAll (r.writes product seen next expiresAt now entry) s'.committed =
        .error (.mismatch (.stockVersion next.product live.version seen.version)) := by
      have hlive' : s'.committed.liveStock? next.product = some live := hsame.symm ▸ hlive.live
      simp only [writes, Write.applyAll, List.foldlM_cons, Write.apply, hlive', if_neg hversion]
      rfl
    have hanswer := Session.commit_of_mismatch hunit happly
    refine ⟨.inl (by rw [Desk.answer_store hanswer]), _, _, hanswer, fun s'' hs' => ?_⟩
    refine Lost.later ⟨hwaits.free, .inr ⟨.inr ⟨_, rfl⟩, ?_⟩⟩ hs'
    exact hwaits.outdated hyields fun other hother => by
      cases hlive.live.symm.trans hother
      exact hversion

/-- **A racer ends in one of three ways**: it has booked, or it has lost for one of two reasons. -/
theorem meets (h : r.Waits product record s) (hquantity : 0 < r.quantity)
    (hexpires : (r.tape.time.after? r.span).isSome) :
    (r.call product).1.program.Meets (r.terms product) (fun _ _ s => r.Booked product s)
      (fun error _ s => r.Lost product record error s) (.fresh r.tape) s := by
  refine Call.Meets.inUnit (r.terms_lenient product) (Q := r.Ready product record)
    (fun d' s' s₁ hs₁ hs' htape hunit _ => ?_) (fun next d' s' hready => ?_)
    fun _ _ _ _ _ hlost _ hs => hlost.later hs
  · obtain ⟨seen, hseen, hyields⟩ := (h.later hs₁).offered
    have hwaits : r.Waits product seen s₁ := ⟨(h.later hs₁).free, seen, hseen, .inl rfl⟩
    exact meets_reserveIn (hwaits.later hs') htape hunit hseen hyields hquantity hexpires
  · exact meets_commit hready

end Racer

/-! ## The number of requests -/

namespace StockService

theorem endsWithin_loadStock (product : ProductId) : (loadStock product).EndsWithin 1 :=
  Call.EndsWithin.bind (n := 0) (.demand _) fun found => by
    cases found with
    | some record => exact .pure record
    | none => exact .throw _

theorem endsWithin_openReservation (product : ProductId) (order : OrderId) (quantity : Int)
    (ttl : Span) (now : Instant) : (openReservation product order quantity ttl now).EndsWithin 0 :=
  Call.EndsWithin.bind (.orAbort _) fun _ => .obey _

/-- **A reservation takes at most nine requests**, whatever they are answered. -/
theorem endsWithin_reserve (settings : StockSettings) (product : ProductId) (quantity : Int)
    (order : OrderId) (ttl : Option Span) :
    (reserve settings product quantity order ttl).EndsWithin 9 := by
  refine Call.EndsWithin.inUnit (n := 6) ?_
  refine Call.EndsWithin.bind (n := 5) (.request .now) fun now => ?_
  refine Call.EndsWithin.bind (n := 4) (endsWithin_loadStock product) fun current => ?_
  refine Call.EndsWithin.bind (n := 4) (.obey _) fun next => ?_
  refine Call.EndsWithin.bind (n := 3) (.insist (.demand _) _) fun _ => ?_
  refine Call.EndsWithin.bind (n := 3) (endsWithin_openReservation ..) fun reservation => ?_
  refine Call.EndsWithin.bind (n := 2) (.demand _) fun _ => ?_
  refine Call.EndsWithin.bind (n := 1) (.demand _) fun _ => ?_
  exact Call.EndsWithin.bind (n := 0) (.request _) fun _ => .pure next

end StockService

end Stockroom
