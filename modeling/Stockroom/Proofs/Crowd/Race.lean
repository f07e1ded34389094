import Mathlib.Algebra.BigOperators.Group.List.Basic
import Mathlib.Algebra.Ring.Int.Defs
import Mathlib.Data.List.Nodup
import Stockroom.Proofs.Crowd.Duty
import Stockroom.Proofs.Service.Race

/-!
# Proofs/Crowd/Race — who wins a race for the pieces of a product

Any number of calls reserve pieces of one product at the same time, from any store, and nobody else
is there.  The store tells at every moment who has won so far (`Race.Standing`): a step of a racer
leaves the store alone or adds the racer to the winners, and adding it outruns the others.

**A race ends after at most nine steps of each racer** and is settled then (`race_run`): the winners
share what there was, the record counts them exactly, and somebody wins unless everybody wants more
than there is.
-/

namespace Stockroom

open Store

/-- The record after some racers have won. -/
def StockRecord.booked (r : StockRecord) (won : List Racer) (now : Instant) : StockRecord :=
  { r with
    available := r.available - (won.map Racer.quantity).sum
    reserved := r.reserved + (won.map Racer.quantity).sum
    version := r.version + won.length
    updatedAt := now }

/-- **The start of a race**: a product is for sale, and some racers without a reservation want pieces of
it.  Its version leaves room for all of them. -/
structure Race (s : Store) (product : ProductId) (record : StockRecord) (racers : List Racer) :
    Prop where
  offered : s.committed.Offers product record
  version : Width.int64.Fits record.version
  room : record.version + racers.length < 2 ^ 63
  quantity : ∀ r ∈ racers, 0 < r.quantity
  expires : ∀ r ∈ racers, (r.tape.time.after? r.span).isSome
  orders : (racers.map Racer.order).Nodup
  free : ∀ r ∈ racers, s.committed.reservation? product r.order = none

/-! ## Winning -/

section Books

variable {r r' : Racer} {product : ProductId} {record live : StockRecord} {s s' : Store}
  {won racers : List Racer}

/-- Whoever wins outruns the racers for other orders. -/
theorem Racer.Books.outrunBy {next : StockRecord}
    (h : r.Books product s.committed s'.committed) (hne : r.order ≠ r'.order)
    (hlive : s.committed.Offers product live) (hnext : s'.committed.Offers product next)
    (hnewer : live.version < next.version) : r'.OutrunBy product s s' := by
  obtain ⟨_, _, expiresAt, now, -, -, -, -, hreservations⟩ := h
  refine ⟨?_, fun record hrecord => ⟨next, hnext, .inr ?_⟩⟩
  · rw [Tables.reservation?, hreservations]
    exact (Table.get?_insert ..).trans (if_neg fun heq => hne (congrArg ReservationKey.order heq).symm)
  · cases hlive.live.symm.trans hrecord.live
    exact hnewer

/-- **Whoever wins is counted**: the record moves on as if the racer had been among the winners. -/
theorem Racer.Books.offers {now : Instant} (h : r.Books product s.committed s'.committed)
    (hlive : s.committed.Offers product (record.booked won now))
    (hversion : Width.int64.Fits (record.version + won.length + 1)) :
    ∃ now', s'.committed.Offers product (record.booked (won ++ [r]) now') := by
  obtain ⟨seen, next, expiresAt, now', hseen, hnext, -, hnew, -⟩ := h
  cases hlive.live.symm.trans hseen
  have hbounds := Movement.next_inBounds (m := .reserve product r.quantity r.order expiresAt now')
    hlive.bounds hnext
  have heq := Movement.next_eq (m := .reserve product r.quantity r.order expiresAt now') hnext
  have hbooked : next = record.booked (won ++ [r]) now' := by
    rw [heq]
    simp only [StockRecord.next, StockRecord.booked, ChangeKind.effect, Movement.kind,
      Movement.change, Movement.now, List.map_append, List.map_cons, List.map_nil, List.sum_append,
      List.sum_singleton, List.length_append, List.length_singleton, Width.wrap_eq hversion]
    congr 1 <;> omega
  exact ⟨now', hbooked ▸ hnew, hlive.product, hbooked ▸ hbounds⟩

theorem Racer.Books.booked (h : r.Books product s.committed s'.committed) :
    r.Booked product s' := by
  obtain ⟨_, _, expiresAt, now, -, -, -, -, hreservations⟩ := h
  refine ⟨.start product r.order r.quantity expiresAt now, ?_, rfl, rfl⟩
  rw [Tables.reservation?, hreservations]
  exact (Table.get?_insert ..).trans (if_pos rfl)

end Books

/-! ## One caller -/

namespace Caller

variable {c : Caller} {r : Racer} {product : ProductId} {record : StockRecord} {s s' : Store}

/-- **A caller that races**: it keeps to the terms of its racer. -/
def Races (c : Caller) (r : Racer) (product : ProductId) (record : StockRecord) (s : Store) : Prop :=
  c.Meets (fun _ => r.terms product) (fun _ => Call.Post (fun _ _ s => r.Booked product s)
    fun error _ s => r.Lost product record error s) s

/-- **A step of a racer** leaves the store alone, or wins. -/
theorem Races.step (h : c.Races r product record s) :
    ((c.step s).2 = s ∨ r.Books product s.committed (c.step s).2.committed) ∧
      (c.step s).1.Races r product record (c.step s).2 := by
  obtain ⟨hstep, hnext⟩ := Meets.step h
  refine ⟨?_, hnext⟩
  rcases hstep with heq | ⟨request, next, hrest, howes⟩
  · exact .inl (congrArg Prod.snd heq)
  · rw [step_eq_of_ask hrest]
    exact howes

/-- A caller that is over has booked if it has returned a value, and otherwise it has lost. -/
theorem Races.settled (h : c.Races r product record s) (hover : c.IsOver) :
    (∃ value, c.rest = .done (.ok value)) ∧ c.hasReturned ∧ r.Booked product s ∨
      ∃ error, c.rest = .done (.error error) ∧ c.hasReturned = false ∧
        r.Lost product record error s := by
  obtain ⟨result, hresult⟩ := hover
  unfold Races Meets at h
  rw [hresult] at h
  unfold hasReturned
  rw [hresult]
  cases result with
  | ok value => exact .inl ⟨⟨value, rfl⟩, rfl, h s (.refl s)⟩
  | error error => exact .inr ⟨error, rfl, rfl, h s (.refl s)⟩

/-- A racer that has no requests left is over: it cannot have been aborted. -/
theorem Races.isOver (h : c.Races r product record s) (hends : c.rest.EndsWithin 0) : c.IsOver := by
  unfold Races Meets at h
  unfold IsOver
  cases hrest : c.rest with
  | done result => exact ⟨result, rfl⟩
  | abort =>
    rw [hrest] at h
    exact h.elim
  | ask request next =>
    rw [hrest] at hends
    exact hends.elim

end Caller

namespace Crowd

/-- A store, and calls that nobody has started yet. -/
def gathering (s : Store) (calls : List (ServiceCall × Tape)) : Crowd :=
  ⟨s, calls.map fun call => .fresh call.1 call.2⟩

/-- **A race that has not begun.** -/
def race (s : Store) (product : ProductId) (racers : List Racer) : Crowd :=
  gathering s (racers.map (·.call product))

end Crowd

/-! ## The standing of a race -/

namespace Race

variable {s : Store} {product : ProductId} {record : StockRecord} {racers won : List Racer}
  {w : Crowd}

/-- **The standing**: the store counts the winners so far, exactly they have booked, and everybody
races on. -/
structure Standing (product : ProductId) (record : StockRecord) (racers : List Racer) (w : Crowd)
    (won : List Racer) : Prop where
  among : won ⊆ racers
  nodup : won.Nodup
  offered : ∃ now, w.store.committed.Offers product (record.booked won now)
  booked : ∀ r ∈ won, r.Booked product w.store
  free : ∀ r ∈ racers, r ∉ won → w.store.committed.reservation? product r.order = none
  length : w.callers.length = racers.length
  races : ∀ (i : Nat) (r : Racer) (c : Caller), racers[i]? = some r → w.callers[i]? = some c →
    c.Races r product record w.store

theorem standing_race (h : Race s product record racers) :
    Standing product record racers (Crowd.race s product racers) [] where
  among := nofun
  nodup := .nil
  offered := ⟨record.updatedAt, by simpa [StockRecord.booked, Crowd.race, Crowd.gathering] using h.offered⟩
  booked := nofun
  free r hr _ := h.free r hr
  length := by simp [Crowd.race, Crowd.gathering]
  races i r c hr hc := by
    simp only [Crowd.race, Crowd.gathering, List.getElem?_map, hr, Option.map_some] at hc
    cases hc
    have hmem := List.mem_of_getElem? hr
    exact Racer.meets ⟨h.free r hmem, record, h.offered, .inl rfl⟩ (h.quantity r hmem)
      (h.expires r hmem)

/-- Racers are told apart by their orders. -/
theorem index_eq (h : Race s product record racers) {i j : Nat} {r r' : Racer}
    (hi : racers[i]? = some r) (hj : racers[j]? = some r') (heq : r.order = r'.order) : i = j := by
  refine (List.getElem?_inj ?_ h.orders).mp ?_
  · rw [List.length_map]
    exact (List.getElem?_eq_some_iff.mp hi).1
  · rw [List.getElem?_map, List.getElem?_map, hi, hj, Option.map_some, Option.map_some, heq]

/-- The version has room for one winner more. -/
theorem fits_version (h : Race s product record racers) (hs : Standing product record racers w won)
    {r : Racer} (hr : r ∈ racers) (hnew : r ∉ won) :
    Width.int64.Fits (record.version + won.length + 1) := by
  have hlength : (r :: won).length ≤ racers.length :=
    (List.subperm_of_subset (List.nodup_cons.mpr ⟨hnew, hs.nodup⟩)
      (List.cons_subset.mpr ⟨hr, hs.among⟩)).length_le
  have hroom := h.room
  have hversion := Width.fits_int64.mp h.version
  rw [List.length_cons] at hlength
  rw [Width.fits_int64]
  omega

section Step

variable {i : Nat} {r : Racer} {c : Caller}

theorem Standing.length_step (hs : Standing product record racers w won)
    (hc : w.callers[i]? = some c) : (w.step i).callers.length = racers.length := by
  rw [Crowd.step_of_getElem? hc, List.length_set, hs.length]

/-- Everybody races on after a step that at most outruns the others. -/
theorem Standing.races_step (hs : Standing product record racers w won)
    (hr : racers[i]? = some r) (hc : w.callers[i]? = some c)
    (houtrun : ∀ (j : Nat) r', racers[j]? = some r' → i ≠ j →
      r'.OutrunBy product w.store (w.step i).store) {j : Nat} {r' : Racer} {c' : Caller}
    (hr' : racers[j]? = some r') (hc' : (w.step i).callers[j]? = some c') :
    c'.Races r' product record (w.step i).store := by
  rw [Crowd.callers_step hc] at hc'
  split at hc'
  · next hij =>
    subst hij
    cases hr.symm.trans hr'
    cases hc'
    rw [Crowd.step_of_getElem? hc]
    exact (hs.races i r c hr hc).step.2
  · next hij => exact Program.Meets.later (hs.races j r' c' hr' hc') (houtrun j r' hr' hij)

/-- **A racer that books is one winner more.** -/
theorem Standing.win (hs : Standing product record racers w won) (h : Race s product record racers)
    (hr : racers[i]? = some r) (hc : w.callers[i]? = some c)
    (hbooks : r.Books product w.store.committed (w.step i).store.committed) :
    Standing product record racers (w.step i) (won ++ [r]) := by
  have hmem := List.mem_of_getElem? hr
  have hfree : w.store.committed.reservation? product r.order = none := by
    obtain ⟨_, _, _, _, -, -, hfree, -⟩ := hbooks
    exact hfree
  have hnew : r ∉ won := fun hwon => by
    obtain ⟨booking, hbooking, -⟩ := hs.booked r hwon
    cases hfree.symm.trans hbooking
  obtain ⟨now, hlive⟩ := hs.offered
  obtain ⟨now', hnext⟩ := hbooks.offers hlive (fits_version h hs hmem hnew)
  have houtrun : ∀ (j : Nat) r', racers[j]? = some r' → i ≠ j →
      r'.OutrunBy product w.store (w.step i).store := fun j r' hr' hij =>
    hbooks.outrunBy (fun heq => hij (index_eq h hr hr' heq)) hlive hnext <| by
      simp only [StockRecord.booked, List.length_append, List.length_singleton]
      omega
  refine ⟨?_, ?_, ⟨now', hnext⟩, ?_, ?_, hs.length_step hc, fun j r' c' hr' hc' =>
    hs.races_step hr hc houtrun hr' hc'⟩
  · exact List.append_subset.mpr ⟨hs.among, List.cons_subset.mpr ⟨hmem, List.nil_subset _⟩⟩
  · exact List.nodup_append_comm.mp (List.nodup_cons.mpr ⟨hnew, hs.nodup⟩)
  · intro r' hr'
    rcases List.mem_append.mp hr' with hr' | hr'
    · obtain ⟨j, hj⟩ := List.getElem?_of_mem (hs.among hr')
      have hij : i ≠ j := fun heq => hnew <| by
        cases hr.symm.trans (heq ▸ hj)
        exact hr'
      exact (hs.booked r' hr').later (houtrun j r' hj hij)
    · cases List.mem_singleton.mp hr'
      exact hbooks.booked
  · intro r' hr' hnot
    rw [List.mem_append, List.mem_singleton, not_or] at hnot
    obtain ⟨j, hj⟩ := List.getElem?_of_mem hr'
    have hij : i ≠ j := fun heq => hnot.2 (Option.some.inj (hj.symm.trans (heq ▸ hr)))
    exact (houtrun j r' hj hij).reservation.trans (hs.free r' hr' hnot.1)

/-- **A step of a race** adds at most one winner. -/
theorem Standing.step (hs : Standing product record racers w won) (h : Race s product record racers)
    (i : Nat) : ∃ won', Standing product record racers (w.step i) won' := by
  cases hc : w.callers[i]? with
  | none =>
    rw [Crowd.step, hc]
    exact ⟨won, hs⟩
  | some c =>
    obtain ⟨hi, -⟩ := List.getElem?_eq_some_iff.mp hc
    obtain ⟨r, hr⟩ : ∃ r, racers[i]? = some r := ⟨_, List.getElem?_eq_getElem (hs.length ▸ hi)⟩
    have hstore : (w.step i).store = (c.step w.store).2 := by rw [Crowd.step_of_getElem? hc]
    obtain ⟨hstep, -⟩ := (hs.races i r c hr hc).step
    rw [← hstore] at hstep
    rcases hstep with hsame | hbooks
    · refine ⟨won, hs.among, hs.nodup, ?_, ?_, ?_, hs.length_step hc, fun j r' c' hr' hc' =>
        hs.races_step hr hc (fun _ _ _ _ => ?_) hr' hc'⟩
      · exact hsame ▸ hs.offered
      · exact hsame ▸ hs.booked
      · exact hsame ▸ hs.free
      · exact hsame ▸ .refl _
    · exact ⟨_, hs.win h hr hc hbooks⟩

end Step

/-- **Every run of a race has a standing.** -/
theorem Standing.run (hs : Standing product record racers w won)
    (h : Race s product record racers) (schedule : List Nat) :
    ∃ won', Standing product record racers (w.run schedule) won' := by
  induction schedule generalizing w won with
  | nil => exact ⟨won, hs⟩
  | cons i schedule ih =>
    obtain ⟨won', hs'⟩ := hs.step h i
    exact ih hs'

end Race

/-! ## The end of a race -/

namespace Crowd

variable {w : Crowd} {s : Store} {product : ProductId} {record : StockRecord}
  {racers won : List Racer}

/-- **The winners**: the racers whose calls have returned a value. -/
def winners (w : Crowd) (racers : List Racer) : List Racer :=
  ((racers.zip w.callers).filter fun entry => entry.2.hasReturned).map Prod.fst

theorem mem_winners {r : Racer} : r ∈ w.winners racers ↔
    ∃ (i : Nat) (c : Caller), racers[i]? = some r ∧ w.callers[i]? = some c ∧ c.hasReturned := by
  constructor
  · intro h
    obtain ⟨⟨r, c⟩, hentry, rfl⟩ := List.mem_map.mp h
    obtain ⟨hentry, hreturned⟩ := List.mem_filter.mp hentry
    obtain ⟨i, hi⟩ := List.getElem?_of_mem hentry
    obtain ⟨hr, hc⟩ := List.getElem?_zip_eq_some.mp hi
    exact ⟨i, c, hr, hc, hreturned⟩
  · rintro ⟨i, c, hr, hc, hreturned⟩
    have hentry : (r, c) ∈ racers.zip w.callers :=
      List.mem_of_getElem? (List.getElem?_zip_eq_some.mpr ⟨hr, hc⟩)
    exact List.mem_map.mpr ⟨(r, c), List.mem_filter.mpr ⟨hentry, hreturned⟩, rfl⟩

/-- **How a race ends.** -/
structure Raced (w : Crowd) (product : ProductId) (record : StockRecord) (racers : List Racer) :
    Prop where
  /-- Every call has returned a value, found too little stock, or lost the race. -/
  ended : ∀ c ∈ w.callers, (∃ value, c.rest = .done (.ok value)) ∨
    (∃ available requested,
      c.rest = .done (.error (.refused (.insufficientStock product available requested)))) ∨
    ∃ race, c.rest = .done (.error (.concurrentUpdate race))
  /-- The winners get no more than there was. -/
  covered : ((w.winners racers).map Racer.quantity).sum ≤ record.available
  /-- The record counts what the winners got, and how many they are. -/
  counted : ∃ now, w.store.committed.liveStock? product = some { record with
    available := record.available - ((w.winners racers).map Racer.quantity).sum
    reserved := record.reserved + ((w.winners racers).map Racer.quantity).sum
    version := record.version + (w.winners racers).length
    updatedAt := now }
  /-- The winners have active reservations of their quantities. -/
  booked : ∀ r ∈ w.winners racers, r.Booked product w.store
  /-- The others have none. -/
  unbooked : ∀ r ∈ racers, r ∉ w.winners racers →
    w.store.committed.reservation? product r.order = none
  /-- Somebody wins unless everybody wants more than there was. -/
  progress : (∃ r ∈ racers, r.quantity ≤ record.available) → w.winners racers ≠ []

end Crowd

namespace Race

variable {w : Crowd} {s : Store} {product : ProductId} {record : StockRecord}
  {racers won : List Racer}

theorem Standing.caller (hs : Standing product record racers w won) {i : Nat} {r : Racer}
    (hr : racers[i]? = some r) : ∃ c, w.callers[i]? = some c :=
  ⟨_, List.getElem?_eq_getElem (hs.length ▸ (List.getElem?_eq_some_iff.mp hr).1)⟩

/-- **When everybody is over, those who have returned a value are the winners.** -/
theorem Standing.winners_perm (hs : Standing product record racers w won)
    (h : Race s product record racers) (hover : ∀ c ∈ w.callers, c.IsOver) :
    (w.winners racers).Perm won := by
  have hnodup : (w.winners racers).Nodup := by
    have hall : ((racers.zip w.callers).map Prod.fst).Nodup := by
      rw [List.map_fst_zip hs.length.ge]
      exact h.orders.of_map
    exact hall.sublist (List.filter_sublist.map Prod.fst)
  refine (List.perm_ext_iff_of_nodup hnodup hs.nodup).mpr fun r => ?_
  rw [Crowd.mem_winners]
  constructor
  · rintro ⟨i, c, hr, hc, hreturned⟩
    by_contra hnot
    rcases (hs.races i r c hr hc).settled (hover c (List.mem_of_getElem? hc)) with
      ⟨-, -, booking, hbooking, -⟩ | ⟨_, -, hfailed, -⟩
    · cases hbooking.symm.trans (hs.free r (List.mem_of_getElem? hr) hnot)
    · rw [hreturned] at hfailed
      cases hfailed
  · intro hwon
    obtain ⟨i, hr⟩ := List.getElem?_of_mem (hs.among hwon)
    obtain ⟨c, hc⟩ := hs.caller hr
    refine ⟨i, c, hr, hc, ?_⟩
    rcases (hs.races i r c hr hc).settled (hover c (List.mem_of_getElem? hc)) with
      ⟨-, hreturned, -⟩ | ⟨_, -, -, hlost⟩
    · exact hreturned
    · obtain ⟨booking, hbooking, -⟩ := hs.booked r hwon
      cases hbooking.symm.trans hlost.free

/-- **A race that is over is settled.** -/
theorem Standing.raced (hs : Standing product record racers w won)
    (h : Race s product record racers) (hover : ∀ c ∈ w.callers, c.IsOver) :
    w.Raced product record racers := by
  have hperm := hs.winners_perm h hover
  have hsum := (hperm.map Racer.quantity).sum_eq
  obtain ⟨now, hoffered⟩ := hs.offered
  refine ⟨fun c hc => ?_, ?_, ⟨now, ?_⟩, fun r hr => hs.booked r (hperm.mem_iff.mp hr),
    fun r hr hnot => hs.free r hr fun hwon => hnot (hperm.mem_iff.mpr hwon), ?_⟩
  · obtain ⟨i, hi⟩ := List.getElem?_of_mem hc
    obtain ⟨r, hr⟩ : ∃ r, racers[i]? = some r :=
      ⟨_, List.getElem?_eq_getElem (hs.length ▸ (List.getElem?_eq_some_iff.mp hi).1)⟩
    rcases (hs.races i r c hr hi).settled (hover c hc) with ⟨hvalue, -⟩ | ⟨error, herror, -, hlost⟩
    · exact .inl hvalue
    · rcases hlost.cause with ⟨⟨available, rfl⟩, -⟩ | ⟨⟨available, rfl⟩ | ⟨race, rfl⟩, -⟩
      · exact .inr (.inl ⟨available, _, herror⟩)
      · exact .inr (.inl ⟨available, _, herror⟩)
      · exact .inr (.inr ⟨race, herror⟩)
  · have havailable := hoffered.bounds.available
    simp only [StockRecord.booked] at havailable
    omega
  · rw [hoffered.live, hsum, hperm.length_eq]
    rfl
  · rintro ⟨r, hr, hquantity⟩ hnone
    obtain rfl : won = [] := (hnone ▸ hperm).nil_eq.symm
    obtain ⟨i, hi⟩ := List.getElem?_of_mem hr
    obtain ⟨c, hc⟩ := hs.caller hi
    rcases (hs.races i r c hi hc).settled (hover c (List.mem_of_getElem? hc)) with
      ⟨-, -, booking, hbooking, -⟩ | ⟨_, -, -, hlost⟩
    · cases hbooking.symm.trans (hs.free r hr List.not_mem_nil)
    · rcases hlost.cause with ⟨-, hshort⟩ | ⟨-, newer, hnewer, hversion⟩
      · omega
      · cases hoffered.live.symm.trans hnewer.live
        simp [StockRecord.booked] at hversion

end Race

namespace Crowd

/-- **A race for the pieces of a product**, in any order of steps.  Whoever has had nine turns is over;
and when everybody is over, the winners share at most what there was, the record counts them exactly,
and somebody has won unless everybody wanted more than there was. -/
theorem race_run {s : Store} {product : ProductId} {record : StockRecord} {racers : List Racer}
    (h : Race s product record racers) (schedule : List Nat) :
    (∀ i c, ((race s product racers).run schedule).callers[i]? = some c → 9 ≤ schedule.count i →
      c.IsOver) ∧
    ((∀ c ∈ ((race s product racers).run schedule).callers, c.IsOver) →
      ((race s product racers).run schedule).Raced product record racers) := by
  obtain ⟨won, hs⟩ := (Race.standing_race h).run h schedule
  refine ⟨fun i c hc hturns => ?_, hs.raced h⟩
  obtain ⟨r, hr⟩ : ∃ r, racers[i]? = some r :=
    ⟨_, List.getElem?_eq_getElem (hs.length ▸ (List.getElem?_eq_some_iff.mp hc).1)⟩
  have hends : c.rest.EndsWithin (9 - schedule.count i) := by
    refine endsWithin_run (fun c₀ hc₀ => ?_) hc
    simp only [race, gathering, List.getElem?_map, hr, Option.map_some] at hc₀
    cases hc₀
    exact StockService.endsWithin_reserve r.settings product r.quantity r.order r.ttl
  exact (hs.races i r c hr hc).isOver (hends.mono (by omega))

/-- Two pieces are for sale, and three more are held. -/
def raceStore : Store :=
  ⟨Tables.empty.putLive ⟨1⟩ ⟨⟨1⟩, 2, 3, 0, 6, ⟨0⟩, ⟨0⟩⟩, 1⟩

/-- Three orders want them: one of them wants too many. -/
def racers : List Racer :=
  [(1, 10), (2, 11), (4, 12)].map fun (quantity, order) =>
    ⟨.standard, quantity, ⟨order⟩, none, .unused (fun _ => ⟨0⟩) fun _ => ⟨0⟩⟩

/-- Three racers take turns, and one of them wins. -/
theorem race_run_turns :
    (∃ record, Race raceStore ⟨1⟩ record racers ∧
      ((race raceStore ⟨1⟩ racers).run (List.replicate 9 [0, 1, 2]).flatten).Raced ⟨1⟩ record
        racers) ∧
    (((race raceStore ⟨1⟩ racers).run (List.replicate 9 [0, 1, 2]).flatten).winners racers).map
      Racer.quantity = [1] := by
  have h : Race raceStore ⟨1⟩ ⟨⟨1⟩, 2, 3, 0, 6, ⟨0⟩, ⟨0⟩⟩ racers :=
    ⟨⟨rfl, rfl, by decide, by decide, by decide⟩, by decide, by decide, by decide, by decide,
      by decide, by decide⟩
  obtain ⟨hover, hraced⟩ := race_run h (List.replicate 9 [0, 1, 2]).flatten
  refine ⟨⟨_, h, hraced fun c hc => ?_⟩, rfl⟩
  obtain ⟨i, hi⟩ := List.getElem?_of_mem hc
  refine hover i c hi ?_
  have hlt : i < 3 := (List.getElem?_eq_some_iff.mp hi).1
  obtain rfl | rfl | rfl : i = 0 ∨ i = 1 ∨ i = 2 := by omega
  all_goals decide

end Crowd

end Stockroom
