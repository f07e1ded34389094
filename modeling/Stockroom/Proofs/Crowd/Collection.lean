import Stockroom.Proofs.Crowd.Consistency
import Stockroom.Proofs.Crowd.Independence
import Stockroom.Proofs.Service.Cleanup

/-!
# Proofs/Crowd/Collection — which expired reservations are collected, and when

Cleanups run one after the other, with nobody else around and a clock that stands still.  Each takes a batch
from the front of the backlog, and reservations of removed products never leave it, so **a reservation is
collected exactly if fewer of those expired before it than a batch has places**
(`Crowd.collected_run`).  Each cleanup then gets ahead by the places that are left.

If no product with an expired reservation was removed, all places are left, and the backlog is empty after as
many cleanups as its length divided by the size of a batch, rounded up.  In general it is not:
`Crowd.starved_reservation` waits for good behind a single one.
-/

namespace Stockroom

open Store StockService

variable {settings : StockSettings} {now : Instant} {ids : Nat → Nat → CorrelationId} {s : Store}
  {r : Reservation} {stuck ahead : Nat}

/-! ## Cleanups in a row -/

namespace Store

/-- **The store after so many cleanups in a row.**  Which ids they draw is said beforehand. -/
def cleaned (s : Store) (settings : StockSettings) (now : Instant) (ids : Nat → Nat → CorrelationId) :
    Nat → Store
  | 0 => s
  | n + 1 => (ServiceCall.finish (.cleanup settings) (.unused (fun _ => now) (ids n))
      (s.cleaned settings now ids n)).2.2

variable (settings now ids)

/-- **A cleanup returns**, and has collected a batch from the front of the backlog. -/
theorem finish_cleanup_eq (hsound : s.committed.Sound) (hfiled : s.committed.Filed)
    (draws : Nat → CorrelationId) :
    (ServiceCall.finish (.cleanup settings) (.unused (fun _ => now) draws) s).1 = .done (.ok
        (reportOn s.committed ((s.committed.backlog now).take settings.cleanupBatch))) ∧
      (ServiceCall.finish (.cleanup settings) (.unused (fun _ => now) draws) s).2.2 =
        ⟨((s.committed.backlog now).take settings.cleanupBatch).foldl (Tables.collect now) s.committed,
          s.nextOrder⟩ := by
  obtain ⟨report, d, s', halone, -, rfl, rfl⟩ :=
    cleanup_concludes settings now hsound hfiled (.fresh (.unused (fun _ => now) draws)) fun _ => rfl
  have hfinish : ServiceCall.finish (.cleanup settings) (.unused (fun _ => now) draws) s = _ :=
    Program.alone_eq_some_iff.mp halone
  rw [hfinish]
  exact ⟨rfl, rfl⟩

theorem finish_cleanup (hsound : s.committed.Sound) (hfiled : s.committed.Filed)
    (draws : Nat → CorrelationId) :
    (ServiceCall.finish (.cleanup settings) (.unused (fun _ => now) draws) s).1 = .done (.ok
        (reportOn s.committed ((s.committed.backlog now).take settings.cleanupBatch))) ∧
      s.committed.Collects now ((s.committed.backlog now).take settings.cleanupBatch)
        (ServiceCall.finish (.cleanup settings) (.unused (fun _ => now) draws) s).2.2.committed := by
  obtain ⟨hreport, hstore⟩ := finish_cleanup_eq settings now hsound hfiled draws
  have hsplit : s.committed.backlog now = [] ++ (s.committed.backlog now).take settings.cleanupBatch ++
      (s.committed.backlog now).drop settings.cleanupBatch := by simp
  rw [hstore]
  exact ⟨hreport, .foldl hsound hfiled hsplit⟩

/-- **What cleanups do not change.** -/
theorem cleaned_keeps (hsound : s.committed.Sound) (hfiled : s.committed.Filed) (n : Nat) :
    (s.cleaned settings now ids n).committed.Sound ∧ (s.cleaned settings now ids n).committed.Filed ∧
      ∀ product, (s.cleaned settings now ids n).committed.isLive product =
        s.committed.isLive product := by
  induction n with
  | zero => exact ⟨hsound, hfiled, fun _ => rfl⟩
  | succ n ih =>
    obtain ⟨hsoundN, hfiledN, hlive⟩ := ih
    obtain ⟨-, hcollects⟩ := finish_cleanup settings now hsoundN hfiledN (ids n)
    exact ⟨hcollects.sound, hcollects.filed, fun product => (hcollects.live product).trans (hlive product)⟩

/-- The next cleanup collects a batch from what the others have left. -/
theorem collects_cleaned (hsound : s.committed.Sound) (hfiled : s.committed.Filed) (n : Nat) :
    (s.cleaned settings now ids n).committed.Collects now
      (((s.cleaned settings now ids n).committed.backlog now).take settings.cleanupBatch)
      (s.cleaned settings now ids (n + 1)).committed := by
  obtain ⟨hsoundN, hfiledN, -⟩ := cleaned_keeps settings now ids hsound hfiled n
  exact (finish_cleanup settings now hsoundN hfiledN (ids n)).2

/-- Nothing enters the backlog. -/
theorem backlog_cleaned_subset (hsound : s.committed.Sound) (hfiled : s.committed.Filed) (n : Nat) :
    (s.cleaned settings now ids n).committed.backlog now ⊆ s.committed.backlog now := by
  induction n with
  | zero => exact fun _ h => h
  | succ n ih =>
    have hsplit := List.take_append_drop settings.cleanupBatch
      ((s.cleaned settings now ids n).committed.backlog now)
    have hleft := (collects_cleaned settings now ids hsound hfiled n).backlog [] _ hsplit.symm
    intro r hr
    rw [hleft, List.nil_append, List.mem_append, List.mem_filter] at hr
    exact ih (hr.elim (fun h => List.mem_of_mem_take h.1) List.mem_of_mem_drop)

/-- **After so many cleanups** a reservation of a live product has expired, or it waits behind all those of
removed products that it waited behind at first, and each cleanup has got ahead by the places that they left
in its batch. -/
theorem cleaned_cases (hsound : s.committed.Sound) (hfiled : s.committed.Filed)
    (hlive : s.committed.isLive r.product = true) (hwaits : s.committed.Waits now r stuck ahead) (n : Nat) :
    (s.cleaned settings now ids n).committed.reservations.get? r.key = some (r.expire now) ∧
        stuck < settings.cleanupBatch ∨
      ∃ less, (s.cleaned settings now ids n).committed.Waits now r stuck less ∧
        less + n * (settings.cleanupBatch - stuck) ≤ ahead := by
  induction n with
  | zero => exact .inr ⟨ahead, hwaits, by omega⟩
  | succ n ih =>
    have hcollects := collects_cleaned settings now ids hsound hfiled n
    rcases ih with ⟨hexpired, hplace⟩ | ⟨less, hwaitsN, hless⟩
    · exact .inl ⟨hcollects.settled _ _ hexpired nofun, hplace⟩
    · have hliveN := ((cleaned_keeps settings now ids hsound hfiled n).2.2 r.product).trans hlive
      refine (hwaitsN.collects hliveN hcollects).imp_right ?_
      rintro ⟨fewer, hwaits', hfewer⟩
      exact ⟨fewer, hwaits', by rw [Nat.succ_mul]; omega⟩

/-- **Enough places for all leave nothing behind** but the reservations of removed products. -/
theorem isLive_of_cleaned (settings : StockSettings) (now : Instant) (ids : Nat → Nat → CorrelationId)
    (hsound : s.committed.Sound) (hfiled : s.committed.Filed) {n : Nat}
    (hplaces : (s.committed.backlog now).countP (fun r => !s.committed.isStuck r) ≤
      n * (settings.cleanupBatch - (s.committed.backlog now).countP s.committed.isStuck))
    {r : Reservation} (hmem : r ∈ (s.cleaned settings now ids n).committed.backlog now) :
    (s.cleaned settings now ids n).committed.isLive r.product = false := by
  obtain ⟨-, hfiledN, hliveN⟩ := s.cleaned_keeps settings now ids hsound hfiled n
  obtain ⟨hr, hexpired⟩ := (Tables.mem_backlog hfiledN.reservations).mp hmem
  obtain ⟨before, after, hbacklog⟩ :=
    List.append_of_mem (backlog_cleaned_subset settings now ids hsound hfiled n hmem)
  by_contra hlive
  rw [hliveN, Bool.not_eq_false] at hlive
  rcases cleaned_cases settings now ids hsound hfiled hlive ⟨before, after, hbacklog, rfl, rfl⟩ n with
    ⟨hdone, -⟩ | ⟨less, -, hless⟩
  · have hdone' : some r = some (r.expire now) := hr.symm.trans hdone
    have hstatus : r.status = .expired := congrArg Reservation.status (Option.some.inj hdone')
    simp [Reservation.isExpiredAt, hstatus] at hexpired
  · have hothers : before.countP (fun r => !s.committed.isStuck r) <
        (s.committed.backlog now).countP fun r => !s.committed.isStuck r := by
      have hnot : s.committed.isStuck r = false := by rw [Tables.isStuck, hlive]; rfl
      rw [hbacklog, List.countP_append, List.countP_cons_of_pos (by simp [hnot])]
      omega
    have hplaces' : settings.cleanupBatch - (s.committed.backlog now).countP s.committed.isStuck ≤
        settings.cleanupBatch - before.countP s.committed.isStuck := by
      rw [hbacklog, List.countP_append]
      omega
    have := Nat.mul_le_mul_left n hplaces'
    omega

end Store

namespace Crowd

variable {calls : List (ServiceCall × Tape)}

/-- **Which expired reservations are collected.**  Every cleanup returns.  A reservation of a live product
has expired after so many of them that the places which those of removed products ahead of it leave in a batch
are enough for the others ahead of it; where they leave none it stays active for good.  As soon as the places
that all those of removed products leave are enough, no other is left. -/
theorem collected_run (catalogue : Table ProductId Product) (hfits : ∀ call ∈ calls, call.1.Fits)
    {past : List Nat} (hpast : past.length < 2 ^ 63)
    (hs : s = ((opening catalogue calls).run past).store) (settings : StockSettings) (now : Instant)
    (ids : Nat → Nat → CorrelationId) (n : Nat) :
    (ServiceCall.finish (.cleanup settings) (.unused (fun _ => now) (ids n))
        (s.cleaned settings now ids n)).1 = .done (.ok
          (reportOn (s.cleaned settings now ids n).committed
            (((s.cleaned settings now ids n).committed.backlog now).take settings.cleanupBatch))) ∧
      (∀ r stuck ahead, s.committed.Waits now r stuck ahead → s.committed.isLive r.product →
        (ahead < n * (settings.cleanupBatch - stuck) →
          (s.cleaned settings now ids n).committed.reservation? r.product r.order =
            some (r.expire now)) ∧
        (settings.cleanupBatch ≤ stuck →
          (s.cleaned settings now ids n).committed.reservation? r.product r.order = some r)) ∧
      ((s.committed.backlog now).countP (fun r => !s.committed.isStuck r) ≤
          n * (settings.cleanupBatch - (s.committed.backlog now).countP s.committed.isStuck) →
        ∀ product order r,
          (s.cleaned settings now ids n).committed.reservation? product order = some r →
            r.isExpiredAt now → (s.cleaned settings now ids n).committed.isLive product = false) := by
  have hreachable := (assured_run catalogue hfits hpast).reachable
  have hsound : s.committed.Sound := hs ▸ hreachable.sound
  have hfiled : s.committed.Filed := hs ▸ hreachable.wellKept.filed
  obtain ⟨hsoundN, hfiledN, -⟩ := s.cleaned_keeps settings now ids hsound hfiled n
  have hcases {r : Reservation} {stuck ahead : Nat} (hlive : s.committed.isLive r.product = true)
      (hwaits : s.committed.Waits now r stuck ahead) :=
    cleaned_cases settings now ids hsound hfiled hlive hwaits n
  refine ⟨(finish_cleanup settings now hsoundN hfiledN (ids n)).1, fun r stuck ahead hwaits hlive =>
    ⟨fun hahead => ?_, fun hfull => ?_⟩, fun hplaces product order r hr hexpired => ?_⟩
  · rcases hcases hlive hwaits with ⟨hexpired, -⟩ | ⟨less, -, hless⟩
    · exact hexpired
    · omega
  · rcases hcases hlive hwaits with ⟨-, hplace⟩ | ⟨less, ⟨before, after, hbacklog, -⟩, -⟩
    · omega
    · have hmem : r ∈ (s.cleaned settings now ids n).committed.backlog now := by simp [hbacklog]
      exact ((Tables.mem_backlog hfiledN.reservations).mp hmem).1
  · have hkey : r.key = ⟨product, order⟩ := hfiledN.reservations _ _ hr
    obtain rfl : r.product = product := congrArg ReservationKey.product hkey
    exact isLive_of_cleaned settings now ids hsound hfiled hplaces
      ((Tables.mem_backlog hfiledN.reservations).mpr ⟨hkey ▸ hr, hexpired⟩)

/-! ## Behind a removed product -/

/-- Both products are reserved, the first for a second and the other for two, and the first is removed. -/
def crampedCalls : List (ServiceCall × Tape) :=
  [.register ⟨1⟩ 5 1, .register ⟨2⟩ 5 1, .reserve .standard ⟨1⟩ 3 ⟨1⟩ (some ⟨1000000000⟩),
    .reserve .standard ⟨2⟩ 2 ⟨2⟩ (some ⟨2000000000⟩), .remove ⟨1⟩].map
      (·, .unused (fun _ => ⟨0⟩) fun _ => ⟨0⟩)

/-- One after the other. -/
def crampedSchedule : List Nat :=
  List.replicate 4 0 ++ List.replicate 4 1 ++ List.replicate 8 2 ++ List.replicate 8 3 ++
    List.replicate 3 4

def crampedStore : Store := ((opening .empty crampedCalls).run crampedSchedule).store

/-- What is reserved of the second product. -/
def crampedReservation : Reservation := .start ⟨2⟩ ⟨2⟩ 2 ⟨2000000000⟩ ⟨0⟩

/-- A minute later. -/
def crampedTime : Instant := ⟨60000000000⟩

/-- Settings for cleanups with so many places in a batch. -/
def batchesOf (places : Nat) : StockSettings := { StockSettings.standard with cleanupBatch := places }

theorem backlog_crampedStore : crampedStore.committed.backlog crampedTime =
    [.start ⟨1⟩ ⟨1⟩ 3 ⟨1000000000⟩ ⟨0⟩, crampedReservation] := by
  have hexpired : crampedStore.committed.reservations.values.filter (·.isExpiredAt crampedTime) =
      [.start ⟨1⟩ ⟨1⟩ 3 ⟨1000000000⟩ ⟨0⟩, crampedReservation] := by decide +kernel
  rw [Tables.backlog, hexpired]
  exact List.mergeSort_of_pairwise (by decide)

/-- It waits behind the reservation of the removed product. -/
theorem waits_crampedReservation :
    crampedStore.committed.Waits crampedTime crampedReservation 1 0 :=
  ⟨[.start ⟨1⟩ ⟨1⟩ 3 ⟨1000000000⟩ ⟨0⟩], [], backlog_crampedStore, by decide +kernel, by decide +kernel⟩

theorem fits_crampedCalls : ∀ call ∈ crampedCalls, call.1.Fits := by
  simp [crampedCalls, ServiceCall.Fits]
  decide

/-- **With one place in a batch it is never collected**: two reservations have expired, and after two cleanups
the one of the product that is still there is active. -/
theorem starved_reservation :
    (crampedStore.committed.backlog crampedTime).length = 2 ∧
      (crampedStore.cleaned (batchesOf 1) crampedTime (fun _ _ => ⟨0⟩) 2).committed.reservation? ⟨2⟩ ⟨2⟩ =
        some crampedReservation ∧
      crampedReservation.isExpiredAt crampedTime ∧
      (crampedStore.cleaned (batchesOf 1) crampedTime (fun _ _ => ⟨0⟩) 2).committed.isLive ⟨2⟩ := by
  have hreachable : Reachable _ crampedStore :=
    (assured_run .empty fits_crampedCalls (by decide : crampedSchedule.length < 2 ^ 63)).reachable
  have hlive : crampedStore.committed.isLive ⟨2⟩ = true := by decide +kernel
  obtain ⟨-, hfiledN, hliveN⟩ := crampedStore.cleaned_keeps (batchesOf 1) crampedTime (fun _ _ => ⟨0⟩)
    hreachable.sound hreachable.wellKept.filed 2
  refine ⟨congrArg List.length backlog_crampedStore, ?_, by decide, (hliveN ⟨2⟩).trans hlive⟩
  rcases cleaned_cases (batchesOf 1) crampedTime (fun _ _ => ⟨0⟩) hreachable.sound
    hreachable.wellKept.filed hlive waits_crampedReservation 2 with
      ⟨-, hplace⟩ | ⟨less, ⟨before, after, hbacklog, -⟩, -⟩
  · exact absurd hplace (by decide)
  · have hmem : crampedReservation ∈ (crampedStore.cleaned (batchesOf 1) crampedTime (fun _ _ => ⟨0⟩)
        2).committed.backlog crampedTime := by simp [hbacklog]
    exact ((Tables.mem_backlog hfiledN.reservations).mp hmem).1

/-- With two places in a batch one cleanup is enough. -/
theorem collected_run_cramped :
    (crampedStore.cleaned (batchesOf 2) crampedTime (fun _ _ => ⟨0⟩) 1).committed.reservation? ⟨2⟩ ⟨2⟩ =
        some (crampedReservation.expire crampedTime) ∧
      ∀ product order r, (crampedStore.cleaned (batchesOf 2) crampedTime (fun _ _ => ⟨0⟩)
          1).committed.reservation? product order = some r → r.isExpiredAt crampedTime →
        (crampedStore.cleaned (batchesOf 2) crampedTime (fun _ _ => ⟨0⟩) 1).committed.isLive product =
          false := by
  obtain ⟨-, hwaiting, hall⟩ := @collected_run crampedStore crampedCalls .empty fits_crampedCalls
    crampedSchedule (by decide) rfl (batchesOf 2) crampedTime (fun _ _ => ⟨0⟩) 1
  refine ⟨(hwaiting _ 1 0 waits_crampedReservation (by decide +kernel)).1 (by decide), hall ?_⟩
  rw [backlog_crampedStore]
  decide +kernel

end Crowd

end Stockroom
