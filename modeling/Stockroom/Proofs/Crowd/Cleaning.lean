import Stockroom.Proofs.Crowd.Collection
import Stockroom.Proofs.Store.Overdue

/-!
# Proofs/Crowd/Cleaning — all that one cleanup does

With nobody else around and a clock that stands still, **a cleanup takes as many overdue reservations as a
batch has places, releases those whose product is live, and leaves everything else as it was**
(`Crowd.cleanup_run`).  No release of a live product fails: a record holds what its active reservations say,
and a run is too short for a version to run out.
-/

namespace Stockroom

open Store StockService

variable {s : Store} {now : Instant} {batch released : List Reservation}

namespace Store.Tables

variable {t : Tables}

/-- **Overdue reservations can be released**: each has its row, no two have the same, and there is room for
their versions. -/
theorem Releases.overdue (ht : t.WellKept) (hsize : t.size < 2 ^ 63) (now : Instant) (places : Nat) :
    Releases now (((t.overdue now).take places).filter fun r => t.isLive r.product) t
      (((t.overdue now).take places).foldl (collect now) t) := by
  have hk := ht.filed.reservations
  rw [overdue_eq_backlog hk]
  have hlength : ((t.backlog now).take places).length ≤ t.reservations.rows.length :=
    calc ((t.backlog now).take places).length ≤ (t.backlog now).length := List.length_take_le' ..
      _ ≤ t.reservations.values.length := by
        rw [backlog, List.length_mergeSort]
        exact List.length_filter_le ..
      _ = t.reservations.rows.length := List.length_map ..
  refine .foldl hk ((ht.hasRoom hsize).mono (by omega)) ?_ fun r hr => ?_
  · exact ((nodup_backlog hk now).of_map _).sublist (List.take_sublist ..)
  · exact ((mem_backlog hk).mp (List.mem_of_mem_take hr)).1

end Store.Tables

/-- A cleanup reports how many it released; the others have failed. -/
theorem StockService.reportOn_eq_filter (t : Tables) (batch : List Reservation) :
    reportOn t batch = ⟨batch.length, (batch.filter fun r => t.isLive r.product).length,
      batch.length - (batch.filter fun r => t.isLive r.product).length⟩ := by
  have hcount : (batch.map fun r => t.isLive r.product).count true =
      (batch.filter fun r => t.isLive r.product).length := by
    rw [List.count, List.countP_map, List.countP_eq_length_filter]
    exact congrArg List.length (List.filter_congr fun r _ => by simp)
  rw [reportOn_eq, hcount, List.length_map]

namespace Crowd

variable {calls : List (ServiceCall × Tape)}

/-- **All that one cleanup does.**  Of the overdue reservations, as many as a batch has places are looked at,
and those of them whose product is live are released.  The cleanup reports so, and nothing else is changed. -/
theorem cleanup_run (catalogue : Table ProductId Product) (hfits : ∀ call ∈ calls, call.1.Fits)
    {past : List Nat} (hpast : past.length < 2 ^ 63)
    (hs : s = ((opening catalogue calls).run past).store) (settings : StockSettings) (now : Instant)
    (ids : Nat → CorrelationId)
    (hbatch : batch = (s.committed.overdue now).take settings.cleanupBatch)
    (hreleased : released = batch.filter fun r => s.committed.isLive r.product) :
    (ServiceCall.finish (.cleanup settings) (.unused (fun _ => now) ids) s).1 =
        .done (.ok ⟨batch.length, released.length, batch.length - released.length⟩) ∧
      s.committed.Releases now released
        (ServiceCall.finish (.cleanup settings) (.unused (fun _ => now) ids) s).2.2.committed ∧
      (ServiceCall.finish (.cleanup settings) (.unused (fun _ => now) ids) s).2.2.nextOrder = s.nextOrder := by
  have hreachable := (assured_run catalogue hfits hpast).reachable
  have hwell : s.committed.WellKept := hs ▸ hreachable.wellKept
  have hsize : s.committed.size < 2 ^ 63 := hs ▸ (size_run catalogue calls past).trans_lt hpast
  obtain ⟨hreport, hstore⟩ :=
    finish_cleanup_eq settings now (hs ▸ hreachable.sound : s.committed.Sound) hwell.filed ids
  have hall := Tables.Releases.overdue hwell hsize now settings.cleanupBatch
  have hbacklog := Tables.overdue_eq_backlog hwell.filed.reservations now
  rw [hreport, hstore, ← hbacklog, ← hbatch, reportOn_eq_filter, ← hreleased]
  rw [← hbatch, ← hreleased] at hall
  exact ⟨rfl, hall, rfl⟩

/-- Both reservations of the cramped store are overdue, and the product of one of them was removed. -/
theorem cleanup_run_cramped :
    (ServiceCall.finish (.cleanup (batchesOf 2)) (.unused (fun _ => crampedTime) fun _ => ⟨0⟩)
        crampedStore).1 = .done (.ok ⟨2, 1, 1⟩) ∧
      crampedStore.committed.Releases crampedTime [crampedReservation]
        (ServiceCall.finish (.cleanup (batchesOf 2)) (.unused (fun _ => crampedTime) fun _ => ⟨0⟩)
          crampedStore).2.2.committed := by
  have hreachable : Reachable _ crampedStore :=
    (assured_run .empty fits_crampedCalls (by decide : crampedSchedule.length < 2 ^ 63)).reachable
  have hoverdue : crampedStore.committed.overdue crampedTime =
      [.start ⟨1⟩ ⟨1⟩ 3 ⟨1000000000⟩ ⟨0⟩, crampedReservation] :=
    (Tables.overdue_eq_backlog hreachable.wellKept.filed.reservations _).trans backlog_crampedStore
  have hreleased : [crampedReservation] = [.start ⟨1⟩ ⟨1⟩ 3 ⟨1000000000⟩ ⟨0⟩, crampedReservation].filter
      fun r => crampedStore.committed.isLive r.product := by decide +kernel
  obtain ⟨hreport, hleft, -⟩ := cleanup_run (s := crampedStore) .empty fits_crampedCalls
    (by decide : crampedSchedule.length < 2 ^ 63) rfl (batchesOf 2) crampedTime (fun _ => ⟨0⟩)
    (by rw [hoverdue]; rfl) hreleased
  exact ⟨hreport, hleft⟩

end Crowd

end Stockroom
