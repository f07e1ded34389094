import Stockroom.Proofs.Store.Rows
import Stockroom.Store.Session

/-!
# Proofs/Store/Stage — what it takes to write in a unit of work

Before its first write to a row a unit of work looks at the committed one, so **it is the committed row
that decides whether the write takes effect**, whatever the unit of work has seen before.
-/

namespace Stockroom.Store

namespace UnitOfWork

variable {committed working : Tables} {written : List RowName} {pending : List Write}

/-- **The first write to a record** is decided by the version that is committed. -/
theorem stage_replaceStock {next live : StockRecord} {version : Int}
    (hnew : .stock next.product ∉ written)
    (hlive : committed.liveStock? next.product = some live) :
    if live.version = version then ∃ working',
      stage ⟨working, written, pending⟩ committed (.replaceStock next version) =
        (.ok true, ⟨working', written ++ [.stock next.product],
          pending ++ [.replaceStock next version]⟩)
    else (stage ⟨working, written, pending⟩ committed (.replaceStock next version)).1 =
      .ok false := by
  have hagree : (working.refresh committed (.stock next.product)).AgreeAt committed
      (.stock next.product) := (Table.get?_set ..).trans (if_pos rfl)
  have hrefreshed := hagree.liveStock?.trans hlive
  split
  · next hversion =>
    exact ⟨_, by simp [stage, refreshed, Write.row?, hnew, Write.apply, hrefreshed, hversion]; rfl⟩
  · next hversion =>
    simp [stage, refreshed, Write.row?, hnew, Write.apply, hrefreshed, hversion]

/-- **The first write to a reservation** takes effect if none is committed. -/
theorem stage_insertReservation {reservation : Reservation}
    (hnew : .reservation reservation.key ∉ written)
    (hfree : committed.reservations.get? reservation.key = none) :
    ∃ working', stage ⟨working, written, pending⟩ committed (.insertReservation reservation) =
      (.ok true, ⟨working', written ++ [.reservation reservation.key],
        pending ++ [.insertReservation reservation]⟩) := by
  have hrefreshed : (working.refresh committed (.reservation reservation.key)).reservations.get?
      reservation.key = none := ((Table.get?_set ..).trans (if_pos rfl)).trans hfree
  exact ⟨_, by simp [stage, refreshed, Write.row?, hnew, Write.apply, Table.contains, hrefreshed]; rfl⟩

theorem stage_appendEntry (u : UnitOfWork) (entry : Entry) :
    u.stage committed (.appendEntry entry) =
      (.ok true, ⟨u.working.append entry, u.written, u.pending ++ [.appendEntry entry]⟩) := by
  simp [stage, refreshed, Write.row?, Write.apply]

/-- A write that takes effect is applied to the refreshed copy, and remembered. -/
theorem stage_of_ok {u : UnitOfWork} {w : Write} (h : (u.stage committed w).1 = .ok true) :
    ∃ working, w.apply (u.refreshed committed w.row?).working = .ok working ∧
      u.stage committed w = (.ok true, ⟨working, u.written ++ w.row?.toList, u.pending ++ [w]⟩) := by
  obtain ⟨working, written, pending⟩ := u
  have hwritten : (refreshed ⟨working, written, pending⟩ committed w.row?).written = written ∧
      (refreshed ⟨working, written, pending⟩ committed w.row?).pending = pending := by
    unfold refreshed
    repeat' split
    all_goals exact ⟨rfl, rfl⟩
  simp only [stage, hwritten] at h ⊢
  split at h
  · next working' happly => exact ⟨working', happly, rfl⟩
  · cases h
  · cases h

/-- **A restock** that takes effect is added to the record that is committed. -/
theorem stage_increaseStock {product : ProductId} {quantity : Int} {now : Instant}
    (hnew : .stock product ∉ written)
    (h : (stage ⟨working, written, pending⟩ committed (.increaseStock product quantity now)).1 =
      .ok true) :
    ∃ live next working', committed.liveStock? product = some live ∧
      live.restock quantity now = .ok next ∧ working'.liveStock? product = some next ∧
      stage ⟨working, written, pending⟩ committed (.increaseStock product quantity now) =
        (.ok true, ⟨working', written ++ [.stock product],
          pending ++ [.increaseStock product quantity now]⟩) := by
  obtain ⟨working', happly, hstage⟩ := stage_of_ok h
  have hagree : (refreshed ⟨working, written, pending⟩ committed
      (some (.stock product))).working.AgreeAt committed (.stock product) := by
    rw [refreshed, if_neg hnew]
    exact (Table.get?_set ..).trans (if_pos rfl)
  obtain ⟨live, next, hlive, hnext, hfound⟩ := Write.liveStock?_of_increaseStock happly
  exact ⟨live, next, working', hagree.liveStock?.symm.trans hlive, hnext, hfound, hstage⟩

/-- **A restock that takes no effect** has found no live record committed, or was refused by its rules. -/
theorem of_stage_increaseStock {product : ProductId} {quantity : Int} {now : Instant}
    {answer : Except StoreError Bool} (hnew : .stock product ∉ written)
    (h : (stage ⟨working, written, pending⟩ committed (.increaseStock product quantity now)).1 = answer)
    (hanswer : answer ≠ .ok true) : (committed.liveStock? product = none ∧ answer = .ok false) ∨
      ∃ live refusal, committed.liveStock? product = some live ∧
        live.restock quantity now = .error refusal ∧
        answer = .error (.operationFailed refusal.message) := by
  have hagree : (refreshed ⟨working, written, pending⟩ committed
      (some (.stock product))).working.AgreeAt committed (.stock product) := by
    rw [refreshed, if_neg hnew]
    exact (Table.get?_set ..).trans (if_pos rfl)
  cases happly : (Write.increaseStock product quantity now).apply
      (refreshed ⟨working, written, pending⟩ committed (some (.stock product))).working with
  | ok t =>
    simp only [stage, Write.row?, happly] at h
    exact absurd h.symm hanswer
  | error rejection =>
    simp only [stage, Write.row?, happly] at h
    rcases Write.of_apply_increaseStock happly with ⟨hnone, mismatch, rfl⟩ | ⟨live, refusal, hlive, hrefused, rfl⟩
    · exact .inl ⟨hagree.liveStock?.symm.trans hnone, h.symm⟩
    · exact .inr ⟨live, refusal, hagree.liveStock?.symm.trans hlive, hrefused, h.symm⟩

end UnitOfWork

namespace Session

variable {s : Store} {u u' : UnitOfWork} {w : Write}

theorem stage_some {answer : Except StoreError Bool}
    (h : u.stage s.committed w = (answer, u')) :
    stage ⟨s, some u⟩ w = (answer, ⟨s, some u'⟩) := by
  simp only [stage, h]

theorem stageUnit_some (h : u.stage s.committed w = (.ok true, u')) :
    stageUnit ⟨s, some u⟩ w = (.ok (), ⟨s, some u'⟩) := by
  rw [stageUnit, stage_some h]
  rfl

theorem write?_eq_replaceStock {s : Session} {request : UnitRequest} {next : StockRecord}
    {version : Int} (h : s.write? request = some (.replaceStock next version)) :
    request = .replaceStock next version := by
  cases request <;> cases h
  rfl

/-- A write changes nothing but the unit of work. -/
theorem stage_unit (s : Session) (w : Write) :
    (s.stage w).2.store = s.store ∧ ((s.stage w).2.unit = s.unit ∨
      ∃ u, s.unit = some u ∧ (s.stage w).2.unit = some (u.stage s.store.committed w).2) := by
  obtain ⟨store, unit⟩ := s
  cases unit with
  | none => exact ⟨rfl, .inl rfl⟩
  | some u => exact ⟨rfl, .inr ⟨u, rfl, rfl⟩⟩

theorem find_snd {α : Type} (s : Session) (read : Tables → α) : (s.find read).2 = s := by
  unfold find
  split <;> rfl

/-- **A request inside a unit of work** commits nothing; it leaves the unit of work alone, or makes its
write in it. -/
theorem answerWithin_unit (s : Session) (request : UnitRequest) :
    (s.answerWithin request).2.store.committed = s.store.committed ∧
      ((s.answerWithin request).2.unit = s.unit ∨ ∃ u w, s.unit = some u ∧
        s.write? request = some w ∧
        (s.answerWithin request).2.unit = some (u.stage s.store.committed w).2) := by
  have hstage : ∀ w, s.write? request = some w → (s.stage w).2.store.committed = s.store.committed ∧
      ((s.stage w).2.unit = s.unit ∨ ∃ u w', s.unit = some u ∧ s.write? request = some w' ∧
        (s.stage w).2.unit = some (u.stage s.store.committed w').2) := fun w hw =>
    (s.stage_unit w).imp (congrArg _) (.imp_right fun ⟨u, hu, h⟩ => ⟨u, w, hu, hw, h⟩)
  cases request with
  | findStock product =>
    rw [answerWithin, find_snd]
    exact ⟨rfl, .inl rfl⟩
  | findReservation product order =>
    rw [answerWithin, find_snd]
    exact ⟨rfl, .inl rfl⟩
  | findOrder order =>
    rw [answerWithin, find_snd]
    exact ⟨rfl, .inl rfl⟩
  | replaceStock next version => exact hstage _ rfl
  | increaseStock product quantity now => exact hstage _ rfl
  | insertReservation reservation => exact hstage _ rfl
  | moveReservation product order expected next now => exact hstage _ rfl
  | appendEntry entry => exact hstage _ rfl
  | replaceOrder order expected => exact hstage _ rfl
  -- A number is drawn before the order is written.
  | insertOrder draft =>
    obtain ⟨hstore, hunit⟩ := stage_unit ⟨⟨s.store.committed, s.store.nextOrder + 1⟩, s.unit⟩
      (.insertOrder (draft.toOrder ⟨s.store.nextOrder⟩))
    have hcommitted := congrArg Store.committed hstore
    exact ⟨hcommitted, hunit.imp_right fun ⟨u, hu, h⟩ => ⟨u, _, hu, rfl, h⟩⟩

theorem commit_of_none {unit : Option UnitOfWork} (hu : unit = none) :
    ∃ error, answer ⟨s, unit⟩ .commit = (.error error, ⟨s, none⟩) := by
  subst hu
  exact ⟨_, rfl⟩

theorem commit_of_mismatch {unit : Option UnitOfWork} {mismatch : Mismatch} (hu : unit = some u)
    (h : Write.applyAll u.pending s.committed = .error (.mismatch mismatch)) :
    answer ⟨s, unit⟩ .commit = (.error (.conflict mismatch.message), ⟨s, none⟩) := by
  subst hu
  simp only [answer, commit, UnitOfWork.commit, h]

theorem commit_of_failed {unit : Option UnitOfWork} {error : StoreError} (hu : unit = some u)
    (h : Write.applyAll u.pending s.committed = .error (.failed error)) :
    answer ⟨s, unit⟩ .commit = (.error error, ⟨s, none⟩) := by
  subst hu
  simp only [answer, commit, UnitOfWork.commit, h]

end Session

end Stockroom.Store
