import Stockroom.Proofs.Crowd.Replay
import Stockroom.Proofs.Crowd.Terms
import Stockroom.Proofs.Service.Alone

/-!
# Proofs/Service/Overlong — a reservation that would outlast the calendar

A reservation whose end the calendar does not reach is never made.  What is missing is the answer:

* `reserve_quiet` — **such a call leaves the store alone at every request**, whatever the others do in the
  meantime, and if it ends with an error then not because the store failed;
* `reserve_alone_eq_none_iff` — **alone it is aborted exactly where the pieces could have been held**, because
  they are counted before the end of the reservation is computed.
-/

namespace Stockroom

open Store Call

variable {α β : Type} {s s' : Store} {d d' : Desk} {t t' : Tables} {tape tape' : Tape}

/-! ## Programs that leave the store alone -/

/-- **Terms under which no request changes the store**, whatever the others do. -/
def Terms.quiet : Terms := .always fun d request s => (d.answer s request).2.2 = s

theorem Terms.quiet_lenient : Terms.quiet.Lenient := fun _ _ _ h => h

/-- Such a program leaves the store as it was when it runs alone. -/
theorem Program.Meets.alone_quiet {p : Program Host α} {Q : α → Desk → Store → Prop} {a : α}
    (h : p.Meets .quiet Q d s) (halone : p.alone d s = some (a, d', s')) : Q a d' s' ∧ s' = s := by
  induction p generalizing d s with
  | done a =>
    cases halone
    exact ⟨h _ trivial, rfl⟩
  | abort => cases halone
  | ask request next ih =>
    obtain ⟨hquiet, hnext⟩ := h s trivial
    obtain ⟨hQ, rfl⟩ := ih _ hnext halone
    exact ⟨hQ, hquiet⟩

/-! ## Calls that are aborted -/

/-- What comes after a program that is aborted is not run. -/
theorem Program.alone_bind_none {p : Program Host α} {f : α → Program Host β} (h : p.alone d s = none) :
    (p >>= f).alone d s = none := by
  rw [Program.alone_bind, h]
  rfl

/-- What comes after a program and asks nobody does not matter. -/
theorem Program.alone_bind_eq_none_iff {p : Program Host α} {f : α → Program Host β}
    (hf : ∀ a, ∃ b, f a = .done b) : (p >>= f).alone d s = none ↔ p.alone d s = none := by
  rw [Program.alone_bind]
  cases p.alone d s with
  | none => exact iff_of_true rfl rfl
  | some x =>
    obtain ⟨b, hb⟩ := hf x.1
    rw [Option.bind_some, hb]
    exact iff_of_false nofun nofun

/-- **A call that is aborted alone in a unit of work.** -/
def Call.Aborts (s : Store) (p : Call α) (t : Tables) (tape : Tape) : Prop :=
  ∀ d : Desk, d.Mirrors t tape s → p.run.alone d s = none

namespace Call.Aborts

/-- A call that is aborted after another one has yielded a value. -/
theorem after {p : Call α} {f : α → Call β} {a : α} (h : p.Yields s t tape a t' tape')
    (hf : (f a).Aborts s t' tape') : (p >>= f).Aborts s t tape := by
  intro d hd
  obtain ⟨d₁, h₁, hd₁⟩ := h d hd
  exact (alone_bind h₁).trans (hf d₁ hd₁)

theorem obey_bind {x : Except Refusal α} {f : α → Call β} {a : α} (h : x = .ok a)
    (hf : (f a).Aborts s t tape) : (obey x >>= f).Aborts s t tape := by
  subst h
  exact hf

theorem bind {p : Call α} {f : α → Call β} (h : p.Aborts s t tape) : (p >>= f).Aborts s t tape :=
  fun d hd => Program.alone_bind_none (h d hd)

theorem orAbort {x : Option α} (h : x = none) : (Call.orAbort x).Aborts s t tape := by
  subst h
  exact fun _ _ => rfl

/-- **A unit of work is aborted with its body.** -/
theorem alone_inUnit {component : String} {body : Call α} (h : body.Aborts s s.committed d.tape) :
    (inUnit component body).run.alone d s = none := by
  have hbegin : (demand .begin).run.alone d s =
      some (.ok (), d.after .begin s ⟨s, some (.start s.committed)⟩, s) := Yields.alone_demand rfl
  have hbody := h (d.after .begin s ⟨s, some (.start s.committed)⟩)
    ⟨⟨.start s.committed, rfl, rfl, rfl, Write.applyAll_nil_iff.mpr rfl⟩, rfl⟩
  exact (alone_bind hbegin).trans (Program.alone_bind_none (Program.alone_bind_none hbody))

end Call.Aborts

/-! ## Reservations without an end -/

namespace StockService

variable {product : ProductId} {order : OrderId} {quantity : Int} {ttl : Span} {now : Instant}

theorem lasting_eq_none (hq : 0 < quantity) (h : now.after? ttl = none) :
    (Reservation.lasting product order quantity ttl now).run = none := by
  rw [Reservation.lasting, ensurePositive_eq_ok_iff (u := ()) |>.mpr hq, h]
  rfl

/-- An error that is not the store's own. -/
def NotOfStore (error : ServiceError) (_ : Desk) (_ : Store) : Prop :=
  ∀ failure, error ≠ .storeFailed failure

/-- A record that is replaced can only be found to be another one. -/
theorem stage_replaceStock_ok (u : UnitOfWork) (committed : Tables) (next : StockRecord) (version : Int) :
    ∃ held u', u.stage committed (.replaceStock next version) = (.ok held, u') := by
  cases happly : (Write.replaceStock next version).apply
      (u.refreshed committed (some (.stock next.product))).working with
  | ok t => exact ⟨true, _, by simp only [UnitOfWork.stage, Write.row?, happly]; rfl⟩
  | error rejection =>
    cases rejection with
    | mismatch mismatch => exact ⟨false, _, by simp only [UnitOfWork.stage, Write.row?, happly]; rfl⟩
    | failed error =>
      rw [Write.apply] at happly
      split at happly
      · cases happly
      · split at happly <;> cases happly

/-- A record is replaced in the unit of work only. -/
theorem replaceGuarded_quiet {u : UnitOfWork} {current next : StockRecord} (hunit : d.unit = some u) :
    (replaceGuarded current next).Meets .quiet (fun _ _ _ => True) NotOfStore d s := by
  refine .insist (.quietly Terms.quiet_lenient fun s' _ => ?_)
  obtain ⟨held, u', hstage⟩ := stage_replaceStock_ok u s'.committed next current.version
  refine ⟨.ok held, some u', hunit ▸ Session.stage_some hstage, fun s'' _ => ?_⟩
  cases held with
  | true => exact trivial
  | false => exact fun _ => nofun

theorem reserveIn_quiet {u : UnitOfWork} (hunit : d.unit = some u) (h : d.tape.time.after? ttl = none) :
    (reserveIn product quantity order ttl).Meets .quiet (fun _ _ _ => False) NotOfStore d s := by
  refine (Meets.now Terms.quiet_lenient).seq fun now d₁ s₁ ⟨hnow, hunit₁, _⟩ => ?_
  subst hnow
  refine (Meets.loadStock Terms.quiet_lenient (hunit₁.trans hunit) fun _ _ _ _ _ _ => nofun).seq
    fun current d₂ s₂ ⟨_, hunit₂, _⟩ => ?_
  refine .obey_bind (fun next hnext => ?_) fun _ _ _ _ _ => nofun
  refine (replaceGuarded_quiet hunit₂).seq fun _ d₃ s₃ _ => ?_
  have hnone : (Reservation.lasting product order quantity ttl d.tape.time).run = none :=
    lasting_eq_none (StockRecord.reserve_eq_ok_iff.mp hnext).1 h
  rw [openReservation, hnone]
  exact trivial

variable {settings : StockSettings} {ttl : Option Span}

/-- **A reservation without an end changes nothing**, at any of its requests and whatever the others do; and
it never ends with a value. -/
theorem reserve_quiet (h : d.tape.time.after? (ttl.getD settings.reservationTtl) = none) :
    (reserve settings product quantity order ttl).Meets .quiet (fun _ _ _ => False) NotOfStore d s :=
  .inUnit Terms.quiet_lenient
    (fun _ _ _ _ _ htape hunit _ => reserveIn_quiet hunit (htape ▸ h))
    (fun _ _ _ h => h.elim) fun _ _ _ _ _ h _ _ => h

/-! ### Alone -/

variable {record next : StockRecord} {refusal : Refusal}

theorem reserve_alone_of_absent (hlive : s.committed.liveStock? product = none) :
    ∃ d', (reserve settings product quantity order ttl).run.alone d s =
      some (.error (.notFound (.stock product)), d', s) := by
  have hfails : (reserveIn product quantity order (ttl.getD settings.reservationTtl)).Fails s s.committed
      d.tape (.notFound (.stock product)) d.tape.read := .after .now (loadStock_fails hlive).bind
  obtain ⟨d', halone, -⟩ := hfails.alone_inUnit
  exact ⟨d', halone⟩

theorem reserve_alone_of_refused (hlive : s.committed.liveStock? product = some record)
    (hrefused : record.reserve quantity d.tape.time = .error refusal) :
    ∃ d', (reserve settings product quantity order ttl).run.alone d s =
      some (.error (.refused refusal), d', s) := by
  have hobeyed : (obey (record.reserve quantity d.tape.time)).Fails s s.committed d.tape.read
      (.refused refusal) d.tape.read := by
    rw [hrefused]
    exact .throw
  have hfails : (reserveIn product quantity order (ttl.getD settings.reservationTtl)).Fails s s.committed
      d.tape (.refused refusal) d.tape.read :=
    .after .now (.after (loadStock_yields hlive) hobeyed.bind)
  obtain ⟨d', halone, -⟩ := hfails.alone_inUnit
  exact ⟨d', halone⟩

/-- The record is replaced in the unit of work, and then the end of the reservation is missing. -/
theorem reserve_alone_of_overlong (hs : s.committed.Filed)
    (h : d.tape.time.after? (ttl.getD settings.reservationTtl) = none)
    (hlive : s.committed.liveStock? product = some record)
    (hnext : record.reserve quantity d.tape.time = .ok next) :
    (reserve settings product quantity order ttl).run.alone d s = none := by
  have hproduct : next.product = product :=
    (StockRecord.SameThreshold.reserve hnext).product.trans (hs.product_of_live hlive)
  have hreplace := Write.apply_replaceStock_iff.mpr ⟨record, hproduct ▸ hlive, rfl, rfl⟩
  have hnone : (Reservation.lasting product order quantity (ttl.getD settings.reservationTtl)
      d.tape.time).run = none := lasting_eq_none (StockRecord.reserve_eq_ok_iff.mp hnext).1 h
  refine Aborts.alone_inUnit (.after .now (.after (loadStock_yields hlive) (.obey_bind hnext ?_)))
  exact .after (replaceGuarded_yields hs.reservations hreplace) (.bind (Aborts.orAbort hnone).bind)

/-- **Alone it is aborted exactly where the pieces could have been held.** -/
theorem reserve_alone_eq_none_iff (hs : s.committed.Filed)
    (h : d.tape.time.after? (ttl.getD settings.reservationTtl) = none) :
    (reserve settings product quantity order ttl).run.alone d s = none ↔
      ∃ record next, s.committed.liveStock? product = some record ∧
        record.reserve quantity d.tape.time = .ok next := by
  refine ⟨fun hnone => ?_, fun ⟨_, _, hlive, hnext⟩ => reserve_alone_of_overlong hs h hlive hnext⟩
  cases hlive : s.committed.liveStock? product with
  | none =>
    obtain ⟨d', halone⟩ := reserve_alone_of_absent hlive
    cases hnone.symm.trans halone
  | some record =>
    cases hnext : record.reserve quantity d.tape.time with
    | ok next => exact ⟨record, next, rfl, hnext⟩
    | error refusal =>
      obtain ⟨d', halone⟩ := reserve_alone_of_refused hlive hnext
      cases hnone.symm.trans halone

end StockService

end Stockroom
