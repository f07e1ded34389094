import Stockroom.Proofs.Crowd.Desk
import Stockroom.Proofs.Crowd.Plan

/-!
# Proofs/Service/Stock — the calls that move stock plan their movements

Each call whose name ends in `In` reads the clock once and **ends with the writes of one planned
movement**, in whatever unit of work it runs (`reserveIn_plans` and the like).  The rows that it reads
must not have been written in that unit before; within one order they are not, because its items are
different products.
-/

namespace Stockroom

open Store Call

variable {A : ServiceCall → Prop} {call : ServiceCall} {s : Store} {d : Desk} {tape : Tape}
  {commits : List Deed} {writes : List Write} {product : ProductId} {order : OrderId}
  {quantity : Int}

namespace StockService

/-! ## Steps inside a unit of work -/

theorem loadStock_sees (h : d.At A (some writes) tape commits s)
    (hnew : .stock product ∉ writes.filterMap Write.row?) :
    (loadStock product).Assured A call (fun record d s => d.At A (some writes) tape commits s ∧
      Was A s fun t => t.liveStock? product = some record) d s := by
  refine (h.findStock product).bind fun found d' s' _ hQ => ?_
  cases found with
  | none => exact .throw
  | some record => exact .pure fun s'' hl => ⟨(hQ s'' hl).1, (hQ s'' hl).2 hnew⟩

/-- A record that was written is read as the unit of work shows it. -/
theorem loadStock_shows {u : UnitOfWork} {shown : StockRecord} (h : d.At A (some writes) tape commits s)
    (hu : d.unit = some u) (hshown : u.working.liveStock? product = some shown) :
    (loadStock product).Assured A call (fun record d s => d.At A (some writes) tape commits s ∧
      record = shown) d s := by
  refine (h.showsStock hu product).bind fun found d' s' _ hQ => ?_
  obtain ⟨-, rfl⟩ := hQ s' (.refl s')
  rw [hshown]
  exact .pure fun s'' hl => ⟨(hQ s'' hl).1, rfl⟩

/-- A conditional write is remembered if its condition held. -/
theorem held_of_answer {session : Session} {w : Write} {held : Bool}
    (h : (session.stage w).1 = .ok held) (hheld : held = true) : (session.stage w).1 = .ok true :=
  hheld ▸ h

/-- A write without a condition is remembered if it did not fail. -/
theorem held_of_stageUnit {session : Session} {w : Write} {u : Unit}
    (hw : ∀ t mismatch, w.apply t ≠ .error (.mismatch mismatch))
    (h : (session.stageUnit w).1 = .ok u) : (session.stage w).1 = .ok true := by
  obtain ⟨held, hheld, -⟩ := map_eq_ok_iff.mp h
  exact held_of_answer hheld (Session.stage_held hw hheld)

theorem replaceGuarded_writes {current next : StockRecord}
    (h : d.At A (some writes) tape commits s) :
    (replaceGuarded current next).Assured A call (fun _ d s =>
      d.At A (some (writes ++ [.replaceStock next current.version])) tape commits s) d s :=
  .insist <| h.write (r := .replaceStock next current.version) (P := (· = true)) fun _ =>
    ⟨rfl, fun _ => held_of_answer⟩

/-- A restock is added to a record that was committed, and the unit of work shows what came out. -/
theorem increaseStock_writes {now : Instant} {otherwise : ServiceError}
    (h : d.At A (some writes) tape commits s) (hstock : .stock product ∉ writes.filterMap Write.row?) :
    (insist (within (.increaseStock product quantity now)) otherwise).Assured A call (fun _ d s =>
      d.At A (some (writes ++ [.increaseStock product quantity now])) tape commits s ∧
        ∃ seen shown u, Was A s (fun t => t.liveStock? product = some seen) ∧
          seen.restock quantity now = .ok shown ∧ d.unit = some u ∧
          u.working.liveStock? product = some shown) d s :=
  .insist (h.increaseStock hstock)

theorem settle_writes {status : ReservationStatus} {now : Instant}
    (h : d.At A (some writes) tape commits s) :
    (settle product order status now).Assured A call (fun _ d s =>
      d.At A (some (writes ++ [.moveReservation product order .active status now])) tape commits s)
      d s :=
  .insist <| h.write (r := .moveReservation product order .active status now) (P := (· = true))
    fun _ => ⟨rfl, fun _ => held_of_answer⟩

theorem insertReservation_writes {reservation : Reservation}
    (h : d.At A (some writes) tape commits s) :
    (within (.insertReservation reservation)).Assured A call (fun _ d s =>
      d.At A (some (writes ++ [.insertReservation reservation])) tape commits s) d s := by
  refine (h.write (r := .insertReservation reservation) (P := fun _ => True) fun _ =>
    ⟨rfl, fun _ hanswer _ => held_of_stageUnit (fun t m happly => ?_) hanswer⟩).mono
    fun _ _ _ _ h => h trivial
  rw [Write.apply] at happly
  split at happly <;> cases happly

theorem appendEntry_writes {entry : Entry} (h : d.At A (some writes) tape commits s) :
    (within (.appendEntry entry)).Assured A call (fun _ d s =>
      d.At A (some (writes ++ [.appendEntry entry])) tape commits s) d s := by
  refine (h.write (r := .appendEntry entry) (P := fun _ => True) fun _ =>
    ⟨rfl, fun _ hanswer _ => held_of_stageUnit (fun t m happly => ?_) hanswer⟩).mono
    fun _ _ _ _ h => h trivial
  cases happly

theorem report_keeps {work : Option (List Write)} {level : LogLevel} {message : String}
    {context : List (String × String)} {correlation : Option CorrelationId}
    (h : d.At A work tape commits s) :
    (report level message context correlation).Assured A call
      (fun _ d s => d.At A work tape commits s) d s :=
  h.log _

/-- What is loaded to be settled was there at some time, and could be settled then. -/
theorem loadSettleable_sees (h : d.At A (some writes) tape commits s)
    (hnew : .reservation ⟨product, order⟩ ∉ writes.filterMap Write.row?) :
    (loadSettleable product order quantity).Assured A call (fun _ d s =>
      d.At A (some writes) tape commits s ∧
        Was A s fun t => ∃ r, t.reservation? product order = some r ∧
          r.ensureSettleable quantity = .ok ()) d s := by
  refine (h.findReservation product order).bind fun found d' s' _ hQ => ?_
  cases found with
  | none => exact .throw
  | some r =>
    refine .obey_bind fun _ hsettle => .pure fun s'' hl => ⟨(hQ s'' hl).1, ?_⟩
    exact ((hQ s'' hl).2 hnew).imp fun _ _ hr => ⟨r, hr, hsettle⟩

theorem expiry_of_lasting {ttl : Span} {now : Instant} {r : Reservation}
    (h : (Reservation.lasting product order quantity ttl now).run = some (.ok r)) :
    ∃ expiresAt, now.after? ttl = some expiresAt ∧
      r = .start product order quantity expiresAt now := by
  unfold Reservation.lasting at h
  cases hq : ensurePositive quantity with
  | error refusal =>
    rw [hq] at h
    cases h
  | ok u =>
    cases he : now.after? ttl with
    | none =>
      rw [hq, he] at h
      cases h
    | some expiresAt =>
      rw [hq, he] at h
      cases h
      exact ⟨expiresAt, rfl, rfl⟩

/-- A reservation is opened only if its end lies in the calendar. -/
theorem openReservation_bind {α : Type} {R : α → Desk → Store → Prop} {ttl : Span} {now : Instant}
    {f : Reservation → Call α}
    (h : ∀ expiresAt, now.after? ttl = some expiresAt →
      (f (.start product order quantity expiresAt now)).Assured A call R d s) :
    (openReservation product order quantity ttl now >>= f).Assured A call R d s := by
  rw [openReservation, bind_assoc]
  refine .orAbort_bind fun opened hopened => .obey_bind fun r hr => ?_
  subst hr
  obtain ⟨expiresAt, hexpires, rfl⟩ := expiry_of_lasting hopened
  exact h expiresAt hexpires

/-! ## Movements -/

/-- **A reservation is planned**, and the entry for it. -/
theorem reserveIn_plans {ttl : Span} (h : d.At A (some writes) tape commits s)
    (hstock : .stock product ∉ writes.filterMap Write.row?) :
    (reserveIn product quantity order ttl).Assured A call (fun next d s => ∃ planned expiresAt,
      d.At A (some (writes ++ planned)) tape.read commits s ∧
        tape.time.after? ttl = some expiresAt ∧
        (Movement.reserve product quantity order expiresAt tape.time).Planned A s next planned) d s := by
  refine h.now.seq fun now d s _ ⟨hnow, h⟩ => ?_
  subst hnow
  refine (loadStock_sees h hstock).seq fun seen d s _ ⟨h, hseen⟩ => .obey_bind fun next hnext => ?_
  refine (replaceGuarded_writes h).seq fun _ d s hl₁ h => ?_
  refine openReservation_bind fun expiresAt hexpires => ?_
  refine (insertReservation_writes h).seq fun _ d s hl₂ h => ?_
  refine (appendEntry_writes h).seq fun _ d s hl₃ h => ?_
  refine (report_keeps h).seq fun _ d s hl₄ h => .pure fun s' hl₅ => ?_
  have hseen' := hseen.later ((((hl₁.trans hl₂).trans hl₃).trans hl₄).trans hl₅)
  obtain rfl : next.product = product := Movement.product_of_seen
    (m := .reserve product quantity order expiresAt tape.time) hseen' hnext
  refine ⟨_, expiresAt, ?_, hexpires, .guarded nofun hseen' nofun hnext⟩
  rw [List.append_assoc, List.append_assoc] at h
  exact h.later hl₅

/-- How the reservation of a pair is settled. -/
inductive Settlement where
  | release (target : ReleaseTarget)
  | deduct

namespace Settlement

variable {now : Instant}

def movement (product : ProductId) (quantity : Int) (order : OrderId) (now : Instant) :
    Settlement → Movement
  | release target => .release product quantity order target now
  | deduct => .deduct product quantity order now

/-- The status that the reservation ends in. -/
def status : Settlement → ReservationStatus
  | release target => target.status
  | deduct => .confirmed

/-- What is reported. -/
def message : Settlement → String
  | release _ => "予約を解放しました"
  | deduct => "在庫を出庫確定しました"

@[simp] theorem movement_product (how : Settlement) :
    (how.movement product quantity order now).product = product := by
  cases how <;> rfl

@[simp] theorem movement_settles? (how : Settlement) :
    (how.movement product quantity order now).settles? = some (order, quantity) := by
  cases how <;> rfl

theorem movement_kind_ne (how : Settlement) :
    (how.movement product quantity order now).kind ≠ .restock := by
  cases how <;> exact nofun

end Settlement

/-- **What releasing and deducting share**: a reservation is settled as a whole, and the record of its
product moves along. -/
def settleIn (how : Settlement) (product : ProductId) (quantity : Int) (order : OrderId) :
    Call StockRecord := do
  let now ← now
  let movement := how.movement product quantity order now
  let _ ← loadSettleable product order quantity
  let current ← loadStock product
  let next ← obey (movement.next current)
  replaceGuarded current next
  settle product order how.status now
  let entry := Entry.ofRecords movement.kind movement.change current next now
  within (.appendEntry ((entry.forOrder order).because movement.reason))
  report .debug how.message (movementContext product order quantity next) none
  return next

theorem releaseIn_eq_settleIn {target : ReleaseTarget} :
    releaseIn product quantity order target = settleIn (.release target) product quantity order :=
  rfl

theorem deductIn_eq_settleIn :
    deductIn product quantity order = settleIn .deduct product quantity order := rfl

/-- The writes of a settled reservation, in the order in which they are made. -/
theorem Settlement.guardedWrites_movement (how : Settlement) {now : Instant}
    (seen next : StockRecord) :
    (how.movement next.product quantity order now).guardedWrites seen next =
      [ .replaceStock next seen.version,
        .moveReservation next.product order .active how.status now,
        .appendEntry (((Entry.ofRecords (how.movement next.product quantity order now).kind
          (how.movement next.product quantity order now).change seen next now).forOrder
            order).because (how.movement next.product quantity order now).reason) ] := by
  cases how <;> rfl

/-- **A settlement is planned**, if its reservation was not written in this unit of work. -/
theorem settleIn_plans (how : Settlement) (h : d.At A (some writes) tape commits s)
    (hstock : .stock product ∉ writes.filterMap Write.row?)
    (hnew : .reservation ⟨product, order⟩ ∉ writes.filterMap Write.row?) :
    (settleIn how product quantity order).Assured A call (fun next d s => ∃ planned,
      d.At A (some (writes ++ planned)) tape.read commits s ∧
        (how.movement product quantity order tape.time).Planned A s next planned) d s := by
  refine h.now.seq fun now d s _ ⟨hnow, h⟩ => ?_
  subst hnow
  refine (loadSettleable_sees h hnew).seq fun _ d s _ ⟨h, hheld⟩ => ?_
  refine (loadStock_sees h hstock).seq fun seen d s hl₀ ⟨h, hseen⟩ =>
    .obey_bind fun next hnext => ?_
  refine (replaceGuarded_writes h).seq fun _ d s hl₁ h => ?_
  refine (settle_writes h).seq fun _ d s hl₂ h => ?_
  refine (appendEntry_writes h).seq fun _ d s hl₃ h => ?_
  refine (report_keeps h).seq fun _ d s hl₄ h => .pure fun s' hl₅ => ?_
  have hl := (((hl₁.trans hl₂).trans hl₃).trans hl₄).trans hl₅
  have hseen' : Was A s' fun t => t.liveStock?
      (how.movement product quantity order tape.time).product = some seen := by
    rw [how.movement_product]
    exact hseen.later hl
  obtain rfl : next.product = product :=
    (Movement.product_of_seen hseen' hnext).trans how.movement_product
  refine ⟨_, ?_, .guarded how.movement_kind_ne hseen' ?_ hnext⟩
  · rw [how.guardedWrites_movement]
    rw [List.append_assoc, List.append_assoc] at h
    exact h.later hl₅
  · intro order' quantity' hsettles
    rw [how.movement_settles?] at hsettles
    cases hsettles
    rw [how.movement_product]
    exact hheld.later (hl₀.trans hl)

/-- **A release is planned.** -/
theorem releaseIn_plans {target : ReleaseTarget} (h : d.At A (some writes) tape commits s)
    (hstock : .stock product ∉ writes.filterMap Write.row?)
    (hnew : .reservation ⟨product, order⟩ ∉ writes.filterMap Write.row?) :
    (releaseIn product quantity order target).Assured A call (fun next d s => ∃ planned,
      d.At A (some (writes ++ planned)) tape.read commits s ∧
        (Movement.release product quantity order target tape.time).Planned A s next planned) d s := by
  rw [releaseIn_eq_settleIn]
  exact settleIn_plans (.release target) h hstock hnew

/-- **A deduction is planned.** -/
theorem deductIn_plans (h : d.At A (some writes) tape commits s)
    (hstock : .stock product ∉ writes.filterMap Write.row?)
    (hnew : .reservation ⟨product, order⟩ ∉ writes.filterMap Write.row?) :
    (deductIn product quantity order).Assured A call (fun next d s => ∃ planned,
      d.At A (some (writes ++ planned)) tape.read commits s ∧
        (Movement.deduct product quantity order tape.time).Planned A s next planned) d s := by
  rw [deductIn_eq_settleIn]
  exact settleIn_plans .deduct h hstock hnew

/-- **A restock is planned**; its entry shows the record that is read back. -/
theorem restockIn_plans {reason : Option String} {operator : Option OperatorId}
    (h : d.At A (some writes) tape commits s)
    (hstock : .stock product ∉ writes.filterMap Write.row?) :
    (restockIn product quantity reason operator).Assured A call (fun after d s => ∃ planned,
      d.At A (some (writes ++ planned)) tape.read commits s ∧
        (Movement.restock product quantity reason operator tape.time).Planned A s after planned)
      d s := by
  refine h.now.seq fun now d s _ ⟨hnow, h⟩ => ?_
  subst hnow
  refine (loadStock_sees h hstock).seq fun current d s _ ⟨h, _⟩ => .obey_bind fun _ _ => ?_
  refine (increaseStock_writes h hstock).seq fun _ d s _ ⟨h, seen, shown, u, hseen, hrestock, hu, hshown⟩ => ?_
  refine (loadStock_shows h hu hshown).seq fun after d s hl₁ ⟨h, hafter⟩ => ?_
  subst hafter
  refine (appendEntry_writes h).seq fun _ d s hl₂ h => .pure fun s' hl₃ => ?_
  refine ⟨_, ?_, .restock (hseen.later ((hl₁.trans hl₂).trans hl₃)) hrestock⟩
  rw [List.append_assoc] at h
  exact h.later hl₃

/-- **An adjustment is planned**, and the entry for it. -/
theorem adjustIn_plans {delta : Int} {reason : Option String} {operator : Option OperatorId}
    (h : d.At A (some writes) tape commits s)
    (hstock : .stock product ∉ writes.filterMap Write.row?) :
    (adjustIn product delta reason operator).Assured A call (fun next d s => ∃ planned,
      d.At A (some (writes ++ planned)) tape.read commits s ∧
        (Movement.adjust product delta reason operator tape.time).Planned A s next planned) d s := by
  refine h.now.seq fun now d s _ ⟨hnow, h⟩ => ?_
  subst hnow
  refine (loadStock_sees h hstock).seq fun seen d s _ ⟨h, hseen⟩ => .obey_bind fun next hnext => ?_
  refine (replaceGuarded_writes h).seq fun _ d s hl₁ h => ?_
  refine (appendEntry_writes h).seq fun _ d s hl₂ h => .pure fun s' hl₃ => ?_
  have hseen' := hseen.later ((hl₁.trans hl₂).trans hl₃)
  obtain rfl : next.product = product := Movement.product_of_seen
    (m := .adjust product delta reason operator tape.time) hseen' hnext
  refine ⟨_, ?_, .guarded nofun hseen' nofun hnext⟩
  rw [List.append_assoc] at h
  exact h.later hl₃

end StockService

end Stockroom
