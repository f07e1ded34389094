import Stockroom.Order.Lifecycle
import Stockroom.Proofs.Data.Except

/-!
# Proofs/Order/Lifecycle — what an order tells about the moves that were tried

A move needs the status that it starts from and nothing else (`OrderMove.apply_eq_ok_iff`), and on an order
where it stands it does the same, or writes nothing (`OrderMove.carryOut_eq`).

An `Order.Trial` is a move that is tried at some time.  **However many trials there are, and whichever of them
fail, the order tells those that succeeded** (`Order.Tells`): its status tells the moves, and its times tell
when they were made.
-/

namespace Stockroom

/-! ## Where a move leads -/

namespace OrderMove

/-- The status that a move starts from. -/
def source : OrderMove → OrderStatus
  | pay | cancel => .pending
  | ship => .paid
  | complete => .shipped

/-- The status that a move leads to. -/
def target : OrderMove → OrderStatus
  | pay => .paid
  | ship => .shipped
  | complete => .completed
  | cancel => .cancelled

end OrderMove

namespace Timeline

/-- When a move was made. -/
def time? (t : Timeline) : OrderMove → Option Instant
  | .pay => t.paidAt
  | .ship => t.shippedAt
  | .complete => t.completedAt
  | .cancel => t.cancelledAt

/-- The times after a move. -/
def after (t : Timeline) (now : Instant) : OrderMove → Timeline
  | .pay => { t with paidAt := some now, updatedAt := now }
  | .ship => { t with shippedAt := some now, updatedAt := now }
  | .complete => { t with completedAt := some now, updatedAt := now }
  | .cancel => { t with cancelledAt := some now, updatedAt := now }

@[simp] theorem updatedAt_after (t : Timeline) (now : Instant) (move : OrderMove) :
    (t.after now move).updatedAt = now := by
  cases move <;> rfl

/-- **A move leaves the times of the others alone.** -/
theorem time?_after (t : Timeline) (now : Instant) (move other : OrderMove) :
    (t.after now move).time? other = if move = other then some now else t.time? other := by
  cases move <;> cases other <;> rfl

end Timeline

namespace OrderMove

variable {move : OrderMove} {o moved : Order} {now : Instant}

/-- The order after a move. -/
def lead (move : OrderMove) (o : Order) (now : Instant) : Order :=
  { o with status := move.target, timeline := o.timeline.after now move }

/-- **A move needs the status that it starts from**, and nothing else. -/
theorem apply_eq_ok_iff :
    move.apply o now = .ok moved ↔ o.status = move.source ∧ moved = move.lead o now := by
  obtain ⟨id, draft, status, timeline⟩ := o
  cases move <;> cases status <;>
    simp [apply, Order.pay, Order.ship, Order.complete, Order.cancel, Order.moveTo, source, lead, target,
      Timeline.after, eq_comm]

/-- **A move where the order stands is the move of the order**, and one that is turned down has written
nothing. -/
theorem carryOut_eq (move : OrderMove) (now : Instant) (o : Order) :
    move.carryOut now o = match move.apply o now with
      | .ok moved => .ok () moved
      | .error refusal => .error refusal o := by
  obtain ⟨id, draft, status, timeline⟩ := o
  cases move <;> cases status <;> rfl

theorem carryOut_of_source (h : o.status = move.source) (now : Instant) :
    move.carryOut now o = .ok () (move.lead o now) := by
  rw [carryOut_eq, apply_eq_ok_iff.mpr ⟨h, rfl⟩]

theorem carryOut_of_ne (h : o.status ≠ move.source) (now : Instant) :
    ∃ refusal, move.carryOut now o = .error refusal o := by
  rw [carryOut_eq]
  cases hmove : move.apply o now with
  | ok moved => exact absurd (apply_eq_ok_iff.mp hmove).1 h
  | error refusal => exact ⟨refusal, rfl⟩

end OrderMove

/-! ## Trials -/

namespace Order

/-- A move that is tried at some time. -/
structure Trial where
  move : OrderMove
  now : Instant
deriving DecidableEq, Repr

variable {o : Order} {trial : Trial}

/-- Whether a trial succeeds. -/
def accepts (o : Order) (trial : Trial) : Bool :=
  match trial.move.carryOut trial.now o with
  | .ok .. => true
  | .error .. => false

/-- The order that a trial leaves behind, whether or not it succeeds. -/
def after (o : Order) (trial : Trial) : Order :=
  match trial.move.carryOut trial.now o with
  | .ok _ moved => moved
  | .error _ left => left

/-- The order that trials leave behind. -/
def afterAll (o : Order) (trials : List Trial) : Order := trials.foldl after o

/-- The trials that succeed. -/
def successes (o : Order) : List Trial → List Trial
  | [] => []
  | trial :: trials =>
    if o.accepts trial then trial :: (o.after trial).successes trials
    else (o.after trial).successes trials

theorem accepts_iff : o.accepts trial ↔ o.status = trial.move.source := by
  by_cases h : o.status = trial.move.source
  · simp [accepts, OrderMove.carryOut_of_source h, h]
  · obtain ⟨refusal, hrefused⟩ := OrderMove.carryOut_of_ne h trial.now
    simp [accepts, hrefused, h]

theorem after_of_accepts (h : o.accepts trial) : o.after trial = trial.move.lead o trial.now := by
  rw [after, OrderMove.carryOut_of_source (accepts_iff.mp h)]

/-- **A trial that fails leaves the order as it was.** -/
theorem after_of_not_accepts (h : ¬o.accepts trial) : o.after trial = o := by
  obtain ⟨refusal, hrefused⟩ := OrderMove.carryOut_of_ne (mt accepts_iff.mpr h) trial.now
  rw [after, hrefused]

end Order

/-! ## What an order tells -/

/-- The moves that lead to a status. -/
def OrderStatus.moves : OrderStatus → List OrderMove
  | pending => []
  | paid => [.pay]
  | shipped => [.pay, .ship]
  | completed => [.pay, .ship, .complete]
  | cancelled => [.cancel]

theorem OrderMove.moves_target (move : OrderMove) :
    move.target.moves = move.source.moves ++ [move] := by
  cases move <;> rfl

theorem OrderMove.not_mem_moves_source (move : OrderMove) : move ∉ move.source.moves := by
  cases move <;> decide

/-- **An order tells the trials that succeeded** since it was `new`: its status tells their moves, and each of
its times is that of the one trial that made the move. -/
structure Order.Tells (o new : Order) (made : List Order.Trial) : Prop where
  id : o.id = new.id
  draft : o.draft = new.draft
  moves : made.map Trial.move = o.status.moves
  times : ∀ move, (made.filter (·.move = move)).map Trial.now = (o.timeline.time? move).toList
  updatedAt : o.timeline.updatedAt = (made.getLast?.map Trial.now).getD new.draft.createdAt

namespace Order.Tells

variable {o new : Order} {trial : Trial} {made : List Trial}

theorem start (draft : Draft) (id : OrderId) : (draft.toOrder id).Tells (draft.toOrder id) [] where
  id := rfl
  draft := rfl
  moves := rfl
  times move := by cases move <;> rfl
  updatedAt := rfl

/-- A move has a time if it is one of those that lead to the status. -/
theorem isSome_time?_iff (h : o.Tells new made) (move : OrderMove) :
    (o.timeline.time? move).isSome ↔ move ∈ o.status.moves := by
  have htimes := h.times move
  rw [← h.moves, List.mem_map]
  cases htime : o.timeline.time? move with
  | none =>
    rw [htime, Option.toList_none, List.map_eq_nil_iff, List.filter_eq_nil_iff] at htimes
    simpa using htimes
  | some now =>
    rw [htime, Option.toList_some] at htimes
    have hmem : now ∈ (made.filter (·.move = move)).map Trial.now :=
      htimes ▸ List.mem_singleton_self now
    obtain ⟨trial, htrial, -⟩ := List.mem_map.mp hmem
    have := List.mem_filter.mp htrial
    simpa using ⟨trial, this.1, by simpa using this.2⟩

/-- The move of a trial that succeeds is not among those before it, so its time was still free. -/
theorem lead (h : o.Tells new made) (hsource : o.status = trial.move.source) :
    (trial.move.lead o trial.now).Tells new (made ++ [trial]) where
  id := h.id
  draft := h.draft
  moves := by simp [h.moves, hsource, OrderMove.lead, OrderMove.moves_target]
  times move := by
    by_cases heq : trial.move = move
    · have hnone : o.timeline.time? move = none := by
        rw [← Option.not_isSome_iff_eq_none, h.isSome_time?_iff, hsource, heq]
        exact move.not_mem_moves_source
      simp [List.filter_append, h.times, OrderMove.lead, Timeline.time?_after, heq, hnone]
    · simp [List.filter_append, h.times, OrderMove.lead, Timeline.time?_after, heq]
  updatedAt := by simp [OrderMove.lead]

/-- **Trials keep what an order tells.** -/
theorem run (h : o.Tells new made) (trials : List Trial) :
    (o.afterAll trials).Tells new (made ++ o.successes trials) := by
  induction trials generalizing o made with
  | nil => simpa [afterAll, successes] using h
  | cons trial trials ih =>
    by_cases haccepts : o.accepts trial
    · have hlead := h.lead (accepts_iff.mp haccepts)
      rw [← after_of_accepts haccepts] at hlead
      simpa [afterAll, successes, haccepts] using ih hlead
    · rw [afterAll, List.foldl_cons, successes, if_neg haccepts, after_of_not_accepts haccepts]
      exact ih h

theorem length_le (h : o.Tells new made) : made.length ≤ 3 := by
  rw [← List.length_map (f := Trial.move), h.moves]
  cases o.status <;> decide

end Order.Tells

/-- **The lifecycle of an order.**  Whatever is tried on a new order and whenever, the times that are set are
those of its status; each of them is the time of the one trial that succeeded with its move, and the order was
last updated when the last trial succeeded.  A trial that fails leaves no trace, at most three succeed, and
number and draft stay. -/
theorem Order.lifecycle_run (draft : Draft) (id : OrderId) (trials : List Order.Trial) :
    let new := draft.toOrder id
    let o := new.afterAll trials
    let made := new.successes trials
    (o.timeline.paidAt.isSome ↔ o.status = .paid ∨ o.status = .shipped ∨ o.status = .completed) ∧
      (o.timeline.shippedAt.isSome ↔ o.status = .shipped ∨ o.status = .completed) ∧
      (o.timeline.completedAt.isSome ↔ o.status = .completed) ∧
      (o.timeline.cancelledAt.isSome ↔ o.status = .cancelled) ∧
      (∀ move, (made.filter (·.move = move)).map Trial.now = (o.timeline.time? move).toList) ∧
      o.timeline.updatedAt = (made.getLast?.map Trial.now).getD draft.createdAt ∧
      (∀ trial, ¬o.accepts trial → o.after trial = o) ∧ made.length ≤ 3 ∧ o.id = id ∧ o.draft = draft := by
  intro new o made
  have htells : o.Tells new made := (Order.Tells.start draft id).run trials
  have hpaid := htells.isSome_time?_iff .pay
  have hshipped := htells.isSome_time?_iff .ship
  have hcompleted := htells.isSome_time?_iff .complete
  have hcancelled := htells.isSome_time?_iff .cancel
  refine ⟨hpaid.trans ?_, hshipped.trans ?_, hcompleted.trans ?_, hcancelled.trans ?_, htells.times,
    htells.updatedAt, fun trial => Order.after_of_not_accepts, htells.length_le, htells.id,
    htells.draft⟩ <;> cases o.status <;> simp [OrderStatus.moves]

/-- An order that is shipped too early and paid twice. -/
example (draft : Draft) (id : OrderId) :
    (draft.toOrder id).successes [⟨.ship, ⟨30⟩⟩, ⟨.pay, ⟨20⟩⟩, ⟨.pay, ⟨10⟩⟩, ⟨.ship, ⟨10⟩⟩] =
      [⟨.pay, ⟨20⟩⟩, ⟨.ship, ⟨10⟩⟩] := rfl

end Stockroom
