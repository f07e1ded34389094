import Stockroom.Rehearsal.World

/-!
# Rehearsal/Task — what a reaper does in a turn

A reaper in the background acts when it is woken.  `World.stepPhase` is one turn of it: it goes on
with the cleanup that is under way, runs those that are due, and stops if it was told so.  A cleanup
that is not done by its deadline is given up as soon as it has to wait, or to give way.
-/

namespace Stockroom.Rehearsal

/-- **The longest wait**: thirty years of 365 days, in milliseconds.  Whoever wants to wait longer is
woken then. -/
def longestWait : Nat := 30 * 365 * 86400 * 1000

namespace Phase

/-- What wakes a task next. -/
def alarm? : Phase → Option Alarm
  | idle tick => some tick
  | sweeping _ _ deadline (some wake) _ _ =>
    some (if wake.precedes deadline then wake else deadline)
  | sweeping _ _ _ none _ _ | unstarted | stopped | dead => none

/-- Whether a task that is in this phase after its turn has more to do at once. -/
def gaveWay (timer : Nat) : Phase → Bool
  | idle tick => tick.due ≤ timer
  | sweeping _ _ _ wake _ _ => wake.isNone
  | unstarted | stopped | dead => false

end Phase

namespace ReaperTask

/-- Whether the task has said its last word. -/
def isStopped (task : ReaperTask) : Bool :=
  match task.phase with
  | .stopped => true
  | _ => false

/-- Whether nothing more can come of the task. -/
def isOver (task : ReaperTask) : Bool :=
  match task.phase with
  | .stopped | .dead => true
  | _ => false

/-- Whether the task notices at once what it is told; one that is at work notices it afterwards. -/
def isListening (task : ReaperTask) : Bool :=
  match task.phase with
  | .idle _ => true
  | _ => false

end ReaperTask

namespace World

/-- The reading of the timer after a wait. -/
def ahead (w : World) (millis : Nat) : Nat := w.timer + min millis longestWait

/-- A new alarm. -/
def setAlarm (w : World) (due : Nat) : Alarm × World :=
  (⟨min due (w.timer + longestWait), w.alarms⟩, { w with alarms := w.alarms + 1 })

/-- Waits for a time, as the task between two runs. -/
def idleUntil (w : World) (due : Nat) : Phase × World :=
  let (tick, w) := w.setAlarm due
  (.idle tick, w)

/-- What came of a cleanup, or of a part of it. -/
inductive Standing where
  /-- It is over, and the next one is due at `due`. -/
  | over (due : Nat)
  | pending (phase : Phase)

/-- What a cleanup comes to that got as far as `step`.  One that gives way is asked whether it is late
only if it was `rested`, that is, if it began its turn with some allowance. -/
def standing (next : Nat) (run : CorrelationId) (deadline : Alarm) (rested : Bool)
    (step : Progress (Except ServiceError StockService.CleanupReport) × World) :
    Standing × World :=
  let timedOut (w : World) : Standing × World :=
    (.over next, w.noted (Reaper.timedOutRecord run w.stockSettings.cleanupTimeout))
  match step with
  | (.done (.ok _), w) => (.over next, w)
  | (.done (.error error), w) => (.over next, w.noted (Reaper.failedRecord run error))
  | (.aborted, w) => (.pending .dead, w)
  | (.asleep millis rest hands, w) =>
    if w.timer < deadline.due then
      let (wake, w) := w.setAlarm (w.timer + millis)
      (.pending (.sweeping next run deadline wake rest hands), w)
    else timedOut w.met
  | (.gaveWay rest hands, w) =>
    if rested ∧ deadline.due ≤ w.timer then timedOut w
    else (.pending (.sweeping next run deadline none rest hands), w)

/-- The cleanup as the service runs it. -/
def cleanup (w : World) : Program Rig (Except ServiceError StockService.CleanupReport) :=
  rigged (StockService.cleanup w.stockSettings).run

/-- Stops if the task was told so, and otherwise runs the cleanups that are due.  Not more than
`runs` of them are due one after the other. -/
def await (interval : Nat) (dismissed : Bool) : (runs due : Nat) → World → Phase × World
  | 0, due, w => w.idleUntil due
  | runs + 1, due, w =>
    if dismissed then (.stopped, w.noted Reaper.stoppedRecord)
    else if due ≤ w.timer ∧ 0 < w.allowance then
      let next := Reaper.nextDue interval due w.timer
      let (run, w) := w.met.draw
      let (deadline, w) := w.setAlarm (w.timer + w.stockSettings.cleanupTimeout)
      match standing next run deadline (0 < w.allowance) (advance w.cleanup w .empty) with
      | (.over due, w) => await interval dismissed runs due w
      | (.pending phase, w) => (phase, w)
    else w.idleUntil due

/-- **What a task does when it is woken**: its next phase, and the world after that.  Of the runs that
it is late with by no more than the tolerance, each has its turn. -/
def stepPhase (w : World) (task : ReaperTask) : Phase × World :=
  let await := await task.interval task.dismissed (Reaper.tolerance + 2)
  match task.phase with
  | .unstarted =>
    if task.interval = 0 then (.dead, w)
    else await (w.timer + task.interval) (w.met.noted (Reaper.startedRecord task.interval))
  | .idle tick =>
    if task.dismissed ∨ tick.due ≤ w.timer then await tick.due w else (.idle tick, w)
  | .sweeping next run deadline wake rest hands =>
    if wake.all (·.due ≤ w.timer) then
      let w := if wake.isSome then w.met else w
      match standing next run deadline true (advance rest w hands) with
      | (.over due, w) => await due w
      | (.pending phase, w) => (phase, w)
    else if deadline.due ≤ w.timer then
      await next (w.met.noted (Reaper.timedOutRecord run w.stockSettings.cleanupTimeout))
    else (.sweeping next run deadline wake rest hands, w)
  | .stopped => (.stopped, w)
  | .dead => (.dead, w)

end World

end Stockroom.Rehearsal
