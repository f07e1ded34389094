import Stockroom.Rehearsal.Task

/-!
# Rehearsal/Stage — running calls while time passes

Waiting takes no real time: the timer jumps from alarm to alarm (`World.elapse`).  Somebody who is
woken acts until it has to wait again or its turn is over, and those who are woken act in the order
in which that happened.  `World.perform` runs a call in the foreground, with or without a deadline.
An alarm that goes off at the end of a wait in the foreground wakes its reaper, which acts when the
foreground waits or gives way the next time.
-/

namespace Stockroom.Rehearsal.World

/-! ## Waking -/

/-- Wakes a reaper, if it is not awake. -/
def wake (w : World) (i : Nat) : World :=
  if i ∈ w.woken then w else { w with woken := w.woken ++ [i] }

/-- Wakes a reaper that is listening. -/
def nudge (w : World) (i : Nat) : World :=
  if (w.reapers[i]?.map ReaperTask.isListening).getD false then w.wake i else w

/-- Lets one task have its turn. -/
def runTask (w : World) (i : Nat) : World :=
  match w.reapers[i]? with
  | none => w
  | some task =>
    let (phase, after) := stepPhase { w with allowance := turnLength } task
    { after with
      reapers := after.reapers.set i { task with phase := phase }
      gaveWay := if phase.gaveWay after.timer then i :: after.gaveWay else after.gaveWay }

/-- Lets all who were woken have a turn. -/
def runWoken (w : World) : World := w.woken.foldl runTask { w with woken := [] }

/-- Wakes those who gave way. -/
def wakePatient (w : World) : World := w.gaveWay.foldl wake { w with gaveWay := [] }

/-- **Gives way**: those who were woken have a turn, and then a new turn begins. -/
def giveWay (w : World) : World := { w.runWoken.wakePatient with allowance := turnLength }

/-- Gives way if the turn is used up. -/
def ready (w : World) : World := if w.allowance = 0 then w.giveWay else w

/-- Turn after turn until nobody has anything to do but wait. -/
def settle : (rounds : Nat) → World → World
  | 0, w => w
  | rounds + 1, w =>
    let w := w.runWoken
    if w.gaveWay.isEmpty then w else settle rounds w.wakePatient

/-- More turns than a task needs before it has to wait: in one run a reservation takes less than a
turn, and only so many runs are due at a time. -/
def rounds (w : World) : Nat :=
  (Reaper.tolerance + 2) * (w.store.committed.reservations.values.length + 2)

/-! ## Time -/

/-- The alarms of all tasks, each with the position of its task. -/
def pendingAlarms (w : World) : List (Alarm × Nat) :=
  w.reapers.zipIdx.filterMap fun (task, i) => task.phase.alarm?.map fun alarm => (alarm, i)

/-- When the next alarm goes off. -/
def nextAlarm? (w : World) : Option Nat := (w.pendingAlarms.map fun (alarm, _) => alarm.due).min?

/-- **Sets the timer forward.**  The alarms that are due by then wake their tasks. -/
def strike (w : World) (time : Nat) : World :=
  let time := max time w.timer
  let due := w.pendingAlarms.filter fun (alarm, _) => alarm.due ≤ time
  (due.mergeSort fun a b => !b.1.precedes a.1).foldl (fun w (_, i) => w.wake i)
    { w with timer := time }

/-- Lets the tasks act, and goes from alarm to alarm as long as they are due before `horizon`. -/
def elapseBefore (horizon : Nat) : (strikes : Nat) → World → World
  | 0, w => w
  | strikes + 1, w =>
    let w := settle w.rounds w
    match w.nextAlarm? with
    | some due => if due < horizon then elapseBefore horizon strikes (w.strike due) else w
    | none => w

/-- **Lets time pass** until the timer shows `horizon`. -/
def elapse (w : World) (horizon : Nat) : World :=
  if horizon ≤ w.timer then w
  else (elapseBefore horizon (horizon - w.timer) w).strike horizon

/-- Waits in the foreground, in a turn that ends if time has to pass. -/
def waitUntil (w : World) (time : Nat) : World :=
  if time ≤ w.timer then w.met else { w.elapse time with allowance := turnLength - 1 }

/-! ## Calls in the foreground -/

/-- How a call in the foreground ends. -/
inductive Outcome (α : Type) where
  | done (value : α)
  | aborted
  | timedOut

/-- **Runs a call in the foreground.**  With a deadline the call is given up as soon as it wants to
sleep beyond it, and when it gives way after it, if it was `rested`. -/
def perform {α : Type} (deadline : Option Nat) : (rested : Bool) → Program Rig α → World →
    Hands → Outcome α × World × Hands
  | _, .done value, w, hands => (.done value, w, hands)
  | _, .abort, w, hands => (.aborted, w, hands)
  | rested, .ask request next, w, hands =>
    let tired : Bool := w.isShared hands request ∧ w.allowance = 0
    if tired ∧ rested ∧ deadline.any (· ≤ w.timer) then (.timedOut, w, hands)
    else
      let w := if tired then w.giveWay else w
      let rested := rested || tired
      let (answer, w, hands) := (w.charged hands request).respond hands request
      if request.pause = 0 then perform deadline rested (next answer) w hands
      else
        let wake := w.ahead request.pause
        match deadline with
        | some deadline =>
          if w.timer < deadline ∧ wake ≤ deadline then
            perform (some deadline) true (next answer) (w.waitUntil wake) hands
          else (.timedOut, w.waitUntil deadline, hands)
        | none => perform none true (next answer) (w.waitUntil wake) hands

/-! ## What a rehearsal does -/

/-- Runs a program that nobody waits for only so long. -/
def finish {α : Type} (w : World) (program : Program Rig α) (hands : Hands) :
    Option α × World × Hands :=
  match perform none true program w hands with
  | (.done value, w, hands) => (some value, w, hands)
  | (_, w, hands) => (none, w, hands)

/-- Calls the service, with all faults in place.  There is no answer if the call is aborted. -/
def call {α : Type} (w : World) (program : Program Host α) : Option α × World :=
  let (answer, w, _) := w.finish (rigged program) .empty
  (answer, w)

/-- Asks the store directly. -/
def direct {α : Type} (w : World) (program : Program Host α) : Option α × World :=
  let (answer, w, _) := w.finish (unrigged program) .empty
  (answer, w)

/-- Adds a product to the catalogue. -/
def addProduct (w : World) (product : Product) : World :=
  let w := w.ready.met
  { w with store.committed := w.store.committed.putProduct product }

/-- Whether the stock records are consistent. -/
def checkStock (w : World) : Bool × World :=
  let w := w.ready.met
  (w.store.committed.isConsistent, w)

/-- Forgets the unit of work with a name. -/
def dropUnit (w : World) (name : String) : World :=
  { w with units := w.units.filter fun unit => unit.1 != name }

/-- Runs a program in the unit of work with a name, and keeps that open until the program ends it. -/
def inUnit {α : Type} (w : World) (name : String) (program : Program Host α) : Option α × World :=
  let (answer, w, hands) := w.finish (unrigged program) ⟨w.units.lookup name, none⟩
  let w := w.dropUnit name
  (answer, { w with units := (hands.own.map fun unit => (name, unit)).toList ++ w.units })

/-- Waits. -/
def sleep (w : World) (millis : Nat) : World := w.ready.waitUntil (w.ahead millis)

/-- One run of the reaper in the foreground, and its report if it ended well. -/
def reapOnce (w : World) : Option (Option StockService.CleanupReport) × World :=
  let (run, w) := w.draw
  let timeout := w.stockSettings.cleanupTimeout
  match perform (some (w.ahead timeout)) (0 < w.allowance) w.cleanup w .empty with
  | (.done (.ok report), w, _) => (some report, w)
  | (.done (.error error), w, _) => (some none, w.noted (Reaper.failedRecord run error))
  | (.timedOut, w, _) => (some none, w.noted (Reaper.timedOutRecord run timeout))
  | (.aborted, w, _) => (none, w)

/-- Tells the reaper in charge to stop, and takes it off its charge. -/
def dismiss (w : World) : World :=
  match w.current with
  | none => w
  | some i =>
    nudge { w with
      reapers := w.reapers.modify i fun task => { task with dismissed := true }
      current := none } i

/-- Starts a reaper in the background, in the place of any other. -/
def spawnReaper (w : World) (interval : Option Nat) : World :=
  let i := w.reapers.length
  let task : ReaperTask := ⟨interval.getD w.stockSettings.cleanupInterval, false, .unstarted⟩
  { (wake { w with reapers := w.reapers ++ [task] } i).dismiss with current := some i }

/-- Lets turns and time pass until a task is over. -/
def awaitEnd (i : Nat) : (steps : Nat) → World → World
  | 0, w => w
  | steps + 1, w =>
    let isOver (w : World) : Bool := (w.reapers[i]?.map ReaperTask.isOver).getD true
    if isOver w then w.met
    else
      let w := w.runWoken
      if isOver w then { w.wakePatient with allowance := turnLength - 1 }
      else if !w.gaveWay.isEmpty then awaitEnd i steps w.wakePatient
      else
        match w.nextAlarm? with
        | some due => awaitEnd i steps (w.strike due)
        | none => w

/-- **Stops the reaper** in charge and waits for its end; answers whether it ended in an orderly way.
A run that is under way ends at its deadline at the latest. -/
def stopReaper (w : World) : Bool × World :=
  match w.current with
  | none => (false, w)
  | some i =>
    let strikes := min w.stockSettings.cleanupTimeout longestWait + 2
    let w := awaitEnd i (strikes + w.reapers.length * w.rounds) w.dismiss.ready
    ((w.reapers[i]?.map ReaperTask.isStopped).getD false, w)

/-- **Lets the reaper in charge know that it shall go on**, waits, and answers whether it is still
there. -/
def keepReaper (w : World) (millis : Nat) : Bool × World :=
  let w := (w.current.elim w w.nudge).sleep millis
  (((w.current.bind (w.reapers[·]?)).map fun task => !task.isOver).getD false, w)

end Stockroom.Rehearsal.World
