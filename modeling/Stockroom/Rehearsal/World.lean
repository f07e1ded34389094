import Stockroom.Rehearsal.Rig
import Stockroom.Service.Orders
import Stockroom.Service.Reaper
import Stockroom.Store.Session

/-!
# Rehearsal/World — a store and its surroundings as one value

A `World` is everything that a rehearsal can observe: the store, a clock that somebody sets, a timer
that counts waiting time, the faults still to come, and the log records written so far.
`World.respond` is the meaning of every request of the `Rig`.

One acts at a time, and nobody acts for long: whoever has met the shared state `turnLength` times
gives way to those who were woken.  `World.advance` runs a program as far as it gets in one turn.
-/

namespace Stockroom.Rehearsal

/-- When somebody is to be woken.  Of several alarms for the same time the one that was set first
goes off first. -/
structure Alarm where
  due : Nat
  /-- How many alarms were set before. -/
  rank : Nat
deriving DecidableEq, Repr

/-- Whether an alarm goes off before another one. -/
def Alarm.precedes (a b : Alarm) : Bool := a.due < b.due || (a.due = b.due && a.rank < b.rank)

/-- The units of work that somebody holds open, and that a competitor holds open in between. -/
structure Hands where
  own : Option Store.UnitOfWork
  rival : Option Store.UnitOfWork
deriving DecidableEq

/-- Nothing held open. -/
def Hands.empty : Hands := ⟨none, none⟩

/-- **How often one may meet the shared state in a turn.** -/
def turnLength : Nat := 128

/-- How far the background run of a reaper has got.  All times are readings of the timer. -/
inductive Phase where
  | unstarted
  /-- Waits for its next run. -/
  | idle (tick : Alarm)
  /-- A cleanup is under way: it has until `deadline`, goes on with `rest` when it is woken, and is
  followed by the run that is due at `next`.  There is no `wake` if it gave way. -/
  | sweeping (next : Nat) (run : CorrelationId) (deadline : Alarm) (wake : Option Alarm)
      (rest : Program Rig (Except ServiceError StockService.CleanupReport)) (hands : Hands)
  | stopped
  /-- Ended without a word. -/
  | dead

/-- A reaper in the background. -/
structure ReaperTask where
  interval : Nat
  /-- Whether it was told to stop. -/
  dismissed : Bool
  phase : Phase

/-- A store and its surroundings. -/
structure World where
  store : Store
  clock : Instant
  /-- How many milliseconds were spent waiting. -/
  timer : Nat
  faults : List Fault
  /-- The log records, from the oldest. -/
  journal : List LogRecord
  /-- How many correlation ids were given out. -/
  drawn : Nat
  /-- Units of work that are held open under a name. -/
  units : List (String × Store.UnitOfWork)
  /-- All reapers that were ever started. -/
  reapers : List ReaperTask
  /-- The position of the reaper that is in charge. -/
  current : Option Nat
  /-- The positions of the reapers that were woken, in the order in which they will act. -/
  woken : List Nat
  /-- The positions of the reapers that gave way, the last one first. -/
  gaveWay : List Nat
  /-- How many alarms were set. -/
  alarms : Nat
  /-- How often whoever is acting may still meet the shared state. -/
  allowance : Nat
  stockSettings : StockSettings
  orderSettings : OrderSettings

namespace World

/-- A new store at a time. -/
def start (clock : Instant) (stockSettings : StockSettings) (orderSettings : OrderSettings) :
    World where
  store := .empty
  clock := clock
  timer := 0
  faults := []
  journal := []
  drawn := 0
  units := []
  reapers := []
  current := none
  woken := []
  gaveWay := []
  alarms := 0
  allowance := turnLength
  stockSettings := stockSettings
  orderSettings := orderSettings

/-- The world after a log record was written. -/
def noted (w : World) (record : LogRecord) : World := { w with journal := w.journal ++ [record] }

/-- A correlation id that was not given out before. -/
def draw (w : World) : CorrelationId × World := (⟨w.drawn⟩, { w with drawn := w.drawn + 1 })

/-- What a request is answered on behalf of somebody who holds `unit` open. -/
def answer (w : World) (unit : Option Store.UnitOfWork) :
    (request : HostRequest) → request.Answer × World × Option Store.UnitOfWork
  | .store request =>
    let (answer, session) := Store.Session.answer ⟨w.store, unit⟩ request
    (answer, { w with store := session.store }, session.unit)
  | .now => (w.clock, w, unit)
  | .freshId =>
    let (id, w) := w.draw
    (id, w, unit)
  | .log record => ((), w.noted record, unit)
  | .sleep _ => ((), w, unit)

/-- **What a request of the rig is answered.** -/
def respond (w : World) (hands : Hands) :
    (request : RigRequest) → request.Answer × World × Hands
  | .host request =>
    let (answer, w, own) := w.answer hands.own request
    (answer, w, { hands with own := own })
  | .rival request =>
    let (answer, w, rival) := w.answer hands.rival request
    (answer, w, { hands with rival := rival })
  | .consult request =>
    let (faults, trouble) := Fault.consult request w.faults
    (trouble, { w with faults := faults }, hands)

/-! ## Turns -/

/-- Whether a request meets the shared state, which is what is committed, and the timer. -/
def isShared (w : World) (hands : Hands) : RigRequest → Bool
  | .host (.store request) => Store.Session.isShared ⟨w.store, hands.own⟩ request
  | .rival (.store request) => Store.Session.isShared ⟨w.store, hands.rival⟩ request
  | .host (.sleep _) => true
  | _ => false

/-- The world after whoever is acting met the shared state. -/
def met (w : World) : World := { w with allowance := w.allowance - 1 }

/-- The world after a request was made.  A wait counts when it is over. -/
def charged (w : World) (hands : Hands) (request : RigRequest) : World :=
  if w.isShared hands request ∧ request.pause = 0 then w.met else w

/-- How far a program got. -/
inductive Progress (α : Type) where
  | done (value : α)
  | aborted
  /-- Wants to wait for some milliseconds, and then to go on. -/
  | asleep (millis : Nat) (rest : Program Rig α) (hands : Hands)
  /-- Has used up its turn. -/
  | gaveWay (rest : Program Rig α) (hands : Hands)

/-- **Runs a program up to its next pause**, or to the end of the turn. -/
def advance {α : Type} : Program Rig α → World → Hands → Progress α × World
  | .done value, w, _ => (.done value, w)
  | .abort, w, _ => (.aborted, w)
  | .ask request next, w, hands =>
    if w.isShared hands request ∧ w.allowance = 0 then (.gaveWay (.ask request next) hands, w)
    else
      let (answer, w, hands) := (w.charged hands request).respond hands request
      if request.pause = 0 then advance (next answer) w hands
      else (.asleep request.pause (next answer) hands, w)

end World

end Stockroom.Rehearsal
