import Stockroom.Proofs.Crowd.Call
import Stockroom.Store.Session

/-!
# Proofs/Crowd/Machine — many calls over one store

A `Crowd` is a store and everyone who has called the service.  **A step of the crowd is one request
of one caller** (`Crowd.step`), and a run is any order of steps (`Crowd.run`): a caller is overtaken
between any two of its requests, as often as the order says, and one that is never stepped again
was given up.  What a caller is answered besides the store is fixed beforehand by its `Tape`.

`Program.alone` is the same call with nobody else around.
-/

namespace Stockroom

open Store

/-- What the clock and the source of ids will say, and how much of it was used. -/
structure Tape where
  clock : Nat → Instant
  ids : Nat → CorrelationId
  readings : Nat
  draws : Nat

namespace Tape

/-- A tape of which nothing was used. -/
def unused (clock : Nat → Instant) (ids : Nat → CorrelationId) : Tape := ⟨clock, ids, 0, 0⟩

/-- The next reading of the clock. -/
def time (t : Tape) : Instant := t.clock t.readings

/-- The tape after the clock was read. -/
def read (t : Tape) : Tape := { t with readings := t.readings + 1 }

/-- The next id. -/
def id (t : Tape) : CorrelationId := t.ids t.draws

/-- The tape after an id was drawn. -/
def draw (t : Tape) : Tape := { t with draws := t.draws + 1 }

end Tape

/-- One request of a caller to the store, with the store before and after it. -/
structure Deed where
  request : StoreRequest
  before : Store
  after : Store

/-- Whether the deed changed what is committed. -/
def Deed.IsChange (deed : Deed) : Prop := deed.before.committed ≠ deed.after.committed

instance : DecidablePred Deed.IsChange := fun deed =>
  inferInstanceAs (Decidable (deed.before.committed ≠ deed.after.committed))

/-- What a caller has at hand: its unit of work, its tape, and what it did so far. -/
structure Desk where
  unit : Option UnitOfWork
  tape : Tape
  trail : List Deed

namespace Desk

/-- The desk of somebody who has just called. -/
def fresh (tape : Tape) : Desk := ⟨none, tape, []⟩

/-- The deeds that changed what is committed. -/
def changes (d : Desk) : List Deed := d.trail.filter fun deed => deed.IsChange

/-- **The answer to a request**, the desk after it, and the store after it. -/
def answer (d : Desk) (s : Store) : (request : HostRequest) → request.Answer × Desk × Store
  | .store request =>
    let (answer, session) := Session.answer ⟨s, d.unit⟩ request
    (answer, ⟨session.unit, d.tape, d.trail ++ [⟨request, s, session.store⟩]⟩, session.store)
  | .now => (d.tape.time, { d with tape := d.tape.read }, s)
  | .freshId => (d.tape.id, { d with tape := d.tape.draw }, s)
  | .log _ | .sleep _ => ((), d, s)

end Desk

/-- Somebody who has called the service. -/
structure Caller where
  call : ServiceCall
  /-- What is left to do. -/
  rest : Program Host (Except ServiceError call.Result)
  desk : Desk

namespace Caller

/-- A caller before its first request. -/
def fresh (call : ServiceCall) (tape : Tape) : Caller := ⟨call, call.program.run, .fresh tape⟩

/-- **One request of a caller**; nothing if it is done. -/
def step (c : Caller) (s : Store) : Caller × Store :=
  match c.rest with
  | .done _ | .abort => (c, s)
  | .ask request next =>
    let (answer, desk, s) := c.desk.answer s request
    ({ c with rest := next answer, desk := desk }, s)

end Caller

/-- A store and everyone who has called. -/
structure Crowd where
  store : Store
  callers : List Caller

namespace Crowd

/-- The store that is empty apart from a catalogue. -/
def emptyStore (catalogue : Table ProductId Product) : Store :=
  ⟨{ Tables.empty with products := catalogue }, 1⟩

/-- **The beginning**: nothing but a catalogue, and calls that nobody has started yet. -/
def opening (catalogue : Table ProductId Product) (calls : List (ServiceCall × Tape)) : Crowd :=
  ⟨emptyStore catalogue, calls.map fun call => .fresh call.1 call.2⟩

/-- One request of the caller at a position. -/
def step (w : Crowd) (i : Nat) : Crowd :=
  match w.callers[i]? with
  | none => w
  | some c => ⟨(c.step w.store).2, w.callers.set i (c.step w.store).1⟩

theorem step_of_getElem? {w : Crowd} {i : Nat} {c : Caller} (h : w.callers[i]? = some c) :
    w.step i = ⟨(c.step w.store).2, w.callers.set i (c.step w.store).1⟩ := by
  rw [step, h]

/-- **A run**: the callers make requests in the given order. -/
def run (w : Crowd) (schedule : List Nat) : Crowd := schedule.foldl step w

@[simp] theorem run_nil (w : Crowd) : w.run [] = w := rfl

@[simp] theorem run_cons (w : Crowd) (i : Nat) (schedule : List Nat) :
    w.run (i :: schedule) = (w.step i).run schedule := rfl

theorem run_append (w : Crowd) (schedule more : List Nat) :
    w.run (schedule ++ more) = (w.run schedule).run more := List.foldl_append ..

theorem run_concat (w : Crowd) (schedule : List Nat) (i : Nat) :
    w.run (schedule ++ [i]) = (w.run schedule).step i := run_append ..

end Crowd

/-! ## Alone -/

namespace Program

variable {α β : Type}

/-- **A program with nobody else around**: all its requests, one after the other.  There is no
answer if it is aborted. -/
def alone : Program Host α → Desk → Store → Option (α × Desk × Store)
  | done value, d, s => some (value, d, s)
  | abort, _, _ => none
  | ask request next, d, s =>
    (next (d.answer s request).1).alone (d.answer s request).2.1 (d.answer s request).2.2

end Program

end Stockroom
