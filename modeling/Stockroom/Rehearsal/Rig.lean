import Stockroom.Rehearsal.Fault
import Stockroom.Service.Call

/-!
# Rehearsal/Rig — a host that can be troubled

`rigged` puts the prepared faults between a program and its host: before every request to the store
the faults are consulted, and their trouble is acted out.  The result is a program over the
interface `Rig`, which adds to the requests of `Host` the question for faults and the requests of a
competitor.
-/

namespace Stockroom.Rehearsal

/-- The requests of a troubled host. -/
inductive RigRequest where
  | host (request : HostRequest)
  /-- Which trouble meets a request. -/
  | consult (request : StoreRequest)
  /-- A request of a competitor, who has a unit of work of its own. -/
  | rival (request : HostRequest)
deriving DecidableEq, Repr

/-- What a troubled host answers. -/
def RigRequest.Answer : RigRequest → Type
  | host request | rival request => request.Answer
  | consult _ => Option Trouble

/-- For how many milliseconds a request waits. -/
def RigRequest.pause : RigRequest → Nat
  | host (.sleep millis) => millis
  | _ => 0

/-- **The interface of a troubled host.** -/
def Rig : Interface := ⟨RigRequest, RigRequest.Answer⟩

/-- A request that no fault can meet. -/
def untroubled (request : HostRequest) : Program Rig request.Answer :=
  Program.request (I := Rig) (.host request)

/-- What a competitor does to the store. -/
def Competitor.program : Competitor → Call Unit
  | .increaseStock product quantity => do
    Call.demand .begin
    let _ ← Call.within (.increaseStock product quantity (← Call.now))
    Call.demand .commit
  | .removeStock product => do
    let _ ← Call.demand (.removeStock product (← Call.now))
  | .insertReservation reservation => do
    Call.demand .begin
    Call.within (.insertReservation reservation)
    Call.demand .commit
  | .settleReservation product order next => do
    Call.demand .begin
    let _ ← Call.within (.moveReservation product order .active next (← Call.now))
    Call.demand .commit
  | .moveOrder order move => do
    Call.demand .begin
    if let some found ← Call.within (.findOrder order) then
      if let .ok moved := move.apply found (← Call.now) then
        let _ ← Call.within (.replaceOrder moved found.status)
    Call.demand .commit

/-- What a competitor does, as part of what somebody else does; how it ends does not matter. -/
def rivalry (competitor : Competitor) : Program Rig (Except ServiceError Unit) :=
  competitor.program.run.through fun request => Program.request (I := Rig) (.rival request)

/-- A request to the store with the trouble that meets it. -/
def troubled (request : StoreRequest) : Program Rig (HostRequest.store request).Answer := do
  let trouble : Option Trouble ← Program.request (I := Rig) (.consult request)
  match trouble with
  | none => untroubled (.store request)
  | some (.fail error) => return .error error
  | some .miss =>
    match missed? request with
    | some result => return .ok result
    | none => untroubled (.store request)
  | some (.delay millis) =>
    let _ ← untroubled (.sleep millis)
    untroubled (.store request)
  | some (.race competitor) =>
    let _ ← rivalry competitor
    untroubled (.store request)

/-- The answer to each request of the service. -/
def answered : (request : HostRequest) → Program Rig request.Answer
  | .store request => troubled request
  | request => untroubled request

/-- **A program that meets the faults.** -/
def rigged {α : Type} (program : Program Host α) : Program Rig α :=
  program.through answered

/-- A program that meets no fault. -/
def unrigged {α : Type} (program : Program Host α) : Program Rig α :=
  program.through untroubled

end Stockroom.Rehearsal
