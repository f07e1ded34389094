import Stockroom.Host.Request
import Stockroom.Service.Error

/-!
# Service/Call — the building blocks of service calls

A `Call` is a program over `Host` that may end with a `ServiceError`.  Its building blocks ask the
store (`demand`), let a business rule decide (`obey`), and write log records.  `inUnit` runs a call
inside a unit of work: it commits if the call succeeds, and otherwise rolls back and passes the
error on.
-/

namespace Stockroom

/-- A call of the service. -/
abbrev Call (α : Type) := ExceptT ServiceError (Program Host) α

namespace Call

variable {α : Type}

/-- Asks the store, and sees whether it failed. -/
def attempt (request : StoreRequest) : Call (Except StoreError request.Result) :=
  ExceptT.lift (Program.request (I := Host) (.store request))

/-- Asks the store; a failure ends the call. -/
def demand (request : StoreRequest) : Call request.Result := do
  match ← attempt request with
  | .ok result => return result
  | .error error => throw (ServiceError.ofStore error)

/-- Asks inside the open unit of work; a failure ends the call. -/
def within (request : UnitRequest) : Call request.Result := demand (.within request)

/-- A refusal by a business rule ends the call. -/
def obey : Except Refusal α → Call α
  | .ok value => return value
  | .error refusal => throw (.refused refusal)

/-- A condition that the answer has to meet. -/
def insist (answer : Call Bool) (otherwise : ServiceError) : Call Unit := do
  unless ← answer do throw otherwise

def now : Call Instant := ExceptT.lift (Program.request (I := Host) .now)

def freshId : Call CorrelationId := ExceptT.lift (Program.request (I := Host) .freshId)

def log (record : LogRecord) : Call Unit := ExceptT.lift (Program.request (I := Host) (.log record))

def sleep (millis : Nat) : Call Unit := ExceptT.lift (Program.request (I := Host) (.sleep millis))

/-- A value that may be missing; where it is missing the call stops without an answer. -/
def orAbort (value : Option α) : Call α := ExceptT.lift (Program.ofOption value)

/-- Ends a unit of work after a failure.  That the rollback fails too is only reported. -/
def rollBack (component : String) (cause : ServiceError) : Call Unit := do
  match ← attempt .rollback with
  | .ok _ => return
  | .error failure =>
    log {
      level := .error
      component := component
      message := "ロールバックに失敗しました"
      correlation := none
      context := some [("error", failure.message), ("cause", cause.message)] }

/-- **A call inside a unit of work of its own.** -/
def inUnit (component : String) (body : Call α) : Call α := do
  demand .begin
  match ← ExceptT.lift body.run with
  | .ok value =>
    demand .commit
    return value
  | .error cause =>
    rollBack component cause
    throw cause

end Call

end Stockroom
