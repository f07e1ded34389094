import Stockroom.Host.Request
import Stockroom.Sql.Statement

/-!
# Sql/Link — what a store asks of a database client

A store that keeps its data in a database makes the requests of the interface `Link`.  Statements run
in the transaction that is open, if there is one; a statement of its own needs a connection first.
The values of a statement are bound before anything else is asked for it, and a program is aborted if the
client cannot bind them.  Whatever is not for the database is handed on as it is.

`Access` is the monad of programs over `Link` that may end with a `StoreError`; each of its steps
names the operation that is reported if the step fails.
-/

namespace Stockroom.Sql

/-- What a statement that changes rows did. -/
structure Change where
  affected : Nat
  /-- The number that the database gave to an inserted row. -/
  lastId : Nat
deriving DecidableEq, Repr

/-- Requests to the client of a database. -/
inductive LinkRequest where
  | connect
  /-- Can the values of the statement be written? -/
  | bind (statement : Statement)
  | query (statement : Statement)
  | execute (statement : Statement)
  | begin
  | commit
  | rollback
  /-- A request that is not for the database. -/
  | pass (request : HostRequest)
deriving DecidableEq, Repr

/-- What the client answers. -/
def LinkRequest.Answer : LinkRequest → Type
  | bind _ => Bool
  | query _ => Except Failure (List Row)
  | execute _ => Except Failure Change
  | connect | begin | commit | rollback => Except Failure Unit
  | pass request => request.Answer

/-- **The interface between a store and its database.** -/
def Link : Interface := ⟨LinkRequest, LinkRequest.Answer⟩

/-- A program over `Link` that may end with an error of the store. -/
abbrev Access (α : Type) := ExceptT StoreError (Program Link) α

namespace Access

variable {α : Type}

/-- Goes on with what succeeded; a failure ends the program with an error of the operation. -/
def orFail (operation : String) : Except Failure α → Access α
  | .ok value => return value
  | .error failure => throw (DatabaseError.classify operation failure).toStore

/-- A program whose result may be a failure. -/
def step (operation : String) (reply : Program Link (Except Failure α)) : Access α := do
  orFail operation (← ExceptT.lift reply)

def connect (operation : String) : Access Unit :=
  step operation (Program.request (I := Link) .connect)

def begin (operation : String) : Access Unit :=
  step operation (Program.request (I := Link) .begin)

def commit (operation : String) : Access Unit :=
  step operation (Program.request (I := Link) .commit)

def rollback (operation : String) : Access Unit :=
  step operation (Program.request (I := Link) .rollback)

/-- Binds the values of a statement; one that cannot be written aborts the program. -/
def prepare (statement : Statement) : Access Unit := do
  let bound : Bool ← ExceptT.lift (Program.request (I := Link) (.bind statement))
  if bound then return () else ExceptT.lift .abort

/-- The rows that a statement finds. -/
def rows (operation : String) (statement : Statement) : Access (List Row) := do
  prepare statement
  step operation (Program.request (I := Link) (.query statement))

def execute (operation : String) (statement : Statement) : Access Change := do
  prepare statement
  step operation (Program.request (I := Link) (.execute statement))

/-- Runs a statement outside any transaction: its values are bound before a connection is taken. -/
def alone (run : String → Statement → Access α) (operation : String) (statement : Statement) :
    Access α := do
  prepare statement
  connect operation
  run operation statement

/-- Executes a statement that should change exactly one row, and says whether it did. -/
def changesOne (operation : String) (statement : Statement) : Access Bool := do
  return (← execute operation statement).affected = 1

/-- A row that cannot be understood ends the program. -/
def understand (value : Except StoreError α) : Access α := ExceptT.mk (pure value)

/-- How many rows meet the conditions. -/
def count (operation : String) (table : String) (conditions : List Condition) : Access Nat := do
  match ← rows operation (.count table conditions) with
  | [] => orFail operation (.error .noRow)
  | row :: _ =>
    let cell := (row.head?.map Prod.snd).getD .null
    let n ← orFail operation (Row.asInt .int64 .first cell)
    return n.toNat

end Access

end Stockroom.Sql
