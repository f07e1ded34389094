import Stockroom.Sql.Gateway
import Stockroom.Sql.Schema

/-!
# Rehearsal/Server — a database that follows a script

A `Server` executes nothing.  It keeps the statements that it is sent and answers them with the
replies of a script, in order; when the script is used up, a statement finds no rows and changes
none.  `Server.run` runs a program against it, over a client that has a format for times; `Server.perform`
does so over one that keeps whole `microseconds`.
-/

namespace Stockroom.Rehearsal

open Sql (Failure Link LinkRequest Row Statement TimeFormat)

/-- Times as whole microseconds, and with 16 bits for the year. -/
def microseconds : TimeFormat Int where
  accepts t := Width.nat16.Fits t.date.year
  encode t := t.nanos / 1000
  decode micros := ⟨micros * 1000⟩

/-- What a script replies to one statement. -/
inductive Reply where
  | change (change : Sql.Change)
  /-- The columns of a result are those of its first row. -/
  | rows (rows : List Row)
  | failure (failure : Failure)
  /-- A failure for the next begin, commit or rollback. -/
  | controlFailure (failure : Failure)
deriving DecidableEq, Repr

/-- What a server was sent. -/
inductive Executed where
  | statement (statement : Statement)
  | begin
  | commit
  | rollback
deriving DecidableEq, Repr

namespace Executed

def sql : Executed → String
  | statement s => s.sql
  | begin => "BEGIN"
  | commit => "COMMIT"
  | rollback => "ROLLBACK"

/-- The values that came with it, as they were written. -/
def arguments : Executed → List Sql.Value
  | statement s => s.arguments.map microseconds.returned
  | begin | commit | rollback => []

end Executed

/-- A database that follows a script. -/
structure Server where
  replies : List Reply
  /-- What it was sent, from the first. -/
  executed : List Executed
  /-- Whether connections are no longer given out. -/
  isClosed : Bool
  clock : Instant
  drawn : Nat
deriving DecidableEq

namespace Server

variable {κ : Type}

/-- The reply to a statement, and what is left of the script.  A failure that is not for a statement
stays in its place. -/
def takeReply : List Reply → Reply × List Reply
  | [] => (.change ⟨0, 0⟩, [])
  | .controlFailure failure :: rest => (.change ⟨0, 0⟩, .controlFailure failure :: rest)
  | reply :: rest => (reply, rest)

/-- The rows of a result, each with the columns of the first one. -/
def aligned (rows : List Row) : List Row :=
  let columns := ((rows.head?.getD []).map Prod.fst)
  rows.map fun row => columns.map fun column => (column, (row.lookup column).getD .null)

/-- The server after it was sent something. -/
def sent (s : Server) (executed : Executed) (replies : List Reply) : Server :=
  { s with executed := s.executed ++ [executed], replies := replies }

/-- Beginning or ending a transaction succeeds unless the script says otherwise. -/
def control (s : Server) (executed : Executed) : Except Failure Unit × Server :=
  match s.replies with
  | .controlFailure failure :: rest => (.error failure, s.sent executed rest)
  | replies => (.ok (), s.sent executed replies)

def query (s : Server) (statement : Statement) : Except Failure (List Row) × Server :=
  let (reply, rest) := takeReply s.replies
  let s := s.sent (.statement statement) rest
  match reply with
  | .rows rows => (.ok (aligned rows), s)
  | .failure failure | .controlFailure failure => (.error failure, s)
  | .change _ => (.ok [], s)

def execute (s : Server) (statement : Statement) : Except Failure Sql.Change × Server :=
  let (reply, rest) := takeReply s.replies
  let s := s.sent (.statement statement) rest
  match reply with
  | .change change => (.ok change, s)
  | .failure failure | .controlFailure failure => (.error failure, s)
  | .rows _ => (.ok ⟨0, 0⟩, s)

/-- What is answered to a request that is not for the database. -/
def pass (s : Server) : (request : HostRequest) → request.Answer × Server
  | .store _ => (.error (.operationFailed "no store behind the database"), s)
  | .now => (s.clock, s)
  | .freshId => (⟨s.drawn⟩, { s with drawn := s.drawn + 1 })
  | .log _ | .sleep _ => ((), s)

/-- What each request is answered. -/
def answer (format : TimeFormat κ) (s : Server) : (request : LinkRequest) → request.Answer × Server
  | .bind statement => (statement.isAdmitted format, s)
  | .connect => (if s.isClosed then .error .poolClosed else .ok (), s)
  | .query statement => s.query statement
  | .execute statement => s.execute statement
  | .begin => s.control .begin
  | .commit => s.control .commit
  | .rollback => s.control .rollback
  | .pass request => s.pass request

/-- **Runs a program.**  There is no result if it is aborted. -/
def run {α : Type} (format : TimeFormat κ) : Program Link α → Server → Option α × Server
  | .done value, s => (some value, s)
  | .abort, s => (none, s)
  | .ask request next, s =>
    let (answer, s) := s.answer format request
    run format (next answer) s

/-- Runs a program over a client that keeps whole microseconds. -/
def perform {α : Type} : Program Link α → Server → Option α × Server := run microseconds

/-- The server with another script, and with nothing executed yet. -/
def follow (s : Server) (replies : List Reply) : Server :=
  { s with replies := replies, executed := [] }

end Server

end Stockroom.Rehearsal
