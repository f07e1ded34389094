import Stockroom.Calendar.Instant
import Stockroom.Identifier
import Stockroom.Numeric.Width
import Stockroom.Sql.Failure

/-!
# Sql/Value — what stands in the cells of a database

A `Value` is bound to a placeholder of a statement or found in a cell of a row.  Reading a cell fails
if the row has no such column, if the cell is empty, or if it holds something else than wanted.

How a time travels is the business of the client of the database: a `TimeFormat`.
-/

namespace Stockroom.Sql

/-- The content of a cell. -/
inductive Value where
  | null
  | int (value : Int)
  | text (value : String)
  | time (value : Instant)
deriving DecidableEq, Repr

namespace Value

def ofId {kind : IdKind} (id : Id kind) : Value := int id.value

/-- A value that may be missing. -/
def ofOption {α : Type} (encode : α → Value) : Option α → Value
  | some value => encode value
  | none => null

end Value

/-! ## Times -/

/-- **How the client of a database writes times**, and reads them again. -/
structure TimeFormat (κ : Type) where
  /-- Whether a time can be written. -/
  accepts : Instant → Bool
  encode : Instant → κ
  decode : κ → Instant

namespace TimeFormat

variable {κ : Type} (format : TimeFormat κ)

/-- Whether a value can be written, as all but some times can. -/
def admits : Value → Bool
  | .time t => format.accepts t
  | _ => true

/-- What a value that was written is read as. -/
def returned : Value → Value
  | .time t => .time (format.decode (format.encode t))
  | value => value

/-- **A time that is read as it was written.** -/
def Returns (t : Instant) : Prop := format.decode (format.encode t) = t

instance (t : Instant) : Decidable (format.Returns t) := inferInstanceAs (Decidable (_ = _))

end TimeFormat

/-! ## Cells -/

/-- The cells of a row with the names of their columns. -/
abbrev Row := List (String × Value)

namespace Row

/-- The cell in a column. -/
def cell (row : Row) (column : String) : Except Failure Value :=
  match row.lookup column with
  | some value => .ok value
  | none => .error (.columnMissing column)

/-- A whole number of a width. -/
def asInt (w : Width) (column : ColumnName) : Value → Except Failure Int
  | .int n => if w.Fits n then .ok n else .error (.cellUnreadable column .outOfRange)
  | .null => .error (.cellUnreadable column .null)
  | _ => .error (.cellUnreadable column .otherType)

def int (w : Width) (row : Row) (column : String) : Except Failure Int := do
  asInt w (.named column) (← row.cell column)

def text (row : Row) (column : String) : Except Failure String := do
  match ← row.cell column with
  | .text s => return s
  | .null => throw (.cellUnreadable (.named column) .null)
  | _ => throw (.cellUnreadable (.named column) .otherType)

def time (row : Row) (column : String) : Except Failure Instant := do
  match ← row.cell column with
  | .time t => return t
  | .null => throw (.cellUnreadable (.named column) .null)
  | _ => throw (.cellUnreadable (.named column) .otherType)

/-- A cell that may be empty. -/
def optional {α : Type} (read : Row → String → Except Failure α) (row : Row) (column : String) :
    Except Failure (Option α) := do
  match ← row.cell column with
  | .null => return none
  | _ => return some (← read row column)

end Row

end Stockroom.Sql
