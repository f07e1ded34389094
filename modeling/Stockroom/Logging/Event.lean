import Stockroom.Logging.Record

/-!
# Logging/Event — a log record as flat fields

A collector of events takes fields of text.  `LogRecord.event` writes the level in capitals, the
correlation id or nothing, and the details as `key=value` in the order of their keys.
-/

namespace Stockroom

/-- A log record whose fields are texts. -/
structure LogEvent where
  level : String
  component : String
  correlation : String
  context : String
  message : String
deriving DecidableEq, Repr

/-- The name of a level in an event. -/
def LogLevel.label : LogLevel → String
  | debug => "DEBUG"
  | info => "INFO"
  | warn => "WARN"
  | error => "ERROR"

namespace LogRecord

/-- The details, in the order of their keys. -/
def contextText (context : List (String × String)) : String :=
  let sorted := context.mergeSort fun a b => a.1 ≤ b.1
  ", ".intercalate (sorted.map fun (key, value) => key ++ "=" ++ value)

/-- **The event of a record.** -/
def event (r : LogRecord) : LogEvent where
  level := r.level.label
  component := r.component
  correlation := (r.correlation.map CorrelationId.text).getD ""
  context := (r.context.map contextText).getD ""
  message := r.message

end LogRecord

end Stockroom
