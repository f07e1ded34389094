import Stockroom.Calendar.Date
import Stockroom.Numeric.Width

/-!
# Calendar/Instant — points in time and the spans between them

Time is counted in nanoseconds since 1970-01-01 in UTC.  An instant of the calendar lies between
`Instant.earliest` and `Instant.latest`, and a span is at most `Span.limit` long in either
direction.  Whatever would leave these ranges has no result: `Instant.after?`, `Span.ofSeconds?`
and `Span.ofMinutes?` are partial, and their callers have to say what then happens.
-/

namespace Stockroom

/-- A length of time in nanoseconds, possibly negative. -/
structure Span where
  nanos : Int
deriving DecidableEq, Repr

namespace Span

/-- The longest span: `2 ^ 63 - 1` milliseconds. -/
def limit : Int := Width.int64.greatest * 1000000

/-- A span of this many nanoseconds, if it is no longer than the limit. -/
def ofNanos? (nanos : Int) : Option Span :=
  if -limit ≤ nanos ∧ nanos ≤ limit then some ⟨nanos⟩ else none

/-- A span of this many whole seconds and nanoseconds. -/
def ofParts? (seconds nanos : Int) : Option Span := ofNanos? (seconds * 1000000000 + nanos)

/-- A span of whole seconds. -/
def ofSeconds? (seconds : Int) : Option Span := ofParts? seconds 0

/-- A span of whole minutes. -/
def ofMinutes? (minutes : Int) : Option Span := ofSeconds? (minutes * 60)

/-- The whole seconds of a span, rounded toward zero. -/
def wholeSeconds (s : Span) : Int := Int.tdiv s.nanos 1000000000

/-- The whole seconds of a span and the nanoseconds beyond them, both with the sign of the span. -/
def parts (s : Span) : Int × Int := (s.wholeSeconds, Int.tmod s.nanos 1000000000)

end Span

/-- A point in time, in nanoseconds since 1970-01-01T00:00:00 UTC. -/
structure Instant where
  nanos : Int
deriving DecidableEq, Repr

namespace Instant

instance : LT Instant := ⟨fun a b => a.nanos < b.nanos⟩
instance : LE Instant := ⟨fun a b => a.nanos ≤ b.nanos⟩
instance (a b : Instant) : Decidable (a < b) := inferInstanceAs (Decidable (a.nanos < b.nanos))
instance (a b : Instant) : Decidable (a ≤ b) := inferInstanceAs (Decidable (a.nanos ≤ b.nanos))
instance : Ord Instant := ⟨compareOn nanos⟩

/-- Midnight at the start of -262143-01-01. -/
def earliest : Instant := ⟨-8334601228800 * 1000000000⟩

/-- The last nanosecond of +262142-12-31. -/
def latest : Instant := ⟨8210266876799 * 1000000000 + 999999999⟩

/-- The instant with this count, if the calendar reaches it. -/
def ofNanos? (nanos : Int) : Option Instant :=
  if earliest.nanos ≤ nanos ∧ nanos ≤ latest.nanos then some ⟨nanos⟩ else none

/-- The instant this many seconds and nanoseconds after 1970-01-01T00:00:00. -/
def ofUnix? (seconds nanos : Int) : Option Instant := ofNanos? (seconds * 1000000000 + nanos)

/-- **The instant a span later**, if the calendar reaches it. -/
def after? (t : Instant) (s : Span) : Option Instant := ofNanos? (t.nanos + s.nanos)

/-- Whole seconds since 1970-01-01, rounded down. -/
def unixSeconds (t : Instant) : Int := t.nanos / 1000000000

/-- Nanoseconds since the last whole second. -/
def subsecond (t : Instant) : Nat := (t.nanos % 1000000000).toNat

/-- The number of the day that holds the instant. -/
def dayNumber (t : Instant) : Int := t.unixSeconds / 86400

/-- The date of that day. -/
def date (t : Instant) : Date := Date.ofDayNumber t.dayNumber

/-- Seconds since the last midnight. -/
def secondOfDay (t : Instant) : Nat := (t.unixSeconds % 86400).toNat

def hour (t : Instant) : Nat := t.secondOfDay / 3600
def minute (t : Instant) : Nat := t.secondOfDay / 60 % 60
def second (t : Instant) : Nat := t.secondOfDay % 60

example : earliest.date = ⟨-262143, 1, 1⟩ := by decide
example : latest.date = ⟨262142, 12, 31⟩ := by decide
example : earliest.secondOfDay = 0 ∧ latest.secondOfDay = 86399 := by decide

end Instant

end Stockroom
