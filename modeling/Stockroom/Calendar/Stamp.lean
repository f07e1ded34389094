import Stockroom.Calendar.Instant
import Stockroom.Numeric.Numeral

/-!
# Calendar/Stamp — instants as text

Two written forms of an instant in UTC: `Instant.rfc3339` for people and machines to read, and
`Instant.compact`, digits only, for building names.  A year from 0 to 9999 has four digits; any
other carries a sign and has at least four.
-/

namespace Stockroom.Instant

open Numeral

/-- The year of a stamp. -/
def yearChars (year : Int) : List Char :=
  if 0 ≤ year ∧ year ≤ 9999 then paddedChars 4 year.toNat
  else (if year < 0 then '-' else '+') :: paddedChars 4 year.natAbs

/-- The fraction of a second: absent, or as many groups of three digits as it takes. -/
def fractionChars (nanos : Nat) : List Char :=
  if nanos = 0 then []
  else if nanos % 1000000 = 0 then '.' :: paddedChars 3 (nanos / 1000000)
  else if nanos % 1000 = 0 then '.' :: paddedChars 6 (nanos / 1000)
  else '.' :: paddedChars 9 nanos

/-- **The RFC 3339 form**, such as `2024-06-01T12:00:00.120+00:00`. -/
def rfc3339 (t : Instant) : String :=
  let date := t.date
  String.ofList <|
    yearChars date.year ++ '-' :: paddedChars 2 date.month ++ '-' :: paddedChars 2 date.day ++
    'T' :: paddedChars 2 t.hour ++ ':' :: paddedChars 2 t.minute ++
    ':' :: paddedChars 2 t.second ++ fractionChars t.subsecond ++ "+00:00".toList

/-- Year, month, day, hour, minute and second, with nothing between them. -/
def compactChars (t : Instant) : List Char :=
  let date := t.date
  yearChars date.year ++ paddedChars 2 date.month ++ paddedChars 2 date.day ++
    paddedChars 2 t.hour ++ paddedChars 2 t.minute ++ paddedChars 2 t.second

end Stockroom.Instant
