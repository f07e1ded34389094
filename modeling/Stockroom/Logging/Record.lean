import Stockroom.Numeric.Numeral

/-!
# Logging/Record — what the service reports about its work

A `LogRecord` names the component that speaks and carries a message, named details, and the
`CorrelationId` of the run that it belongs to, if there is one.
-/

namespace Stockroom

inductive LogLevel where
  | debug
  | info
  | warn
  | error
deriving DecidableEq, Repr

/-- A number of 128 bits that ties the records of one run together. -/
structure CorrelationId where
  bits : Nat
deriving DecidableEq, Repr

namespace CorrelationId

/-- The last `count` hexadecimal digits of a number. -/
def hexChars : (count n : Nat) → List Char
  | 0, _ => []
  | count + 1, n => hexChars count (n / 16) ++ [Nat.digitChar (n % 16)]

/-- **The written form**: groups of 8, 4, 4, 4 and 12 digits, in lower case. -/
def text (id : CorrelationId) : String :=
  String.ofList <|
    hexChars 8 (id.bits >>> 96) ++ '-' :: hexChars 4 (id.bits >>> 80) ++
    '-' :: hexChars 4 (id.bits >>> 64) ++ '-' :: hexChars 4 (id.bits >>> 48) ++
    '-' :: hexChars 12 id.bits

/-- The number that hexadecimal digits write, in either case. -/
def ofDigits? (cs : List Char) : Option CorrelationId :=
  (cs.mapM Numeral.hexDigit?).map fun digits => ⟨digits.foldl (fun n d => 16 * n + d) 0⟩

/-- Reads the written form. -/
def ofGroups? (cs : List Char) : Option CorrelationId :=
  let groups := cs.splitOn '-'
  if groups.map List.length = [8, 4, 4, 4, 12] then ofDigits? groups.flatten else none

/-- What marks the written form as a name. -/
def namePrefix : String := "urn:uuid:"

/-- Reads the written form, also within braces or after `namePrefix`, or the 32 digits alone. -/
def ofText? (s : String) : Option CorrelationId :=
  let cs := s.toList
  if cs.length = 32 then ofDigits? cs
  else if cs.head? = some '\x7b' ∧ cs.getLast? = some '\x7d' then ofGroups? cs.tail.dropLast
  else if namePrefix.toList.isPrefixOf cs then ofGroups? (cs.drop namePrefix.length)
  else ofGroups? cs

end CorrelationId

/-- One report. -/
structure LogRecord where
  level : LogLevel
  component : String
  message : String
  correlation : Option CorrelationId
  context : Option (List (String × String))
deriving DecidableEq, Repr

end Stockroom
