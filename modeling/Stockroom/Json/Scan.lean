import Stockroom.Numeric.Numeral

/-!
# Json/Scan — JSON text, character by character

A `Reader` takes characters off the front of a text.  It fails in two ways: the text is no JSON
(`Fault.malformed`), or it is JSON of another shape than wanted (`Fault.mismatched`).  Reading goes
strictly from left to right, so the first fault of either kind is the one that is reported.

Here are the readers for the parts of JSON that do not depend on what is wanted: blanks, words,
texts, numbers, and `skipValue`, which reads past any value.
-/

namespace Stockroom.Json

/-- Why a text cannot be read. -/
inductive Fault where
  | malformed
  | mismatched
deriving DecidableEq, Repr

/-- Takes characters off the front of a text. -/
abbrev Reader (α : Type) := StateT (List Char) (Except Fault) α

namespace Reader

variable {α : Type}

/-- The next character, which stays where it is. -/
def peek : Reader (Option Char) := return (← get).head?

def drop : Reader Unit := modify List.tail

/-- Blanks between the parts of JSON. -/
def isBlank (c : Char) : Bool := c = ' ' || c = '\n' || c = '\t' || c = '\r'

/-- The next character that is no blank. -/
def peekToken : Reader (Option Char) := do
  modify (·.dropWhile isBlank)
  peek

/-- The next character, which has to be there. -/
def next : Reader Char := do
  match ← get with
  | c :: rest =>
    set rest
    return c
  | [] => throw .malformed

/-- One certain character. -/
def expect (c : Char) : Reader Unit := do
  if (← next) ≠ c then throw .malformed

/-- Certain characters, one after the other. -/
def word (cs : List Char) : Reader Unit := cs.forM expect

/-! ## Texts -/

def hexDigit : Reader Nat := do
  match Numeral.hexDigit? (← next) with
  | some digit => return digit
  | none => throw .malformed

/-- Four hexadecimal digits. -/
def hexUnit : Reader Nat := do
  let a ← hexDigit
  let b ← hexDigit
  let c ← hexDigit
  let d ← hexDigit
  return ((a * 16 + b) * 16 + c) * 16 + d

/-- The character that a letter after a backslash stands for. -/
def simpleEscape? : Char → Option Char
  | '"' => some '"'
  | '\\' => some '\\'
  | '/' => some '/'
  | 'b' => some '\x08'
  | 'f' => some '\x0c'
  | 'n' => some '\n'
  | 'r' => some '\r'
  | 't' => some '\t'
  | _ => none

/-- Whether a unit is the first of a pair that stands for one character. -/
def isHighSurrogate (unit : Nat) : Bool := 0xD800 ≤ unit && unit ≤ 0xDBFF

/-- Whether a unit is the second of such a pair. -/
def isLowSurrogate (unit : Nat) : Bool := 0xDC00 ≤ unit && unit ≤ 0xDFFF

/-- The character of one unit or of a pair of them.  A unit of a pair does not stand alone. -/
def unicodeEscape : Reader Char := do
  let unit ← hexUnit
  if isLowSurrogate unit then throw .malformed
  else if isHighSurrogate unit then
    expect '\\'
    expect 'u'
    let second ← hexUnit
    if isLowSurrogate second then
      return Char.ofNat (0x10000 + (unit - 0xD800) * 0x400 + (second - 0xDC00))
    else throw .malformed
  else return Char.ofNat unit

/-- The character after a backslash. -/
def escape : Reader Char := do
  let c ← next
  if c = 'u' then unicodeEscape
  else
    match simpleEscape? c with
    | some c => return c
    | none => throw .malformed

/-- The same without a look at what the escape stands for. -/
def skipEscape : Reader Unit := do
  let c ← next
  if c = 'u' then
    let _ ← hexUnit
  else if (simpleEscape? c).isNone then throw .malformed

/-- The characters up to the closing quote; at most `fuel` of them. -/
def textChars (escaped : Reader α) (plain : Char → α) : (fuel : Nat) → Reader (List α)
  | 0 => throw .malformed
  | fuel + 1 => do
    let c ← next
    if c = '"' then return []
    else if c = '\\' then return (← escaped) :: (← textChars escaped plain fuel)
    else if c.toNat < 0x20 then throw .malformed
    else return plain c :: (← textChars escaped plain fuel)

/-- A text in quotes, of which the first is still there. -/
def text : Reader String := do
  expect '"'
  return String.ofList (← textChars escape id (← get).length)

/-- Reads past a text in quotes. -/
def skipText : Reader Unit := do
  expect '"'
  let _ ← textChars skipEscape (fun _ => ()) (← get).length

/-! ## Numbers -/

/-- The parts of a number as they are written. -/
structure Number where
  isNegative : Bool
  whole : List Nat
  fraction : List Nat
  exponent : Option Int
deriving DecidableEq, Repr

/-- Whether a character is an ASCII digit. -/
def isDigit (c : Char) : Bool := (Numeral.digit? c).isSome

/-- Digits, possibly none. -/
def digits : Reader (List Nat) := do
  let cs ← get
  set (cs.dropWhile isDigit)
  return (cs.takeWhile isDigit).filterMap Numeral.digit?

/-- At least one digit. -/
def someDigits : Reader (List Nat) := do
  match ← digits with
  | [] => throw .malformed
  | ds => return ds

def ofDigits (ds : List Nat) : Nat := ds.foldl (fun n d => n * 10 + d) 0

/-- The digits before the point: no zero comes before another digit. -/
def whole : Reader (List Nat) := do
  match ← someDigits with
  | 0 :: _ :: _ => throw .malformed
  | ds => return ds

/-- Takes a character off if it is the next one. -/
def takeIf (p : Char → Bool) : Reader Bool := do
  if (← peek).any p then
    drop
    return true
  else return false

/-- The power of ten that a number is written with. -/
def exponent : Reader (Option Int) := do
  unless ← takeIf fun c => c = 'e' || c = 'E' do return none
  let isNegative ← takeIf (· = '-')
  unless isNegative do let _ ← takeIf (· = '+')
  let size := Int.ofNat (ofDigits (← someDigits))
  return some (if isNegative then -size else size)

/-- A number, as it is written. -/
def number : Reader Number := do
  let isNegative ← takeIf (· = '-')
  let whole ← whole
  let fraction ← if ← takeIf (· = '.') then someDigits else pure []
  return ⟨isNegative, whole, fraction, ← exponent⟩

end Reader

/-- The nearest number with 53 significant binary digits; of two the one with an even last digit. -/
def nearestDouble (n : Nat) : Nat :=
  let unit := 1 <<< (n.log2 - 52)
  let down := n / unit
  let rest := n % unit
  if 2 * rest < unit ∨ (2 * rest = unit ∧ down % 2 = 0) then down * unit else (down + 1) * unit

/-- Whether a number has no nearest one among the floating-point numbers of 64 bits. -/
def exceedsDouble (n : Nat) : Bool := (1 <<< 1024) - (1 <<< 970) ≤ n

namespace Reader.Number

/-- The whole number, unless the number is written as a fraction, with a power of ten, as `-0`, or
beyond 64 bits. -/
def integer? (n : Number) : Option Int :=
  let magnitude := Int.ofNat (ofDigits n.whole)
  if n.fraction ≠ [] ∨ n.exponent.isSome then none
  else if n.isNegative then
    if magnitude ≠ 0 ∧ Width.int64.Fits (-magnitude) then some (-magnitude) else none
  else if Width.nat64.Fits magnitude then some magnitude else none

/-- The leading digits that 64 bits hold, and how many digits follow. -/
def significand (start : Nat) (ds : List Nat) : Nat × Nat :=
  match ds with
  | [] => (start, 0)
  | d :: rest =>
    if start * 10 + d < 1 <<< 64 then significand (start * 10 + d) rest else (start, ds.length)

/-- Whether the number is too large for a floating-point number.  It is approximated from its leading
digits and a power of ten. -/
def isTooLarge (n : Number) : Bool :=
  let (head, dropped) := significand 0 n.whole
  let (digits, unused) := significand head n.fraction
  let power := n.exponent.getD 0 + dropped - (n.fraction.length - unused)
  if digits = 0 ∨ power < 0 then false
  else if power > 308 then true
  else exceedsDouble (nearestDouble digits * nearestDouble (Nat.pow 10 power.toNat))

end Reader.Number

namespace Reader

/-! ## Any value -/

/-- Reads past the rest of a list or an object, whose items `item` reads past. -/
def skipItems (item : Reader Unit) (close : Char) : (fuel : Nat) → Reader Unit
  | 0 => throw .malformed
  | fuel + 1 => do
    item
    match ← peekToken with
    | some ',' =>
      drop
      skipItems item close fuel
    | some c => if c = close then drop else throw .malformed
    | none => throw .malformed

/-- The colon after a key. -/
def colon : Reader Unit := do
  let _ ← peekToken
  expect ':'

/-- Reads past a key, the colon, and a value. -/
def skipMember (value : Reader Unit) : Reader Unit := do
  let _ ← peekToken
  skipText
  colon
  value

/-- Reads past one value; it is nested no deeper than `depth`. -/
def skipValue : (depth : Nat) → Reader Unit
  | 0 => throw .malformed
  | depth + 1 => do
    match ← peekToken with
    | some '"' => skipText
    | some '[' =>
      drop
      if (← peekToken) = some ']' then drop
      else skipItems (skipValue depth) ']' (← get).length
    | some '\x7b' =>
      drop
      if (← peekToken) = some '\x7d' then drop
      else skipItems (skipMember (skipValue depth)) '\x7d' (← get).length
    | some 'n' => word "null".toList
    | some 't' => word "true".toList
    | some 'f' => word "false".toList
    | _ => let _ ← number

end Reader

end Stockroom.Json
