import Stockroom.Numeric.Width

/-!
# Numeric/Numeral — decimal numerals

`Numeral.read` turns a text into a number of a given width: ASCII digits, after at most one sign,
where `-` is a sign only for a signed width.  The text is read from the left and the first thing
wrong with it decides the error.  `Numeral.paddedChars` writes a number with leading zeros.
-/

namespace Stockroom

/-- What keeps a text from being a numeral of the wanted width. -/
inductive NumeralError where
  | empty
  | invalidDigit
  | tooLarge
  | tooSmall
deriving DecidableEq, Repr

/-- The sentence that reports the error. -/
def NumeralError.message : NumeralError → String
  | empty => "cannot parse integer from empty string"
  | invalidDigit => "invalid digit found in string"
  | tooLarge => "number too large to fit in target type"
  | tooSmall => "number too small to fit in target type"

namespace Numeral

/-- The value of an ASCII digit. -/
def digit? (c : Char) : Option Nat :=
  if '0' ≤ c ∧ c ≤ '9' then some (c.toNat - '0'.toNat) else none

/-- The value of a hexadecimal digit of either case. -/
def hexDigit? (c : Char) : Option Nat :=
  if '0' ≤ c ∧ c ≤ '9' then some (c.toNat - '0'.toNat)
  else if 'a' ≤ c ∧ c ≤ 'f' then some (c.toNat - 'a'.toNat + 10)
  else if 'A' ≤ c ∧ c ≤ 'F' then some (c.toNat - 'A'.toNat + 10)
  else none

/-- Reads digits into `value`, growing away from zero up to `bound`.  A character that is no digit
wins over the overflow that the same character would cause. -/
def readDigits (bound : Nat) (overflow : NumeralError) :
    Nat → List Char → Except NumeralError Nat
  | value, [] => .ok value
  | value, c :: rest =>
    match digit? c with
    | none => .error .invalidDigit
    | some d =>
      if value * 10 + d ≤ bound then readDigits bound overflow (value * 10 + d) rest
      else .error overflow

/-- Digits after the sign; a sign alone is no numeral. -/
def readMagnitude (bound : Nat) (overflow : NumeralError) :
    List Char → Except NumeralError Nat
  | [] => .error .invalidDigit
  | digits => readDigits bound overflow 0 digits

/-- **Reading a numeral** of width `w`. -/
def readChars (w : Width) : List Char → Except NumeralError Int
  | [] => .error .empty
  | '+' :: digits => Int.ofNat <$> readMagnitude w.greatest.toNat .tooLarge digits
  | c :: rest =>
    if c = '-' ∧ w.isSigned then
      (fun magnitude => -Int.ofNat magnitude) <$> readMagnitude (-w.least).toNat .tooSmall rest
    else
      Int.ofNat <$> readMagnitude w.greatest.toNat .tooLarge (c :: rest)

/-- The number that a text denotes. -/
def read (w : Width) (text : String) : Except NumeralError Int := readChars w text.toList

/-- The number that a text denotes, if it denotes one. -/
def read? (w : Width) (text : String) : Option Int := (read w text).toOption

/-- At least `width` decimal digits, filled up with zeros on the left. -/
def paddedChars (width n : Nat) : List Char :=
  let digits := Nat.toDigits 10 n
  List.replicate (width - digits.length) '0' ++ digits

end Numeral

end Stockroom
