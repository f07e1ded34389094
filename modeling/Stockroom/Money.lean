import Stockroom.Refusal

/-!
# Money — amounts in the smallest unit of a currency

`Money.of` makes an amount, never a negative one.  Sums and multiples are exact or refused; a
difference is a plain number, since it may be negative.
-/

namespace Stockroom

/-- An amount of money. -/
structure Money where
  amount : Int
deriving DecidableEq, Repr

namespace Money

instance : ToString Money := ⟨fun m => toString m.amount⟩
instance : Ord Money := ⟨compareOn amount⟩

/-- An amount that is not negative. -/
def of (amount : Int) : Except Refusal Money :=
  if amount < 0 then .error (.invalidValue (.negativeMoney amount)) else .ok ⟨amount⟩

def zero : Money := ⟨0⟩

/-- A result of arithmetic on `lhs` and `rhs`, if 64 bits hold it. -/
def checked (result lhs rhs : Int) : Except Refusal Money :=
  if Width.int64.Fits result then .ok ⟨result⟩
  else .error (.invalidValue (.moneyOverflow lhs rhs))

def add (m other : Money) : Except Refusal Money :=
  checked (m.amount + other.amount) m.amount other.amount

def multiply (m : Money) (quantity : Int) : Except Refusal Money :=
  checked (m.amount * quantity) m.amount quantity

/-- The signed difference; between amounts that are not negative it is exact. -/
def subtract (m other : Money) : Int := Width.int64.wrap (m.amount - other.amount)

/-- **Differences of amounts that are not negative are exact.** -/
theorem subtract_eq {m other : Money} (hm : 0 ≤ m.amount) (hm' : Width.int64.Fits m.amount)
    (ho : 0 ≤ other.amount) (ho' : Width.int64.Fits other.amount) :
    m.subtract other = m.amount - other.amount := by
  rw [Width.fits_int64] at hm' ho'
  apply Width.wrap_eq
  rw [Width.fits_int64]
  omega

end Money

end Stockroom
