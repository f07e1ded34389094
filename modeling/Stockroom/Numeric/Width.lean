/-!
# Numeric/Width — the ranges of the numbers the service exchanges

Every number that crosses the service's border has a width.  Inside, numbers are plain integers, and an
operation whose exact result leaves its width is refused.  **Four results are not looked at, and wrap**
(`Width.wrap`): the version after a version, the difference of two amounts, the number of an order that the
database has counted, and the free pieces from which a restock started.
-/

namespace Stockroom

/-- How many bits a number may use, and whether it may be negative. -/
inductive Width where
  | int32
  | int64
  | nat16
  | nat32
  | nat64
deriving DecidableEq, Repr

namespace Width

/-- The least number of a width. -/
def least : Width → Int
  | int32 => -2147483648
  | int64 => -9223372036854775808
  | nat16 | nat32 | nat64 => 0

/-- The greatest number of a width. -/
def greatest : Width → Int
  | int32 => 2147483647
  | int64 => 9223372036854775807
  | nat16 => 65535
  | nat32 => 4294967295
  | nat64 => 18446744073709551615

/-- Whether negative numbers belong to the width. -/
def isSigned (w : Width) : Bool := w.least < 0

/-- **A number fits** when it lies between the two ends of the width. -/
def Fits (w : Width) (n : Int) : Prop := w.least ≤ n ∧ n ≤ w.greatest

instance (w : Width) (n : Int) : Decidable (w.Fits n) :=
  inferInstanceAs (Decidable (_ ∧ _))

theorem fits_int32 {n : Int} : int32.Fits n ↔ -2147483648 ≤ n ∧ n ≤ 2147483647 := Iff.rfl

theorem fits_int64 {n : Int} :
    int64.Fits n ↔ -9223372036854775808 ≤ n ∧ n ≤ 9223372036854775807 := Iff.rfl

/-! ## Wrapping -/

/-- The number of a width with the same lowest bits. -/
def wrap (w : Width) (n : Int) : Int := w.least + (n - w.least) % (w.greatest - w.least + 1)

theorem fits_wrap (w : Width) (n : Int) : w.Fits (w.wrap n) := by
  have hsize : 0 < w.greatest - w.least + 1 := by cases w <;> decide
  have hnonneg := Int.emod_nonneg (n - w.least) (Int.ne_of_gt hsize)
  have hlt := Int.emod_lt_of_pos (n - w.least) hsize
  unfold Fits wrap
  omega

/-- **Inside the range nothing wraps.** -/
theorem wrap_eq {w : Width} {n : Int} (h : w.Fits n) : w.wrap n = n := by
  obtain ⟨hleast, hgreatest⟩ := h
  rw [wrap, Int.emod_eq_of_lt (by omega) (by omega)]
  omega

/-- Only inside the range nothing wraps. -/
theorem wrap_eq_iff {w : Width} {n : Int} : w.wrap n = n ↔ w.Fits n :=
  ⟨fun h => h ▸ w.fits_wrap n, wrap_eq⟩

end Width

end Stockroom
