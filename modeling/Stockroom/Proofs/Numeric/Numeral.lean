import Stockroom.Numeric.Numeral

/-!
# Proofs/Numeric/Numeral — which texts are numerals

`Numeral.Denotes` tells which number a text stands for in a width: ASCII digits and nothing else, after at
most one sign, with a value that fits.  **Reading finds exactly that** (`Numeral.read_eq_ok_iff`).  A text is
read from the left and given up as soon as the value is too large; that is not too early, because a value
never becomes smaller by more digits (`Numeral.le_ofDigitChars`).
-/

namespace Stockroom.Numeral

variable {w : Width} {n : Int} {digits : List Char}

/-- Digits, at least one. -/
def AreDigits (digits : List Char) : Prop := digits ≠ [] ∧ ∀ c ∈ digits, c.isDigit

/-- The number that digits stand for. -/
def valueOf (digits : List Char) : Nat := Nat.ofDigitChars 10 digits 0

/-- **The number that a text denotes** in a width. -/
inductive Denotes (w : Width) : List Char → Int → Prop where
  | plain {digits : List Char} (hdigits : AreDigits digits) (hfits : w.Fits (valueOf digits)) :
      Denotes w digits (valueOf digits)
  | plus {digits : List Char} (hdigits : AreDigits digits) (hfits : w.Fits (valueOf digits)) :
      Denotes w ('+' :: digits) (valueOf digits)
  | minus {digits : List Char} (hdigits : AreDigits digits) (hsigned : w.isSigned = true)
      (hfits : w.Fits (-valueOf digits)) : Denotes w ('-' :: digits) (-valueOf digits)

theorem Denotes.fits {text : List Char} (h : Denotes w text n) : w.Fits n := by
  cases h <;> assumption

/-! ## Digits -/

theorem digit?_eq_some {c : Char} (h : c.isDigit) : digit? c = some (c.toNat - '0'.toNat) := by
  have hrange : '0' ≤ c ∧ c ≤ '9' := by
    simpa [Char.isDigit, Char.le_def] using h
  rw [digit?, if_pos hrange]

theorem digit?_eq_none {c : Char} (h : ¬c.isDigit) : digit? c = none := by
  have hrange : ¬('0' ≤ c ∧ c ≤ '9') := by
    simpa [Char.isDigit, Char.le_def] using h
  rw [digit?, if_neg hrange]

/-- More digits do not make a value smaller. -/
theorem le_ofDigitChars (digits : List Char) (value : Nat) : value ≤ Nat.ofDigitChars 10 digits value := by
  induction digits generalizing value with
  | nil => exact Nat.le_refl _
  | cons c rest ih =>
    rw [Nat.ofDigitChars_cons]
    exact Nat.le_trans (by omega) (ih _)

theorem readDigits_eq_ok_iff {bound value m : Nat} {overflow : NumeralError} (h : value ≤ bound) :
    readDigits bound overflow value digits = .ok m ↔
      (∀ c ∈ digits, c.isDigit) ∧ Nat.ofDigitChars 10 digits value = m ∧ m ≤ bound := by
  induction digits generalizing value with
  | nil =>
    simp only [readDigits, Except.ok.injEq, List.not_mem_nil, false_implies, implies_true, true_and,
      Nat.ofDigitChars_nil]
    exact ⟨fun heq => ⟨heq, heq ▸ h⟩, And.left⟩
  | cons c rest ih =>
    rw [List.forall_mem_cons, Nat.ofDigitChars_cons, Nat.mul_comm 10 value]
    by_cases hc : c.isDigit
    · simp only [readDigits, digit?_eq_some hc, hc, true_and]
      split
      · next hle => exact ih hle
      · next hgt =>
        -- The value is too large already, and so is the whole one.
        refine ⟨nofun, fun ⟨_, hvalue, hle⟩ => absurd ?_ hgt⟩
        exact Nat.le_trans (le_ofDigitChars rest _) (hvalue.symm ▸ hle)
    · simp [readDigits, digit?_eq_none hc, hc]

theorem readMagnitude_eq_ok_iff {bound m : Nat} {overflow : NumeralError} :
    readMagnitude bound overflow digits = .ok m ↔
      AreDigits digits ∧ valueOf digits = m ∧ m ≤ bound := by
  cases digits with
  | nil => simp [readMagnitude, AreDigits]
  | cons c rest =>
    show readDigits bound overflow 0 (c :: rest) = .ok m ↔ _
    refine (readDigits_eq_ok_iff (Nat.zero_le _)).trans (and_congr_left fun _ => ?_)
    exact (and_iff_right (List.cons_ne_nil c rest)).symm

/-! ## Texts -/

/-- A number that is not negative fits if it is not too large. -/
theorem fits_ofNat_iff {m : Nat} : w.Fits m ↔ m ≤ w.greatest.toNat := by
  unfold Width.Fits
  cases w <;> simp only [Width.least, Width.greatest] <;> omega

theorem fits_neg_iff {m : Nat} : w.Fits (-m) ↔ m ≤ (-w.least).toNat := by
  unfold Width.Fits
  cases w <;> simp only [Width.least, Width.greatest] <;> omega

/-- What is read behind a sign, with the sign put back. -/
theorem map_readMagnitude_eq_ok_iff {bound : Nat} {overflow : NumeralError} {sign : Nat → Int} :
    sign <$> readMagnitude bound overflow digits = .ok n ↔
      AreDigits digits ∧ valueOf digits ≤ bound ∧ sign (valueOf digits) = n := by
  constructor
  · intro h
    cases hread : readMagnitude bound overflow digits with
    | error e => rw [hread] at h; cases h
    | ok m =>
      rw [hread] at h
      obtain ⟨hdigits, rfl, hle⟩ := readMagnitude_eq_ok_iff.mp hread
      exact ⟨hdigits, hle, Except.ok.inj h⟩
  · rintro ⟨hdigits, hle, rfl⟩
    rw [readMagnitude_eq_ok_iff.mpr ⟨hdigits, rfl, hle⟩]
    rfl

theorem not_areDigits_cons {c : Char} {rest : List Char} (hc : ¬c.isDigit) : ¬AreDigits (c :: rest) :=
  fun h => hc (h.2 c List.mem_cons_self)

/-- **Reading finds the number that a text denotes.** -/
theorem readChars_eq_ok_iff {text : List Char} : readChars w text = .ok n ↔ Denotes w text n := by
  unfold readChars
  split
  · refine ⟨nofun, fun h => ?_⟩
    cases h with
    | plain hdigits => exact absurd rfl hdigits.1
  · rw [map_readMagnitude_eq_ok_iff, ← fits_ofNat_iff]
    constructor
    · rintro ⟨hdigits, hfits, rfl⟩
      exact .plus hdigits hfits
    · intro h
      cases h with
      | plain hdigits => exact absurd hdigits (not_areDigits_cons (by decide))
      | plus hdigits hfits => exact ⟨hdigits, hfits, rfl⟩
  · next c rest hplus =>
    split
    · next hsign =>
      obtain ⟨rfl, hsigned⟩ := hsign
      rw [map_readMagnitude_eq_ok_iff, ← fits_neg_iff]
      constructor
      · rintro ⟨hdigits, hfits, rfl⟩
        exact .minus hdigits hsigned hfits
      · intro h
        cases h with
        | plain hdigits => exact absurd hdigits (not_areDigits_cons (by decide))
        | minus hdigits _ hfits => exact ⟨hdigits, hfits, rfl⟩
    · next hsign =>
      rw [map_readMagnitude_eq_ok_iff, ← fits_ofNat_iff]
      constructor
      · rintro ⟨hdigits, hfits, rfl⟩
        exact .plain hdigits hfits
      · intro h
        cases h with
        | plain hdigits hfits => exact ⟨hdigits, hfits, rfl⟩
        | plus => exact absurd rfl hplus
        | minus _ hsigned => exact absurd ⟨rfl, hsigned⟩ hsign

theorem read_eq_ok_iff {text : String} : read w text = .ok n ↔ Denotes w text.toList n :=
  readChars_eq_ok_iff

end Stockroom.Numeral
