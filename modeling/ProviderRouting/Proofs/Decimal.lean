import ProviderRouting.Decimal
import Mathlib.Algebra.Order.Ring.Nat
import Mathlib.Tactic.Ring

/-!
# Shortest decimals

The shortest decimal of a small double is found on a grid that is no coarser than hundreds, so
its point stands close to its digits, and it is zero only if the double is.
-/

namespace ProviderRouting.Decimal

variable {binary : Binary} {decimal : Scaled} {exponent : Int} {value : Float}

/-- A magnitude below two. -/
structure Binary.IsSmall (binary : Binary) : Prop where
  mantissa : binary.mantissa < 9007199254740992
  exponent : binary.exponent ≤ -52

/-- The field of a double that holds its scale. -/
def scaleOf (value : Float) : Nat :=
  value.toBits.toNat / 4503599627370496 % 2048

theorem Binary.ofFloat_isSmall (hscale : scaleOf value ≤ 1023) :
    (Binary.ofFloat value).IsSmall := by
  rw [scaleOf] at hscale
  simp only [Binary.ofFloat]
  split
  · constructor <;> dsimp only <;> omega
  · constructor <;> dsimp only <;> omega

/-- A decimal with its point within sixteen digits. -/
structure Scaled.IsShort (decimal : Scaled) : Prop where
  point : ((Nat.toDigits 10 decimal.digits).length : Int) + decimal.exponent ≤ 16
  digits : 0 < decimal.exponent → decimal.digits ≠ 0

theorem onGrid_eq_some (hmantissa : 0 < binary.mantissa)
    (hgrid : onGrid binary exponent = some decimal) :
    decimal.exponent = exponent ∧ decimal.digits ≠ 0 ∧
      decimal.digits ≤ 4 * binary.mantissa *
        (Nat.pow 2 (binary.exponent - 2).toNat * Nat.pow 10 (-exponent).toNat) /
          (Nat.pow 2 (-(binary.exponent - 2)).toNat * Nat.pow 10 exponent.toNat) + 1 := by
  unfold onGrid at hgrid
  extract_lets quarter numerator denominator fourfold low high inside below above nearBelow at hgrid
  have hnumerator : 0 < numerator :=
    Nat.mul_pos (Nat.pow_pos (by decide)) (Nat.pow_pos (by decide))
  have hlow : 0 < low := Nat.mul_pos (by split <;> omega) hnumerator
  have hinside {candidate : Nat} (hcandidate : inside candidate = true) : candidate ≠ 0 := by
    rintro rfl
    simp only [inside, Nat.zero_mul] at hcandidate
    split at hcandidate
    · simp at hcandidate
      omega
    · simp at hcandidate
  split at hgrid
  · next hbelow habove =>
    cases hgrid
    refine ⟨rfl, ?_, ?_⟩
    · dsimp only
      split
      · exact hinside hbelow
      · exact hinside habove
    · change (if nearBelow then below else above) ≤ below + 1
      split <;> omega
  · next hbelow _ =>
    cases hgrid
    exact ⟨rfl, hinside hbelow, Nat.le_succ below⟩
  · next _ habove =>
    cases hgrid
    exact ⟨rfl, hinside habove, Nat.le_refl above⟩
  · cases hgrid

/-- On its own grid, the digits of a small number reach one place before the point at most. -/
theorem isShort_of_onGrid (hsmall : binary.IsSmall) (hmantissa : 0 < binary.mantissa)
    (hexponent : exponent ≤ 2) (hgrid : onGrid binary exponent = some decimal) :
    decimal.IsShort := by
  obtain ⟨rfl, hdigits, hle⟩ := onGrid_eq_some hmantissa hgrid
  obtain ⟨hbound, hscale⟩ := hsmall
  refine ⟨?_, fun _ => hdigits⟩
  have hdenominator : 2 ^ 54 ≤ 2 ^ (-(binary.exponent - 2)).toNat :=
    Nat.pow_le_pow_right (by decide) (by omega)
  have hzero : (binary.exponent - 2).toNat = 0 := by omega
  simp only [hzero, Nat.pow_eq, Nat.pow_zero, Nat.one_mul] at hle
  -- a grid coarser than the units has room for one digit, a finer one for its own places
  by_cases hpositive : 0 < decimal.exponent
  · have hplaces : (-decimal.exponent).toNat = 0 := by omega
    have hten : 10 ^ 1 ≤ 10 ^ decimal.exponent.toNat :=
      Nat.pow_le_pow_right (by decide) (by omega)
    have hproduct := Nat.mul_le_mul hdenominator hten
    rw [hplaces, Nat.pow_zero, Nat.mul_one, Nat.div_eq_of_lt (by omega)] at hle
    have hlength : (Nat.toDigits 10 decimal.digits).length ≤ 1 :=
      (Nat.length_toDigits_le_iff (by decide) (by decide)).mpr (by omega)
    omega
  · have hplaces : decimal.exponent.toNat = 0 := by omega
    rw [hplaces, Nat.pow_zero, Nat.mul_one] at hle
    have hlength : (Nat.toDigits 10 decimal.digits).length ≤ (-decimal.exponent).toNat + 1 := by
      refine (Nat.length_toDigits_le_iff (by decide) (by omega)).mpr ?_
      have hpower : 0 < 10 ^ (-decimal.exponent).toNat := Nat.pow_pos (by decide)
      have hquotient : 4 * binary.mantissa * 10 ^ (-decimal.exponent).toNat /
          2 ^ (-(binary.exponent - 2)).toNat < 2 * 10 ^ (-decimal.exponent).toNat := by
        rw [Nat.div_lt_iff_lt_mul (by omega)]
        calc 4 * binary.mantissa * 10 ^ (-decimal.exponent).toNat
            < 2 ^ 55 * 10 ^ (-decimal.exponent).toNat :=
              Nat.mul_lt_mul_of_pos_right (by omega) hpower
          _ = 2 * 10 ^ (-decimal.exponent).toNat * 2 ^ 54 := by ring
          _ ≤ 2 * 10 ^ (-decimal.exponent).toNat * 2 ^ (-(binary.exponent - 2)).toNat :=
              Nat.mul_le_mul_left _ hdenominator
      rw [Nat.pow_succ]
      omega
    omega

theorem refine_isShort (hsmall : binary.IsSmall) (hmantissa : 0 < binary.mantissa)
    (attempts : Nat) (hexponent : exponent ≤ 2) :
    (refine binary exponent attempts).IsShort := by
  induction attempts generalizing exponent with
  | zero =>
      have hlength : (Nat.toDigits 10 binary.mantissa).length ≤ 16 :=
        (Nat.length_toDigits_le_iff (by decide) (by decide)).mpr
          (hsmall.mantissa.trans (by decide))
      refine ⟨?_, fun _ => Nat.ne_of_gt hmantissa⟩
      change ((Nat.toDigits 10 binary.mantissa).length : Int) + 0 ≤ 16
      omega
  | succ attempts ih =>
      rw [refine]
      cases hgrid : onGrid binary exponent with
      | some decimal => exact isShort_of_onGrid hsmall hmantissa hexponent hgrid
      | none => exact ih (by omega)

theorem shortest_isShort (hscale : scaleOf value ≤ 1023) : (shortest value).IsShort := by
  have hsmall := Binary.ofFloat_isSmall hscale
  rw [shortest]
  split
  · exact ⟨by decide, fun hpositive => absurd hpositive (by decide)⟩
  · next hnonzero =>
    have hmantissa : 0 < (Binary.ofFloat value).mantissa := Nat.pos_of_ne_zero hnonzero
    have hlog : (Binary.ofFloat value).mantissa.log2 < 53 :=
      (Nat.log2_lt hnonzero).mpr hsmall.mantissa
    have hexponent := hsmall.exponent
    exact refine_isShort hsmall hmantissa 24 (by omega)

end ProviderRouting.Decimal
