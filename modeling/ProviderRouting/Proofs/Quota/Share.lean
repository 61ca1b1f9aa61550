import ProviderRouting.Proofs.Decimal
import ProviderRouting.Quota.Ledger

/-!
# Shares

A share that is a number at all is moved between zero and one, so its scale is that of one at
most.
-/

namespace ProviderRouting.QuotaEntry

open Float.Model Float.Model.UnpackedFloat

variable {share : Float}

theorem unpack_one : (1.0 : Float).toModel.unpack =
    .finite .positive 4503599627370496 (-52) (by decide) :=
  rfl

theorem unpack_zero : (0.0 : Float).toModel.unpack = .zero .positive :=
  rfl

theorem toNat_unpackExponent (share : Float) :
    (@unpackExponent Format.binary64 share.toModel.toBits.toBitVec).toNat =
      Decimal.scaleOf share := by
  change (BitVec.extractLsb 62 52 share.toModel.toBits.toBitVec).toNat =
    share.toModel.toBits.toBitVec.toNat / 4503599627370496 % 2048
  rw [BitVec.extractLsb_toNat, Nat.shiftRight_eq_div_pow]

theorem lt_iff_unpack {left right : Float} :
    left < right ↔ left.toModel.unpack.lt right.toModel.unpack = true := by
  change decide (left.toModel < right.toModel) = true ↔ _
  exact decide_eq_true_iff

/-- A mantissa with its leading bit is positive. -/
theorem leadingBit_pos (spec : Format) (mantissa : BitVec spec.mantissaBitsWithoutImplicit) :
    0 < (1#1 ++ mantissa).toNat := by
  simp

/-- The greatest exponent stands for no number, and the least for numbers close to zero. -/
theorem exists_unpack_eq (share : Float) :
    ∃ special tiny sign mantissa hpositive,
      share.toModel.unpack =
        (if @unpackExponent Format.binary64 share.toModel.toBits.toBitVec = -1#11 then special
          else if @unpackExponent Format.binary64 share.toModel.toBits.toBitVec = 0#11 then tiny
          else .finite sign mantissa ((Decimal.scaleOf share : Int) - 1075) hpositive) ∧
        special.isFinite = false := by
  rw [← toNat_unpackExponent]
  refine ⟨_, _, _, _, leadingBit_pos Format.binary64 _, rfl, ?_⟩
  split <;> rfl

/-- A finite number is close to zero, or it is a mantissa with its scale. -/
theorem unpack_eq_finite (hfinite : share.isFinite = true) (hscale : Decimal.scaleOf share ≠ 0) :
    ∃ sign mantissa hpositive, share.toModel.unpack =
      .finite sign mantissa ((Decimal.scaleOf share : Int) - 1075) hpositive := by
  obtain ⟨special, tiny, sign, mantissa, hpositive, hunpack, hspecial⟩ := exists_unpack_eq share
  refine ⟨sign, mantissa, hpositive, ?_⟩
  have hnumber : @unpackExponent Format.binary64 share.toModel.toBits.toBitVec ≠ -1#11 := by
    intro hgreatest
    change share.toModel.unpack.isFinite = true at hfinite
    rw [hunpack, if_pos hgreatest, hspecial] at hfinite
    exact Bool.false_ne_true hfinite
  have hlarge : @unpackExponent Format.binary64 share.toModel.toBits.toBitVec ≠ 0#11 := by
    intro hleast
    rw [← toNat_unpackExponent, hleast] at hscale
    exact hscale rfl
  rw [hunpack, if_neg hnumber, if_neg hlarge]

/-- A finite number that is neither negative nor above one has no greater scale than one. -/
theorem scaleOf_le (hfinite : share.isFinite = true) (hnegative : ¬ share < 0.0)
    (habove : ¬ 1.0 < share) : Decimal.scaleOf share ≤ 1023 := by
  by_contra hscale
  obtain ⟨sign, mantissa, hpositive, hunpack⟩ := unpack_eq_finite hfinite (by omega)
  rw [lt_iff_unpack, unpack_zero, hunpack] at hnegative
  rw [lt_iff_unpack, unpack_one, hunpack] at habove
  cases sign with
  | negative => exact hnegative rfl
  | positive =>
      have hless : compare (-52) ((Decimal.scaleOf share : Int) - 1075) = .lt :=
        Int.compare_eq_lt.mpr (by omega)
      refine habove ?_
      change (some ((compare (-52) ((Decimal.scaleOf share : Int) - 1075)).then _) ==
        some Ordering.lt) = true
      rw [hless]
      rfl

/-- A share that is a number is at most one. -/
theorem scaleOf_clampShare (hfinite : (clampShare share).isFinite = true) :
    Decimal.scaleOf (clampShare share) ≤ 1023 := by
  rw [clampShare] at hfinite ⊢
  split
  · decide +kernel
  · split
    · decide +kernel
    · next hnegative habove =>
      rw [if_neg hnegative, if_neg habove] at hfinite
      exact scaleOf_le hfinite hnegative habove

end ProviderRouting.QuotaEntry
