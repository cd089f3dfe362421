import Mathlib.Data.Int.Log
import Mathlib.Data.Rat.Floor

/-!
# Decimal rounding

Results of decimal arithmetic, rounded half to even to a number of significant digits.  A
number that has no more digits than that stays as it is.
-/

namespace ReisOs.Core

/-- The nearest integer, the even one of two. -/
def roundHalfEven (x : ℚ) : ℤ :=
  if x - ⌊x⌋ < 1 / 2 then ⌊x⌋
  else if 1 / 2 < x - ⌊x⌋ then ⌊x⌋ + 1
  else if ⌊x⌋ % 2 = 0 then ⌊x⌋
  else ⌊x⌋ + 1

theorem roundHalfEven_intCast (n : ℤ) : roundHalfEven n = n := by
  rw [roundHalfEven, Int.floor_intCast, sub_self, if_pos (by norm_num)]

/-- The unit of the last of the significant digits. -/
def lastUnit (digits : ℕ) (x : ℚ) : ℚ := 10 ^ (Int.log 10 |x| - digits + 1)

def roundSignificant (digits : ℕ) (x : ℚ) : ℚ :=
  if x = 0 then 0 else roundHalfEven (x / lastUnit digits x) * lastUnit digits x

/-- The number has at most the given count of significant digits. -/
def Representable (digits : ℕ) (x : ℚ) : Prop :=
  ∃ (coefficient exponent : ℤ), |coefficient| < 10 ^ digits ∧
    x = coefficient * (10 : ℚ) ^ exponent

theorem roundSignificant_of_representable {digits : ℕ} {x : ℚ}
    (h : Representable digits x) : roundSignificant digits x = x := by
  obtain ⟨coefficient, exponent, hdigits, hx⟩ := h
  rw [roundSignificant]
  split
  · next hzero => exact hzero.symm
  · next hnonzero =>
      have hten : (0 : ℚ) < 10 := by norm_num
      have hpos : 0 < |x| := abs_pos.mpr hnonzero
      -- the leading digit is within `digits` places of the exponent
      have hlog : Int.log 10 |x| < digits + exponent := by
        have hlower : ((10 : ℕ) : ℚ) ^ Int.log 10 |x| ≤ |x| :=
          Int.zpow_log_le_self (by norm_num) hpos
        have hcoefficient : |(coefficient : ℚ)| < 10 ^ digits := by
          rw [← Int.cast_abs]
          exact_mod_cast hdigits
        have hupper : |x| < (10 : ℚ) ^ ((digits : ℤ) + exponent) := by
          rw [hx, abs_mul, abs_of_pos (zpow_pos hten exponent), zpow_add₀ hten.ne',
            zpow_natCast]
          exact mul_lt_mul_of_pos_right hcoefficient (zpow_pos hten exponent)
        have hpowers := hlower.trans_lt hupper
        rw [Nat.cast_ofNat] at hpowers
        exact (zpow_lt_zpow_iff_right₀ (by norm_num)).mp hpowers
      obtain ⟨places, hplaces⟩ :
          ∃ places : ℕ, exponent - (Int.log 10 |x| - digits + 1) = places :=
        ⟨(exponent - (Int.log 10 |x| - digits + 1)).toNat,
          (Int.toNat_of_nonneg (by omega)).symm⟩
      have hscaled : x / lastUnit digits x = ((coefficient * 10 ^ places : ℤ) : ℚ) := by
        rw [lastUnit]
        nth_rewrite 1 [hx]
        rw [mul_div_assoc, ← zpow_sub₀ hten.ne', hplaces, zpow_natCast]
        push_cast
        rfl
      rw [hscaled, roundHalfEven_intCast, ← hscaled]
      exact div_mul_cancel₀ x (zpow_pos hten _).ne'

theorem representable_natCast {digits n : ℕ} (h : n < 10 ^ digits) :
    Representable digits (n : ℚ) := by
  refine ⟨n, 0, ?_, ?_⟩
  · rw [abs_of_nonneg (Int.natCast_nonneg n)]
    exact_mod_cast h
  · rw [zpow_zero, mul_one, Int.cast_natCast]

end ReisOs.Core
