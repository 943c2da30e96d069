import Mathlib

/-!
# Machine integers and doubles

Fixed-width signed integers are integers that are wrapped around after an
operation that can leave the range.  Doubles are rational numbers that are
rounded after every operation.  Only two facts about the rounding are used:
small integers are exact, and the relative error is at most one half of a unit
in the last place, away from overflow and underflow.
-/

namespace HardwareInterfaces.MachineArithmetic

/-! ## Signed integers -/

def int32 (value : Int) : Int := value.bmod (2 ^ 32)

def int64 (value : Int) : Int := value.bmod (2 ^ 64)

variable {value : Int}

theorem int32_eq_self (hlower : -2 ^ 31 ≤ value) (hupper : value < 2 ^ 31) :
    int32 value = value :=
  Int.bmod_eq_of_le hlower hupper

theorem int64_eq_self (hlower : -2 ^ 63 ≤ value) (hupper : value < 2 ^ 63) :
    int64 value = value :=
  Int.bmod_eq_of_le hlower hupper

theorem le_int32 (value : Int) : -2 ^ 31 ≤ int32 value :=
  Int.le_bmod (Nat.two_pow_pos 32)

theorem int32_lt (value : Int) : int32 value < 2 ^ 31 :=
  Int.bmod_lt (Nat.two_pow_pos 32)

theorem le_int64 (value : Int) : -2 ^ 63 ≤ int64 value :=
  Int.le_bmod (Nat.two_pow_pos 64)

theorem int64_lt (value : Int) : int64 value < 2 ^ 63 :=
  Int.bmod_lt (Nat.two_pow_pos 64)

/-- Wrapping around makes a value smaller exactly when it is too large. -/
theorem le_int64_iff : value ≤ int64 value ↔ value < 2 ^ 63 := by
  constructor
  · exact fun hle => hle.trans_lt (int64_lt value)
  · intro hupper
    by_cases hlower : -2 ^ 63 ≤ value
    · exact (int64_eq_self hlower hupper).ge
    · exact (not_le.mp hlower).le.trans (le_int64 value)

/-- The value is one of 64 bits; a signed operation with another result is
undefined. -/
def FitsInt64 (value : Int) : Prop := -2 ^ 63 ≤ value ∧ value < 2 ^ 63

instance (value : Int) : Decidable (FitsInt64 value) :=
  inferInstanceAs (Decidable (_ ∧ _))

theorem FitsInt64.int64_eq (hfits : FitsInt64 value) : int64 value = value :=
  int64_eq_self hfits.1 hfits.2

theorem fitsInt64_of_abs_le (hbound : |value| ≤ 2 ^ 62) : FitsInt64 value := by
  obtain ⟨hlower, hupper⟩ := abs_le.mp hbound
  exact ⟨by omega, by omega⟩

/-- Wrapping around early makes no difference to a sum. -/
theorem int32_add (left right : Int) :
    int32 (int32 left + right) = int32 (left + right) :=
  Int.bmod_add_bmod

/-- A quotient lies between two bounds of the dividend per unit, if these
enclose zero. -/
theorem tdiv_mem_Icc {dividend divisor lower upper : Int}
    (hdivisor : 0 < divisor) (hlower : lower ≤ 0) (hupper : 0 ≤ upper)
    (hle : lower * divisor ≤ dividend) (hge : dividend ≤ upper * divisor) :
    lower ≤ dividend.tdiv divisor ∧ dividend.tdiv divisor ≤ upper := by
  rcases Int.le_total 0 dividend with hsign | hsign
  · rw [Int.tdiv_eq_ediv_of_nonneg hsign]
    exact ⟨hlower.trans (Int.ediv_nonneg hsign hdivisor.le),
      Int.ediv_le_of_le_mul hdivisor hge⟩
  · have hneg : dividend.tdiv divisor = -((-dividend) / divisor) := by
      rw [← Int.tdiv_eq_ediv_of_nonneg (Int.neg_nonneg_of_nonpos hsign),
        Int.neg_tdiv, Int.neg_neg]
    have hquotient : (-dividend) / divisor ≤ -lower := by
      apply Int.ediv_le_of_le_mul hdivisor
      rw [Int.neg_mul]
      exact Int.neg_le_neg hle
    have hnonneg : 0 ≤ (-dividend) / divisor :=
      Int.ediv_nonneg (Int.neg_nonneg_of_nonpos hsign) hdivisor.le
    rw [hneg]
    omega

/-! ## Doubles -/

/-- The cast of a double to an integer. -/
def truncate (value : ℚ) : Int := value.num.tdiv value.den

theorem abs_truncate_le {value : ℚ} {bound : Int}
    (hbound : |value| ≤ bound) : |truncate value| ≤ bound := by
  have hden : (0 : ℚ) < value.den := by exact_mod_cast value.den_pos
  have hnum : value * value.den = value.num := Rat.mul_den_eq_num value
  obtain ⟨hlower, hupper⟩ := abs_le.mp hbound
  have hnonneg : 0 ≤ bound := by exact_mod_cast (abs_nonneg value).trans hbound
  have hle : -bound * (value.den : Int) ≤ value.num := by
    have := mul_le_mul_of_nonneg_right hlower hden.le
    rw [hnum] at this
    exact_mod_cast this
  have hge : value.num ≤ bound * (value.den : Int) := by
    have := mul_le_mul_of_nonneg_right hupper hden.le
    rw [hnum] at this
    exact_mod_cast this
  exact abs_le.mpr (tdiv_mem_Icc (by exact_mod_cast value.den_pos)
    (by omega) hnonneg hle hge)

/-- The rounding of exact results to doubles. -/
structure Rounding where
  round : ℚ → ℚ
  round_int : ∀ value : Int, |value| ≤ 2 ^ 53 → round value = value
  error_le : ∀ value : ℚ, 1 / 2 ^ 200 ≤ |value| → |value| ≤ 2 ^ 200 →
    |round value - value| ≤ |value| / 2 ^ 53

/-- Computing without rounding is one of them. -/
def Rounding.exact : Rounding where
  round := id
  round_int _ _ := rfl
  error_le value _ _ := by
    rw [id, sub_self, abs_zero]
    exact div_nonneg (abs_nonneg value) (by norm_num)

namespace Rounding

variable (rounding : Rounding)

section Bounds

variable {rounding}
variable (hmono : Monotone rounding.round)

include hmono

variable {value : ℚ} {bound : Int}

/-- A bound that is an exact integer is not passed by rounding. -/
theorem le_round (hexact : |bound| ≤ 2 ^ 53) (hbound : bound ≤ value) :
    bound ≤ rounding.round value := by
  rw [← rounding.round_int bound hexact]
  exact hmono hbound

theorem round_le (hexact : |bound| ≤ 2 ^ 53) (hbound : value ≤ bound) :
    rounding.round value ≤ bound := by
  rw [← rounding.round_int bound hexact]
  exact hmono hbound

theorem abs_round_le (hexact : bound ≤ 2 ^ 53) (hbound : |value| ≤ bound) :
    |rounding.round value| ≤ bound := by
  have hnonneg : 0 ≤ bound := by exact_mod_cast (abs_nonneg value).trans hbound
  have habs : |bound| ≤ 2 ^ 53 := by rwa [abs_of_nonneg hnonneg]
  obtain ⟨hlower, hupper⟩ := abs_le.mp hbound
  have hlow : ((-bound : Int) : ℚ) ≤ rounding.round value :=
    le_round hmono (by rwa [abs_neg]) (by exact_mod_cast hlower)
  exact abs_le.mpr ⟨by exact_mod_cast hlow, round_le hmono habs hupper⟩

/-- A quotient by an exact integer that is not zero is not larger than the
dividend. -/
theorem abs_round_div_le {divisor : Int} (hexact : bound ≤ 2 ^ 53)
    (hbound : |value| ≤ bound) (hdivisor : divisor ≠ 0)
    (hsmall : |divisor| ≤ 2 ^ 53) :
    |rounding.round (value / rounding.round divisor)| ≤ bound := by
  rw [rounding.round_int divisor hsmall]
  apply abs_round_le hmono hexact
  have hone : (1 : ℚ) ≤ |(divisor : ℚ)| := by
    exact_mod_cast Int.one_le_abs hdivisor
  rw [abs_div]
  exact (div_le_self (abs_nonneg value) hone).trans hbound

end Bounds

/-- An integer and a quotient of integers that differ are too far apart for
the rounding of the quotient to reach the integer. -/
theorem round_div_le_iff {numerator denominator : Int}
    (hnumerator : 0 < numerator) (hsmall : numerator < 2 ^ 53)
    (hdenominator : 0 < denominator) (hbound : denominator ≤ 2 ^ 200)
    (limit : Int) :
    rounding.round (numerator / denominator) ≤ limit ↔
      (numerator / denominator : ℚ) ≤ limit := by
  have hden : (0 : ℚ) < denominator := by exact_mod_cast hdenominator
  have hnum : (1 : ℚ) ≤ numerator := by exact_mod_cast hnumerator
  have hlarge : (numerator : ℚ) < 2 ^ 53 := by exact_mod_cast hsmall
  have hone : (1 : ℚ) ≤ denominator := by exact_mod_cast hdenominator
  have hpos : (0 : ℚ) < numerator / denominator := div_pos (by linarith) hden
  have habs : |(numerator / denominator : ℚ)| = numerator / denominator :=
    abs_of_pos hpos
  have hle : (numerator / denominator : ℚ) ≤ numerator :=
    div_le_self (by linarith) hone
  -- The error stays below the distance to any other integer.
  have herror : |rounding.round (numerator / denominator) -
      numerator / denominator| < 1 / denominator := by
    refine lt_of_le_of_lt (rounding.error_le _ ?_ ?_) ?_
    · rw [habs]
      have hcast : (denominator : ℚ) ≤ 2 ^ 200 := by exact_mod_cast hbound
      calc (1 / 2 ^ 200 : ℚ) ≤ 1 / denominator :=
            one_div_le_one_div_of_le hden hcast
        _ ≤ numerator / denominator := div_le_div_of_nonneg_right hnum hden.le
    · rw [habs]
      exact (hle.trans hlarge.le).trans (by norm_num)
    · rw [habs, div_div, mul_comm, ← div_div]
      exact div_lt_div_of_pos_right ((div_lt_one (by norm_num)).mpr hlarge) hden
  obtain ⟨hbelow, habove⟩ := abs_lt.mp herror
  constructor
  · intro hround
    by_contra hlimit
    rw [not_le, lt_div_iff₀ hden] at hlimit
    have hgap : limit * denominator + 1 ≤ numerator := by
      exact_mod_cast hlimit
    have hgap' : (limit : ℚ) + 1 / denominator ≤ numerator / denominator := by
      rw [le_div_iff₀ hden, add_mul, div_mul_cancel₀ _ hden.ne']
      exact_mod_cast hgap
    linarith
  · intro hlimit
    rcases hlimit.lt_or_eq with hlt | heq
    · rw [div_lt_iff₀ hden] at hlt
      have hgap : numerator + 1 ≤ limit * denominator := by exact_mod_cast hlt
      have hgap' : (numerator / denominator : ℚ) + 1 / denominator ≤ limit := by
        rw [← add_div, div_le_iff₀ hden]
        exact_mod_cast hgap
      linarith
    · rw [heq, rounding.round_int]
      have hlower : (0 : ℚ) < limit := heq ▸ hpos
      have hupper : (limit : ℚ) < 2 ^ 53 := heq ▸ lt_of_le_of_lt hle hlarge
      rw [abs_of_pos (by exact_mod_cast hlower)]
      exact_mod_cast hupper.le

end Rounding

end HardwareInterfaces.MachineArithmetic
