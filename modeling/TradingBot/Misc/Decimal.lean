import Mathlib.Data.Int.Log
import Mathlib.Data.Rat.Floor
import Mathlib.Tactic.Linarith

/-!
# Decimal arithmetic of a given precision

An operation of a decimal context gives the exact result, rounded to a number of significant digits,
a half to the even neighbour. A decimal is its value, and overflows are left out. An operation whose
exact result has few enough digits is exact.
-/

namespace TradingBot.Misc

def roundHalfEven (x : ℚ) : ℤ :=
  let rest := x - ⌊x⌋
  if rest < 1 / 2 then ⌊x⌋
  else if 1 / 2 < rest then ⌊x⌋ + 1
  else if ⌊x⌋ % 2 = 0 then ⌊x⌋ else ⌊x⌋ + 1

/-- The power of ten of the last digit of a number that is written with so many digits. -/
def lastPlace (digits : ℕ) (x : ℚ) : ℤ := Int.log 10 |x| + 1 - digits

def roundDigits (digits : ℕ) (x : ℚ) : ℚ :=
  if x = 0 then 0
  else roundHalfEven (x / 10 ^ lastPlace digits x) * 10 ^ lastPlace digits x

/-- `int(value)`: towards zero. -/
def truncate (x : ℚ) : ℤ := if 0 ≤ x then ⌊x⌋ else ⌈x⌉

@[simp] theorem roundHalfEven_intCast (n : ℤ) : roundHalfEven (n : ℚ) = n := by
  unfold roundHalfEven
  rw [Int.floor_intCast, sub_self]
  norm_num

@[simp] theorem truncate_intCast (n : ℤ) : truncate (n : ℚ) = n := by
  unfold truncate
  rw [Int.floor_intCast, Int.ceil_intCast, ite_self]

/-- A number is written with few digits: an integer below that power of ten, at some place. -/
def HasDigits (digits : ℕ) (x : ℚ) : Prop :=
  ∃ (n place : ℤ), x = n * (10 : ℚ) ^ place ∧ |n| < 10 ^ digits

variable {digits : ℕ} {n : ℤ} {x : ℚ}

theorem lastPlace_le {place : ℤ} (hx : x = n * (10 : ℚ) ^ place)
    (hn : |n| < 10 ^ digits) (hne : x ≠ 0) : lastPlace digits x ≤ place := by
  have hpos : 0 < |x| := abs_pos.mpr hne
  have hbound : |x| < (10 : ℚ) ^ ((digits : ℤ) + place) := by
    rw [hx, abs_mul, abs_of_pos (show (0 : ℚ) < 10 ^ place from zpow_pos (by norm_num) place),
      zpow_add₀ (by norm_num : (10 : ℚ) ≠ 0), zpow_natCast]
    have hcast : (|(n : ℚ)|) < 10 ^ digits := by
      rw [← Int.cast_abs]
      exact_mod_cast hn
    exact mul_lt_mul_of_pos_right hcast (zpow_pos (by norm_num) place)
  have hlog : Int.log 10 |x| < (digits : ℤ) + place :=
    (Int.lt_zpow_iff_log_lt (by norm_num) hpos).mp (by exact_mod_cast hbound)
  unfold lastPlace
  omega

theorem roundDigits_of_hasDigits (h : HasDigits digits x) :
    roundDigits digits x = x := by
  obtain ⟨n, place, hx, hn⟩ := h
  by_cases hne : x = 0
  · rw [roundDigits, if_pos hne, hne]
  · have hplace := lastPlace_le hx hn hne
    obtain ⟨k, hk⟩ := Int.eq_ofNat_of_zero_le (Int.sub_nonneg.mpr hplace)
    have hten : (10 : ℚ) ≠ 0 := by norm_num
    -- at its last place the number is an integer
    have hwhole : x / 10 ^ lastPlace digits x = ((n * 10 ^ k : ℤ) : ℚ) := by
      rw [hx, mul_div_assoc, ← zpow_sub₀ hten, ← hx, hk, zpow_natCast]
      push_cast
      rfl
    rw [roundDigits, if_neg hne, hwhole, roundHalfEven_intCast, ← hwhole,
      div_mul_cancel₀ _ (zpow_ne_zero _ hten)]

theorem HasDigits.of_int (h : |n| < 10 ^ digits) : HasDigits digits n :=
  ⟨n, 0, by rw [zpow_zero, mul_one], h⟩

theorem HasDigits.shift (h : HasDigits digits x) (k : ℤ) :
    HasDigits digits (x * 10 ^ k) := by
  obtain ⟨n, place, hx, hn⟩ := h
  refine ⟨n, place + k, ?_, hn⟩
  rw [hx, zpow_add₀ (by norm_num : (10 : ℚ) ≠ 0), mul_assoc]

end TradingBot.Misc
