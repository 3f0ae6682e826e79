import Mathlib.Algebra.Order.Field.Power
import Mathlib.Data.Int.Log
import Mathlib.Data.Rat.Floor
import WalletWatch.Binary.Arithmetic
/-!
# Rounding is exact where it can be

What a quotient and a pair of significand and exponent stand for is a rational number (`value`). The
search for the unit of a quotient is the binary logarithm (`floorLog2_eq_log`), so a quotient is
counted in the unit of the pair that a format writes for it (`unitExponent_eq`). Rounding then has
nothing to do: a quotient whose value is a number of the format becomes this number
(`Number.ofRatio_eq`).
-/

namespace WalletWatch.Binary

/-! ## Values -/

/-- The number that a significand and an exponent stand for. -/
def value (significand : Nat) (exponent : Int) : ℚ := significand * 2 ^ exponent

variable {f : Format} {m : Nat} {e : Int}

theorem cast_twoPow (n : Nat) : (twoPow n : ℚ) = 2 ^ n := by
  rw [twoPow, Nat.pow_eq]
  exact Nat.cast_pow 2 n

theorem twoPow_zero : twoPow 0 = 1 := rfl

theorem twoPow_add (m n : Nat) : twoPow (m + n) = twoPow m * twoPow n := Nat.pow_add 2 m n

/-- An exponent shifts to the left or to the right. -/
theorem zpow_mul_twoPow (e : Int) : (2 : ℚ) ^ e * twoPow (-e).toNat = twoPow e.toNat := by
  rw [cast_twoPow, cast_twoPow, ← zpow_natCast, ← zpow_natCast, ← zpow_add₀ two_ne_zero]
  congr 1
  omega

theorem twoPow_cast_pos (n : Nat) : (0 : ℚ) < twoPow n := Nat.cast_pos.2 (twoPow_pos n)

theorem cast_tenPow (n : Nat) : (tenPow n : ℚ) = 10 ^ n := by
  rw [tenPow, Nat.pow_eq]
  exact Nat.cast_pow 10 n

theorem tenPow_cast_pos (n : Nat) : (0 : ℚ) < tenPow n := Nat.cast_pos.2 (tenPow_pos n)

theorem ten_zpow_pos (power : Int) : (0 : ℚ) < 10 ^ power := zpow_pos (by norm_num) power

/-- A power of ten adds zeros or cuts digits off. -/
theorem zpow_mul_tenPow (power : Int) :
    (10 : ℚ) ^ power * tenPow (-power).toNat = tenPow power.toNat := by
  rw [cast_tenPow, cast_tenPow, ← zpow_natCast, ← zpow_natCast, ← zpow_add₀ (by norm_num)]
  congr 1
  omega

theorem quotient_value (m : Nat) (e : Int) :
    ((quotient m e).1 : ℚ) / (quotient m e).2 = value m e := by
  rw [quotient, Nat.cast_mul, ← zpow_mul_twoPow, ← mul_assoc]
  exact mul_div_cancel_right₀ _ (twoPow_cast_pos _).ne'

theorem quotient_pos (m : Nat) (e : Int) : 0 < (quotient m e).2 := twoPow_pos _

theorem value_eq_zero : value m e = 0 ↔ m = 0 := by
  rw [value, mul_eq_zero, or_iff_left (zpow_pos two_pos e).ne', Nat.cast_eq_zero]

/-- A pair that a format writes is less than the power of two behind its last bit. -/
theorem Format.Canonical.value_lt (h : f.Canonical m e) :
    value m e < 2 ^ (e + f.precision) := by
  have small : (m : ℚ) < 2 ^ f.precision := by
    rw [← cast_twoPow]
    exact Nat.cast_lt.2 h.1
  rw [zpow_add₀ two_ne_zero, mul_comm, value, zpow_natCast]
  exact mul_lt_mul_of_pos_right small (zpow_pos two_pos e)

/-- A pair whose significand has its full length is at least the power of two of its first bit. -/
theorem zpow_le_value (full : twoPow (f.precision - 1) ≤ m) :
    (2 : ℚ) ^ (e + f.precision - 1) ≤ value m e := by
  have := f.precision_pos
  calc (2 : ℚ) ^ (e + f.precision - 1)
      = twoPow (f.precision - 1) * 2 ^ e := by
        rw [cast_twoPow, ← zpow_natCast, ← zpow_add₀ two_ne_zero]
        congr 1
        omega
    _ ≤ m * 2 ^ e := by gcongr

/-! ## The unit of a quotient -/

variable {num den : Nat}

theorem atLeastPower_iff (hden : 0 < den) (power : Int) :
    atLeastPower num den power = true ↔ (2 : ℚ) ^ power ≤ num / den := by
  have below : (0 : ℚ) < den := Nat.cast_pos.2 hden
  rw [atLeastPower, decide_eq_true_iff, le_div_iff₀ below, ← @Nat.cast_le ℚ, Nat.cast_mul,
    Nat.cast_mul, ← zpow_mul_twoPow, ← mul_assoc, mul_le_mul_iff_left₀ (twoPow_cast_pos _), mul_comm]

theorem zpow_log2 {n : Nat} (h : n ≠ 0) :
    (2 : ℚ) ^ (n.log2 : Int) ≤ n ∧ (n : ℚ) < 2 ^ ((n.log2 : Int) + 1) := by
  rw [zpow_natCast]
  exact ⟨mod_cast Nat.log2_self_le h, mod_cast Nat.lt_log2_self⟩

theorem cast_div_pos (hnum : num ≠ 0) (hden : den ≠ 0) : (0 : ℚ) < num / den :=
  div_pos (Nat.cast_pos.2 (Nat.pos_of_ne_zero hnum)) (Nat.cast_pos.2 (Nat.pos_of_ne_zero hden))

/-- The quotient of the leading powers is next to the power that is sought. -/
theorem log2_sub_log2 (hnum : num ≠ 0) (hden : den ≠ 0) :
    (2 : ℚ) ^ ((num.log2 : Int) - den.log2 - 1) < num / den ∧
      (num / den : ℚ) < 2 ^ ((num.log2 : Int) - den.log2 + 1) := by
  have above : (0 : ℚ) < den := Nat.cast_pos.2 (Nat.pos_of_ne_zero hden)
  obtain ⟨num_le, num_lt⟩ := zpow_log2 hnum
  obtain ⟨den_le, den_lt⟩ := zpow_log2 hden
  constructor
  · rw [lt_div_iff₀ above]
    calc (2 : ℚ) ^ ((num.log2 : Int) - den.log2 - 1) * den
        < 2 ^ ((num.log2 : Int) - den.log2 - 1) * 2 ^ ((den.log2 : Int) + 1) := by gcongr
      _ = 2 ^ (num.log2 : Int) := by
        rw [← zpow_add₀ two_ne_zero]
        congr 1
        omega
      _ ≤ num := num_le
  · rw [div_lt_iff₀ above]
    calc (num : ℚ) < 2 ^ ((num.log2 : Int) + 1) := num_lt
      _ = 2 ^ ((num.log2 : Int) - den.log2 + 1) * 2 ^ (den.log2 : Int) := by
        rw [← zpow_add₀ two_ne_zero]
        congr 1
        omega
      _ ≤ 2 ^ ((num.log2 : Int) - den.log2 + 1) * den := by gcongr

theorem floorLog2_eq_log (hnum : num ≠ 0) (hden : den ≠ 0) :
    floorLog2 num den = Int.log 2 (num / den : ℚ) := by
  have positive := cast_div_pos hnum hden
  obtain ⟨above, below⟩ := log2_sub_log2 hnum hden
  have least := (Int.zpow_le_iff_le_log one_lt_two positive).1 above.le
  have greatest := (Int.lt_zpow_iff_log_lt one_lt_two positive).1 below
  have reached_iff := (atLeastPower_iff (Nat.pos_of_ne_zero hden)
    ((num.log2 : Int) - den.log2)).trans (Int.zpow_le_iff_le_log one_lt_two positive)
  rw [floorLog2]
  split
  · next reached =>
    have := reached_iff.1 reached
    omega
  · next short =>
    have := mt reached_iff.2 short
    omega

/-- The unit in which a format counts a quotient is that of the pair it writes for it. -/
theorem unitExponent_eq (h : f.Canonical m e) (hnum : num ≠ 0)
    (hden : den ≠ 0) (same : (num / den : ℚ) = value m e) :
    Number.unitExponent f num den = e := by
  have positive := cast_div_pos hnum hden
  have upper : Int.log 2 (num / den : ℚ) < e + f.precision := by
    rw [← Int.lt_zpow_iff_log_lt one_lt_two positive, same]
    exact h.value_lt
  rw [Number.unitExponent, floorLog2_eq_log hnum hden]
  by_cases full : twoPow (f.precision - 1) ≤ m
  · have lower : e + f.precision - 1 ≤ Int.log 2 (num / den : ℚ) := by
      rw [← Int.zpow_le_iff_le_log one_lt_two positive, same]
      exact zpow_le_value full
    have := h.2.1
    omega
  · have := h.2.2.2.resolve_left full
    omega

/-! ## Rounding -/

theorem roundHalfEven_mul (m : Nat) (hden : 0 < den) : roundHalfEven (m * den) den = m := by
  rw [roundHalfEven, Nat.mul_mod_left, Nat.mul_div_cancel _ hden, if_neg]
  omega

/-- Counted in its unit, a quotient is its significand. -/
theorem mul_twoPow_of_value (hden : den ≠ 0)
    (same : (num / den : ℚ) = value m e) :
    num * twoPow (-e).toNat = m * (den * twoPow e.toNat) := by
  have product : (num : ℚ) = m * 2 ^ e * den :=
    (div_eq_iff (Nat.cast_ne_zero.2 hden)).1 same
  rw [← @Nat.cast_inj ℚ, Nat.cast_mul, Nat.cast_mul, Nat.cast_mul, ← zpow_mul_twoPow e, product]
  ring

/-- **A quotient whose value a format has is rounded to this number.** -/
theorem Number.ofRatio_eq (negative : Bool)
    (h : f.Canonical m e) (hden : den ≠ 0) (same : (num / den : ℚ) = value m e) :
    ofRatio f negative num den = .finite negative m e h := by
  by_cases hnum : num = 0
  · obtain rfl : m = 0 := by
      rw [← value_eq_zero (e := e), ← same, hnum, Nat.cast_zero, zero_div]
    obtain rfl : e = f.low := h.2.2.2.resolve_left (twoPow_pos _).not_ge
    rw [ofRatio, if_pos hnum, zero]
  · have counted : roundHalfEven (num * twoPow (-e).toNat) (den * twoPow e.toNat) = m := by
      rw [mul_twoPow_of_value hden same]
      exact roundHalfEven_mul m (Nat.mul_pos (Nat.pos_of_ne_zero hden) (twoPow_pos _))
    rw [ofRatio, if_neg hnum]
    simp only [unitExponent_eq h hnum hden same, counted, if_neg h.1.ne, ofParts, dif_pos h]

/-- A number that two formats have is converted exactly. -/
theorem Number.convert_eq {g : Format} {n : Nat} {d : Int} (negative : Bool)
    (h : f.Canonical m e) (wide : g.Canonical n d) (same : value n d = value m e) :
    convert f (.finite negative n d wide) = .finite negative m e h :=
  ofRatio_eq negative h (quotient_pos n d).ne' ((quotient_value n d).trans same)

section Operations

variable {m₁ m₂ : Nat} {e₁ e₂ : Int} (n₁ n₂ : Bool)
  (h₁ : f.Canonical m₁ e₁) (h₂ : f.Canonical m₂ e₂)

/-- The product is the exact one, rounded. -/
theorem Number.exists_product : ∃ num den : Nat, den ≠ 0 ∧
    (num / den : ℚ) = value m₁ e₁ * value m₂ e₂ ∧
      product (.finite n₁ m₁ e₁ h₁) (.finite n₂ m₂ e₂ h₂) = ofRatio f false num den := by
  refine ⟨_, _, Nat.mul_ne_zero (quotient_pos m₁ e₁).ne' (quotient_pos m₂ e₂).ne', ?_, rfl⟩
  rw [← quotient_value, ← quotient_value m₂, Nat.cast_mul, Nat.cast_mul, mul_div_mul_comm]

/-- The quotient is the exact one, rounded. -/
theorem Number.exists_ratio (nonzero : m₂ ≠ 0) : ∃ num den : Nat, den ≠ 0 ∧
    (num / den : ℚ) = value m₁ e₁ / value m₂ e₂ ∧
      ratio (.finite n₁ m₁ e₁ h₁) (.finite n₂ m₂ e₂ h₂) = ofRatio f false num den := by
  have below : (quotient m₂ e₂).1 ≠ 0 := Nat.mul_ne_zero nonzero (twoPow_pos _).ne'
  refine ⟨_, _, Nat.mul_ne_zero (quotient_pos m₁ e₁).ne' below, ?_, if_neg nonzero⟩
  rw [← quotient_value, ← quotient_value m₂, div_div_div_eq, Nat.cast_mul, Nat.cast_mul]

end Operations

/-- A quotient of two numbers that the format has is computed exactly. -/
theorem Number.ratio_eq {m₁ m₂ : Nat} {e₁ e₂ : Int} {n₁ n₂ : Bool}
    (h : f.Canonical m e) (h₁ : f.Canonical m₁ e₁) (h₂ : f.Canonical m₂ e₂) (nonzero : m₂ ≠ 0)
    (same : value m₁ e₁ / value m₂ e₂ = value m e) :
    ratio (.finite n₁ m₁ e₁ h₁) (.finite n₂ m₂ e₂ h₂) = .finite false m e h := by
  obtain ⟨num, den, hden, quotient, rounded⟩ := exists_ratio n₁ n₂ h₁ h₂ nonzero
  rw [rounded]
  exact ofRatio_eq false h hden (quotient.trans same)

/-- A whole multiple of a power of two is a number of a format if it fits the significand and the
power is not too far from the ends of the format. -/
theorem exists_canonical_mul {k : Nat} {shift : Int} (low : f.low ≤ shift + 1 - f.precision)
    (high : shift ≤ f.high) (small : k < twoPow f.precision) :
    ∃ m e, f.Canonical m e ∧ value m e = k * 2 ^ shift := by
  by_cases hk : k = 0
  · exact ⟨0, f.low, f.canonical_zero, by rw [hk, value_eq_zero.2 rfl, Nat.cast_zero, zero_mul]⟩
  -- The significand of full length, shifted to the left by as many bits as are free.
  obtain ⟨free, length⟩ := Nat.exists_eq_add_of_lt ((Nat.log2_lt hk).2 small)
  have first : twoPow (f.precision - 1) ≤ k * twoPow free := by
    rw [length, Nat.add_sub_cancel, twoPow_add]
    exact Nat.mul_le_mul_right _ (Nat.log2_self_le hk)
  have last : k * twoPow free < twoPow f.precision := by
    rw [length, Nat.add_right_comm, twoPow_add]
    exact Nat.mul_lt_mul_of_pos_right Nat.lt_log2_self (twoPow_pos free)
  refine ⟨k * twoPow free, shift - free, ⟨last, by omega, by omega, .inl first⟩, ?_⟩
  rw [value, Nat.cast_mul, cast_twoPow, zpow_sub₀ two_ne_zero, zpow_natCast, mul_assoc,
    mul_div_cancel₀ _ (pow_ne_zero free two_ne_zero)]

/-- A whole number that fits the significand of a format is a number of the format. -/
theorem exists_canonical (low : f.low ≤ 1 - f.precision) (high : 0 ≤ f.high) {k : Nat}
    (small : k < twoPow f.precision) : ∃ m e, f.Canonical m e ∧ value m e = k := by
  obtain ⟨m, e, h, stands⟩ :=
    exists_canonical_mul (show f.low ≤ (0 : Int) + 1 - f.precision by omega) high small
  exact ⟨m, e, h, by rw [stands, zpow_zero, mul_one]⟩

end WalletWatch.Binary
