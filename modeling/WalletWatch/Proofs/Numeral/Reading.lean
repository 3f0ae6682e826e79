import WalletWatch.Proofs.Binary.Grid
/-!
# What a written decimal is read as

A decimal is written positionally or with an exponent. Either way its digits and its power of ten
come back, perhaps with a zero more (`Numeral.scientific_ofDecimal`). The power is rounded to 64
bits, and so is the product or the quotient with it; so what is read is off by a part of the
decimal. A small power is exact, so the part is half as large then, and a decimal that is a 64-bit
number is read as this number (`Numeral.ReadAs`, `Numeral.exists_size?_ofDecimal`).
-/

namespace WalletWatch

open Binary

namespace Numeral

/-! ## The digits of a numeral -/

theorem fitWhole_of_lt {n : Nat} (h : n < significandLimit) : fitWhole n = (n, 0) := by
  rw [fitWhole, if_pos h]

/-- Digits that fit are all taken. -/
theorem extend_of_lt {start : Nat} {ds : List Digit}
    (h : Digit.number start ds < significandLimit) :
    extend start ds = (Digit.number start ds, ds.length) := by
  induction ds generalizing start with
  | nil => rfl
  | cons d ds ih =>
    have fits : 10 * start + d.val < significandLimit := (Digit.le_number _ ds).trans_lt h
    rw [extend, if_pos fits, ih h]
    rfl

theorem scientific_of_lt {n : Numeral} (h : Digit.number n.whole n.fraction < significandLimit) :
    n.scientific = (Digit.number n.whole n.fraction, n.exponent.getD 0 - n.fraction.length) := by
  rw [scientific, fitWhole_of_lt ((Digit.le_number _ _).trans_lt h)]
  simp only [extend_of_lt h]
  rw [Nat.cast_zero, zero_sub, neg_add_eq_sub]

/-! ## The layouts of a decimal -/

variable {layout : Layout} {d : Decimal}

theorem negative_ofDecimal (layout : Layout) (negative : Bool) (d : Decimal) :
    (ofDecimal layout negative d).negative = negative := by
  rw [ofDecimal]
  simp only
  split
  · split <;> rfl
  · rfl

/-- A decimal is written with a point or with an exponent, so it is no word. -/
theorem isWord_ofDecimal (layout : Layout) (negative : Bool) (d : Decimal) :
    (ofDecimal layout negative d).isWord = false := by
  rw [ofDecimal]
  simp only
  split
  · split
    · rfl
    · next below =>
      obtain ⟨places, some⟩ : ∃ n, (-d.power).toNat = n + 1 :=
        Nat.exists_eq_succ_of_ne_zero (by omega)
      have digits : (digitsOf (places + 1) d.units).isEmpty = false :=
        List.isEmpty_eq_false_iff.2 (List.append_ne_nil_of_right_ne_nil _ (List.cons_ne_nil _ _))
      rw [isWord, some, digits, Bool.false_and, Bool.false_and]
  · rw [isWord, Option.isNone_some, Bool.and_false, Bool.false_and]

/-- The digits of a decimal and its power come back, but a whole decimal in positional notation
comes back with all its zeros and one more. -/
theorem scientific_ofDecimal (negative : Bool) (fits : d.units < significandLimit)
    (narrow : layout.greatest ≤ 17) :
    (ofDecimal layout negative d).scientific = (d.units, d.power) ∨
      (0 ≤ d.power ∧ d.power + digitCount d.units ≤ layout.greatest + 1 ∧
        (ofDecimal layout negative d).scientific =
          (10 * (d.units * tenPow d.power.toNat), -1)) := by
  have cut (places : Nat) : Digit.number (d.units / tenPow places) (digitsOf places d.units) <
      significandLimit := by rwa [number_digitsOf_div]
  rw [ofDecimal]
  simp only
  split
  · next positional =>
    split
    · next whole =>
      have small : 10 * (d.units * tenPow d.power.toNat) < significandLimit := by
        calc 10 * (d.units * tenPow d.power.toNat)
            ≤ 10 * tenPow (digitCount d.units + d.power.toNat) :=
              Nat.mul_le_mul_left 10 (mul_tenPow_lt _ _).le
          _ ≤ 10 * tenPow 18 := Nat.mul_le_mul_left 10 (tenPow_le (by omega))
          _ < significandLimit := by decide
      refine .inr ⟨whole, by omega, ?_⟩
      rw [scientific_of_lt (n := ⟨negative, d.units * tenPow d.power.toNat, [0], none⟩) small]
      rfl
    · next broken =>
      rw [scientific_of_lt (cut _)]
      refine .inl (Prod.ext (number_digitsOf_div _ _) ?_)
      simp only [Option.getD_none, length_digitsOf]
      omega
  · rw [scientific_of_lt (cut _)]
    have := digitCount_pos d.units
    refine .inl (Prod.ext (number_digitsOf_div _ _) ?_)
    simp only [Option.getD_some, length_digitsOf]
    omega

/-- A decimal is read with a significand of at most 53 bits and a power of ten that stand for it;
the power is that of the decimal, or it takes off the zero that was put behind the point. -/
theorem exists_scientific (negative : Bool) (fits : d.units < twoPow 53)
    (narrow : layout.greatest ≤ 13) : ∃ significand power,
    (ofDecimal layout negative d).scientific = (significand, power) ∧ significand < twoPow 53 ∧
      significand * 10 ^ power = d.value ∧ power.natAbs ≤ max d.power.natAbs 1 := by
  have fits' : d.units < significandLimit := fits.trans (by decide)
  rcases scientific_ofDecimal negative fits' (narrow.trans (by decide)) with
    same | ⟨whole, last, same⟩
  · exact ⟨_, _, same, fits, rfl, Nat.le_max_left _ _⟩
  · refine ⟨_, _, same, ?_, ?_, Nat.le_max_right _ _⟩
    · calc 10 * (d.units * tenPow d.power.toNat)
          ≤ 10 * tenPow (digitCount d.units + d.power.toNat) :=
            Nat.mul_le_mul_left 10 (mul_tenPow_lt _ _).le
        _ ≤ 10 * tenPow 14 := Nat.mul_le_mul_left 10 (tenPow_le (by omega))
        _ < twoPow 53 := by decide
    · have ten : (10 : ℚ) ^ d.power = tenPow d.power.toNat := by
        rw [cast_tenPow, ← zpow_natCast, Int.toNat_of_nonneg whole]
      rw [Decimal.value, ten, zpow_neg_one]
      push_cast
      ring

/-! ## Powers of ten as 64-bit numbers -/

/-- In the middle of the 64-bit numbers, rounding is off by at most half a unit of 53 bits. -/
theorem exists_ofRatio_double {num den : Nat} (hden : den ≠ 0)
    (least : (2 : ℚ) ^ (-254 : Int) ≤ num / den) (greatest : (num / den : ℚ) ≤ 2 ^ (254 : Int)) :
    ∃ m e h, Number.ofRatio double false num den = .finite false m e h ∧
      |value m e - num / den| ≤ num / den / 2 ^ 53 := by
  refine Number.exists_ofRatio false hden ?_ ?_
  · exact (zpow_le_zpow_right₀ one_le_two (by decide)).trans least
  · exact greatest.trans_lt (zpow_lt_zpow_right₀ one_lt_two (by decide))

theorem ten_pow_bounds {power : Nat} (h : power ≤ 60) :
    (1 : ℚ) ≤ 10 ^ power ∧ (10 : ℚ) ^ power ≤ 2 ^ (200 : Int) :=
  ⟨one_le_pow₀ (by norm_num),
    (pow_le_pow_right₀ (by norm_num) h).trans (by norm_num)⟩

/-- What a power of ten is read as: itself if it is small. -/
theorem exists_tenTo_near {power : Nat} (h : power ≤ 60) : ∃ m e h,
    tenTo power = .finite false m e h ∧ |value m e - 10 ^ power| ≤ 10 ^ power / 2 ^ 53 ∧
      (power ≤ 15 → value m e = 10 ^ power) := by
  have ten : ((tenPow power : Nat) : ℚ) / (1 : Nat) = 10 ^ power := by
    rw [Nat.cast_one, div_one, cast_tenPow]
  obtain ⟨least, greatest⟩ := ten_pow_bounds h
  have above : (2 : ℚ) ^ (-254 : Int) ≤ 1 := zpow_le_one_of_nonpos₀ one_le_two (by decide)
  have below : (2 : ℚ) ^ (200 : Int) ≤ 2 ^ (254 : Int) :=
    zpow_le_zpow_right₀ one_le_two (by decide)
  obtain ⟨m, e, h, rounded, near⟩ := exists_ofRatio_double one_ne_zero
    (ten ▸ above.trans least) (ten ▸ greatest.trans below)
  refine ⟨m, e, h, rounded, ten ▸ near, fun small => ?_⟩
  obtain ⟨n, d, h', exact', -, stands⟩ :=
    exists_tenTo ((tenPow_le small).trans_lt (show tenPow 15 < twoPow 53 by decide))
  obtain ⟨-, rfl, rfl⟩ := Number.finite.inj (rounded.symm.trans exact')
  rw [stands, cast_tenPow]

/-! ## Products and quotients -/

theorem pos_of_off {q scale : ℚ} (positive : 0 < scale) (off : |q - scale| ≤ scale / 2 ^ 53) :
    0 < q := by
  have := (abs_le.1 off).1
  linarith

/-- A power of ten, up or down. -/
theorem mul_ten_zpow (q : ℚ) (power : Int) :
    q * 10 ^ power = if 0 ≤ power then q * 10 ^ power.natAbs else q / 10 ^ power.natAbs := by
  split
  · next up =>
    obtain ⟨n, rfl⟩ := Int.eq_ofNat_of_zero_le up
    rw [Int.natAbs_natCast, zpow_natCast]
  · next down =>
    obtain ⟨n, rfl⟩ := Int.exists_eq_neg_ofNat (by omega : power ≤ 0)
    rw [Int.natAbs_neg, Int.natAbs_natCast, zpow_neg, zpow_natCast, div_eq_mul_inv]

/-- Reading rounds the product or the quotient of a significand with a power of ten that was rounded
before. -/
theorem exists_size?_ofRatio {n : Numeral} {significand : Nat} {power : Int}
    (read : n.scientific = (significand, power)) (fits : significand < twoPow 53)
    (near : power.natAbs ≤ 60) : ∃ ten : ℚ,
    |ten - 10 ^ power.natAbs| ≤ 10 ^ power.natAbs / 2 ^ 53 ∧
      (power.natAbs ≤ 15 → ten = 10 ^ power.natAbs) ∧
      ∃ num den : Nat, den ≠ 0 ∧
        (num / den : ℚ) = (if 0 ≤ power then significand * ten else significand / ten) ∧
        ∀ m e h, Number.ofRatio double false num den = .finite false m e h →
          n.size? = some (.finite false m e h) := by
  obtain ⟨m₁, e₁, h₁, stands₁⟩ := exists_canonical (f := double) (by decide) (by decide) fits
  obtain ⟨m₂, e₂, h₂, ten, off, small⟩ := exists_tenTo_near near
  have whole : Number.ofRatio double false significand 1 = .finite false m₁ e₁ h₁ :=
    Number.ofRatio_eq false h₁ one_ne_zero (by rw [stands₁, Nat.cast_one, div_one])
  have nonzero : m₂ ≠ 0 := fun none =>
    (pos_of_off (by positivity) off).ne' (value_eq_zero.2 none)
  refine ⟨_, off, small, ?_⟩
  rw [size?, read]
  simp only [whole]
  have within : power.natAbs ≤ greatestPower := near.trans (by decide)
  split
  · next up =>
    obtain ⟨num, den, hden, quotient, product⟩ := Number.exists_product false false h₁ h₂
    rw [show power.toNat = power.natAbs by omega, scaleUp, if_pos within, ten, product]
    refine ⟨num, den, hden, by rw [quotient, stands₁], fun m e h scaled => ?_⟩
    simp only [scaled]
    rfl
  · next down =>
    obtain ⟨num, den, hden, quotient, ratio⟩ := Number.exists_ratio false false h₁ h₂ nonzero
    rw [show (-power).toNat = power.natAbs by omega, scaleDown, if_pos within, ten, ratio]
    exact ⟨num, den, hden, by rw [quotient, stands₁], fun m e h scaled => congrArg some scaled⟩

/-! ## How far off -/

/-- The part of a decimal that what is read for it may be off by: it is rounded once if the power of
ten is exact, and twice if it is not. -/
def slack (power : Int) : ℚ :=
  if power.natAbs ≤ 15 then 1 / 2 ^ 53 else 9 / 8 / 2 ^ 52

theorem off_trans {v w q δ ε : ℚ} (first : |w - q| ≤ q * δ) (second : |v - w| ≤ w * ε)
    (nonneg : 0 ≤ ε) : |v - q| ≤ q * (δ + (1 + δ) * ε) := by
  have above := (abs_le.1 first).2
  calc |v - q| ≤ |v - w| + |w - q| := abs_sub_le v w q
    _ ≤ w * ε + q * δ := add_le_add second first
    _ ≤ (q + q * δ) * ε + q * δ := by gcongr; linarith
    _ = q * (δ + (1 + δ) * ε) := by ring

theorem off_inv {x : ℚ} (h : |x - 1| ≤ 1 / 2 ^ 53) : |x⁻¹ - 1| ≤ 17 / 16 / 2 ^ 53 := by
  have least : (16 : ℚ) / 17 ≤ x := by
    have := (abs_le.1 h).1
    linarith
  have positive : (0 : ℚ) < x := by linarith
  have inverse : x⁻¹ ≤ 17 / 16 := by
    rw [inv_le_comm₀ positive (by norm_num)]
    linarith
  calc |x⁻¹ - 1| = |(1 - x) * x⁻¹| := by rw [sub_mul, mul_inv_cancel₀ positive.ne', one_mul]
    _ = |x - 1| * x⁻¹ := by rw [abs_mul, abs_sub_comm, abs_of_pos (inv_pos.2 positive)]
    _ ≤ 1 / 2 ^ 53 * (17 / 16) := by gcongr
    _ = 17 / 16 / 2 ^ 53 := by ring

/-- A product or a quotient with a power of ten is off by hardly more than this power is. -/
theorem off_scaled {q ten : ℚ} (positive : 0 < q) (power : Int)
    (off : |ten - 10 ^ power.natAbs| ≤ 10 ^ power.natAbs / 2 ^ 53) :
    |(if 0 ≤ power then q * ten else q / ten) - q * 10 ^ power| ≤
      q * 10 ^ power * (17 / 16 / 2 ^ 53) := by
  rw [mul_ten_zpow]
  have scale : (0 : ℚ) < 10 ^ power.natAbs := by positivity
  generalize (10 : ℚ) ^ power.natAbs = scale' at *
  obtain ⟨x, rfl⟩ : ∃ x, ten = scale' * x := ⟨ten / scale', (mul_div_cancel₀ _ scale.ne').symm⟩
  have part : |x - 1| ≤ 1 / 2 ^ 53 := by
    rw [← mul_sub_one, abs_mul, abs_of_pos scale, ← mul_one_div] at off
    exact le_of_mul_le_mul_left off scale
  split
  · calc |q * (scale' * x) - q * scale'| = q * scale' * |x - 1| := by
          rw [← mul_assoc, ← mul_sub_one, abs_mul, abs_of_pos (mul_pos positive scale)]
      _ ≤ q * scale' * (17 / 16 / 2 ^ 53) := by
        gcongr
        linarith
  · calc |q / (scale' * x) - q / scale'| = q / scale' * |x⁻¹ - 1| := by
          rw [← div_div, div_eq_mul_inv (q / scale'), ← mul_sub_one, abs_mul,
            abs_of_pos (div_pos positive scale)]
      _ ≤ q / scale' * (17 / 16 / 2 ^ 53) := by
        gcongr
        exact off_inv part

/-- A significand of 53 bits with a power of ten is in the middle of the 64-bit numbers. -/
theorem scientific_bounds {significand : Nat} {power : Int} (positive : 0 < significand)
    (fits : significand < twoPow 53) (near : power.natAbs ≤ 60) :
    (2 : ℚ) ^ (-200 : Int) ≤ significand * 10 ^ power ∧
      (significand * 10 ^ power : ℚ) ≤ 2 ^ (253 : Int) := by
  obtain ⟨least, greatest⟩ := ten_pow_bounds near
  have one : (1 : ℚ) ≤ significand := Nat.one_le_cast.2 positive
  have most : (significand : ℚ) ≤ 2 ^ (53 : Int) := by
    rw [show (2 : ℚ) ^ (53 : Int) = (twoPow 53 : Nat) by rw [cast_twoPow]; rfl]
    exact Nat.cast_le.2 fits.le
  have scale : (0 : ℚ) < 10 ^ power.natAbs := by positivity
  rw [mul_ten_zpow]
  split
  · constructor
    · calc (2 : ℚ) ^ (-200 : Int) ≤ 1 := zpow_le_one_of_nonpos₀ one_le_two (by decide)
        _ ≤ significand * 10 ^ power.natAbs := one_le_mul_of_one_le_of_one_le one least
    · calc (significand * 10 ^ power.natAbs : ℚ) ≤ 2 ^ (53 : Int) * 2 ^ (200 : Int) := by gcongr
        _ = 2 ^ (253 : Int) := by norm_num
  · constructor
    · calc (2 : ℚ) ^ (-200 : Int) = 1 / 2 ^ (200 : Int) := by norm_num
        _ ≤ significand / 10 ^ power.natAbs := by gcongr
    · calc (significand / 10 ^ power.natAbs : ℚ) ≤ 2 ^ (53 : Int) / 1 := by gcongr
        _ ≤ 2 ^ (253 : Int) := by norm_num

variable {n : Numeral} {significand : Nat} {power : Int}

theorem exists_size?_near (read : n.scientific = (significand, power)) (positive : 0 < significand)
    (fits : significand < twoPow 53) (near : power.natAbs ≤ 60) : ∃ m e h,
    n.size? = some (.finite false m e h) ∧
      |value m e - significand * 10 ^ power| ≤ significand * 10 ^ power * slack power := by
  obtain ⟨ten, off, small, num, den, hden, quotient, size⟩ := exists_size?_ofRatio read fits near
  have some : (0 : ℚ) < significand := Nat.cast_pos.2 positive
  obtain ⟨least, greatest⟩ := scientific_bounds positive fits near
  have scaled := off_scaled some power off
  have total : (0 : ℚ) < significand * 10 ^ power := mul_pos some (ten_zpow_pos power)
  have hit (few : power.natAbs ≤ 15) : (num / den : ℚ) = significand * 10 ^ power := by
    rw [quotient, small few, ← mul_ten_zpow]
  rw [← quotient] at scaled
  generalize (significand * 10 ^ power : ℚ) = q at *
  obtain ⟨above, below⟩ := abs_le.1 scaled
  obtain ⟨m, e, h, rounded, near'⟩ := exists_ofRatio_double hden
    (calc (2 : ℚ) ^ (-254 : Int) ≤ 2 ^ (-200 : Int) * (1 / 2) := by norm_num
      _ ≤ q * (1 / 2) := by gcongr
      _ ≤ num / den := by linarith)
    (calc (num / den : ℚ) ≤ q * 2 := by linarith
      _ ≤ 2 ^ (253 : Int) * 2 := by gcongr
      _ = 2 ^ (254 : Int) := by norm_num)
  refine ⟨m, e, h, size m e h rounded, ?_⟩
  rw [slack]
  rw [← mul_one_div (num / den : ℚ)] at near'
  split
  · next few => rwa [hit few] at near'
  · -- The power of ten was rounded, and then the result.
    calc |value m e - q| ≤ q * (17 / 16 / 2 ^ 53 + (1 + 17 / 16 / 2 ^ 53) * (1 / 2 ^ 53)) :=
          off_trans scaled near' (by positivity)
      _ ≤ q * (9 / 8 / 2 ^ 52) := by
        gcongr
        norm_num

/-- A decimal that is a 64-bit number is read as this number, if the power of ten is small. -/
theorem size?_eq (read : n.scientific = (significand, power)) (fits : significand < twoPow 53)
    (small : power.natAbs ≤ 15) {m : Nat} {e : Int} (h : double.Canonical m e)
    (stands : value m e = significand * 10 ^ power) : n.size? = some (.finite false m e h) := by
  obtain ⟨ten, -, exact', num, den, hden, quotient, size⟩ :=
    exists_size?_ofRatio read fits (small.trans (by decide))
  refine size m e h (Number.ofRatio_eq false h hden ?_)
  rw [quotient, exact' small, ← mul_ten_zpow, stands]

/-! ## Decimals -/

theorem slack_le_of_le {power power' : Int} (h : power'.natAbs ≤ max power.natAbs 1) :
    slack power' ≤ slack power := by
  rw [slack, slack]
  split
  · split <;> norm_num
  · rw [if_neg (by omega)]

/-- What a decimal may be read as: it is off by at most a part of the decimal, and not off at all if
the power of ten is small and a 64-bit number has the value. -/
structure ReadAs (d : Decimal) (v : ℚ) : Prop where
  off : |v - d.value| ≤ d.value * slack d.power
  hit : d.power.natAbs ≤ 15 → (∃ m e, double.Canonical m e ∧ value m e = d.value) → v = d.value

/-- **What a written decimal is read as**, whatever its layout. -/
theorem exists_size?_ofDecimal {layout : Layout} {d : Decimal} (negative : Bool)
    (narrow : layout.greatest ≤ 13) (positive : 0 < d.units) (fits : d.units < twoPow 53)
    (near : d.power.natAbs ≤ 60) : ∃ m e h,
    (ofDecimal layout negative d).size? = some (.finite false m e h) ∧ ReadAs d (value m e) := by
  obtain ⟨significand, power, read, fits', same, close⟩ := exists_scientific negative fits narrow
  have total : 0 < d.value := mul_pos (Nat.cast_pos.2 positive) (ten_zpow_pos d.power)
  have positive' : 0 < significand := by
    refine Nat.pos_of_ne_zero fun none => ?_
    rw [← same, none, Nat.cast_zero, zero_mul] at total
    exact total.false
  obtain ⟨m, e, h, size, off⟩ := exists_size?_near read positive' fits' (by omega)
  rw [same] at off
  refine ⟨m, e, h, size, ⟨off.trans (by gcongr; exact slack_le_of_le close), ?_⟩⟩
  rintro small ⟨m', e', h', stands⟩
  have exactly := size?_eq read fits' (by omega) h' (stands.trans same.symm)
  obtain ⟨-, rfl, rfl⟩ := Number.finite.inj (Option.some.inj (size.symm.trans exactly))
  exact stands

end Numeral

end WalletWatch
