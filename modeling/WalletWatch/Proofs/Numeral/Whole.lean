import WalletWatch.Numeral.Binary
import WalletWatch.Proofs.Binary.Exact
import WalletWatch.Proofs.Numeral.Digits
/-!
# Whole numbers are written and read exactly

The shortest decimal of a whole number that fits the significand of a format is the number itself,
perhaps with zeros cut off (`shortest_whole`): the interval of the reals that round to it holds no
other whole number. So such a number is written with all its digits and a zero after the point
(`Numeral.ofSingle?_whole`), and what is read from this numeral is the number that was written
(`Numeral.single?_whole`), the sign of a zero included.
-/

namespace WalletWatch

namespace Binary

/-! ## The shortest decimal of a whole number -/

variable {f : Format} {m k : Nat} {e : Int}

/-- A whole number that fits the significand is counted in units that divide one. -/
theorem exponent_nonpos (h : f.Canonical m e) (low : f.low ≤ 0) (whole : value m e = k)
    (small : k < twoPow f.precision) : e ≤ 0 := by
  obtain ⟨-, -, -, full | least⟩ := h
  · have bound : (2 : ℚ) ^ (e + f.precision - 1) < 2 ^ (f.precision : Int) := by
      rw [zpow_natCast, ← cast_twoPow]
      exact (zpow_le_value full).trans_lt (by rw [whole]; exact Nat.cast_lt.2 small)
    have := (zpow_lt_zpow_iff_right₀ one_lt_two).1 bound
    omega
  · exact least ▸ low

theorem significand_of_whole (nonpos : e ≤ 0) (whole : value m e = k) :
    m = k * twoPow (-e).toNat := by
  have same : (k / (1 : Nat) : ℚ) = value m e := by rw [Nat.cast_one, div_one, whole]
  have counted := mul_twoPow_of_value one_ne_zero same
  rw [Int.toNat_of_nonpos nonpos, twoPow_zero, Nat.mul_one, Nat.mul_one] at counted
  exact counted.symm

namespace Neighbourhood

variable {n : Neighbourhood} {power : Int} {units : Nat}

theorem contains_of_nearest? (h : n.nearest? power = some units) :
    n.contains power units = true := by
  rw [nearest?] at h
  split at h <;> grind

theorem between_of_contains (h : n.contains power units = true) :
    n.lower * n.factor power ≤ units * n.gridFactor power ∧
      units * n.gridFactor power ≤ n.upper * n.factor power := by
  rw [contains] at h
  split at h <;> simp only [Bool.and_eq_true, decide_eq_true_eq] at h <;> omega

theorem contains_of_between (above : n.lower * n.factor power < units * n.gridFactor power)
    (below : units * n.gridFactor power < n.upper * n.factor power) :
    n.contains power units = true := by
  rw [contains]
  split <;> simp only [Bool.and_eq_true, decide_eq_true_eq] <;> omega

/-- An interval ends at most half a unit below its centre. -/
theorem lower_bounds (f : Format) (positive : 0 < m) (e : Int) :
    4 * m ≤ (f.neighbourhood m e).lower + 2 ∧ (f.neighbourhood m e).lower < 4 * m := by
  have lower : (f.neighbourhood m e).lower =
      4 * m - if m = twoPow (f.precision - 1) ∧ f.low < e then 1 else 2 := rfl
  split at lower <;> omega

section Whole

variable (f) (positive : 0 < k) (shift : Nat)

theorem factor_whole (power : Nat) : (f.neighbourhood m (-shift)).factor power = 1 := by
  have fine : ((-shift : Int) - 2).toNat = 0 := by omega
  have whole : (-(power : Int)).toNat = 0 := by omega
  rw [factor, Format.neighbourhood, fine, whole]
  rfl

theorem gridFactor_whole (power : Nat) :
    (f.neighbourhood m (-shift)).gridFactor power = 4 * twoPow shift * tenPow power := by
  rw [gridFactor, Format.neighbourhood, show (-((-shift : Int) - 2)).toNat = 2 + shift by omega,
    twoPow_add, Int.toNat_natCast]
  rfl

include positive in
/-- The interval of a whole number contains no other whole number: that is a whole unit away, and
the interval ends after half a unit. -/
theorem contains_whole (power units : Nat) :
    (f.neighbourhood (k * twoPow shift) (-shift)).contains power units = true ↔
      units * tenPow power = k := by
  have unit := twoPow_pos shift
  have size : twoPow shift ≤ k * twoPow shift := Nat.le_mul_of_pos_left _ positive
  obtain ⟨half, inner⟩ := lower_bounds f (Nat.mul_pos positive unit) (-shift)
  have upper : (f.neighbourhood (k * twoPow shift) (-shift)).upper =
      4 * (k * twoPow shift) + 2 := rfl
  have point : units * (4 * twoPow shift * tenPow power) =
      4 * (units * tenPow power * twoPow shift) := by ring
  constructor
  · intro inside
    obtain ⟨above, below⟩ := between_of_contains inside
    rw [factor_whole, gridFactor_whole, Nat.mul_one, point] at above below
    rcases Nat.lt_trichotomy (units * tenPow power) k with less | same | more
    · have := Nat.mul_le_mul_right (twoPow shift) (Nat.succ_le_of_lt less)
      rw [Nat.succ_mul] at this
      omega
    · exact same
    · have := Nat.mul_le_mul_right (twoPow shift) (Nat.succ_le_of_lt more)
      rw [Nat.succ_mul] at this
      omega
  · intro same
    rw [same] at point
    apply contains_of_between
    · rw [factor_whole, gridFactor_whole, Nat.mul_one, point]
      exact inner
    · rw [factor_whole, gridFactor_whole, Nat.mul_one, point, upper]
      omega

include positive in
/-- On the grid of the whole numbers a whole number is found itself. -/
theorem nearest?_whole :
    (f.neighbourhood (k * twoPow shift) (-shift)).nearest? 0 = some k := by
  have inside := contains_whole f positive shift 0
  have below : (f.neighbourhood (k * twoPow shift) (-shift)).centre *
      (f.neighbourhood (k * twoPow shift) (-shift)).factor 0 /
        (f.neighbourhood (k * twoPow shift) (-shift)).gridFactor 0 = k := by
    have fine := factor_whole f (m := k * twoPow shift) shift 0
    have grid := gridFactor_whole f (m := k * twoPow shift) shift 0
    rw [Nat.cast_zero] at fine grid
    rw [fine, grid, Format.neighbourhood, tenPow_zero, Nat.mul_one, Nat.mul_one, Nat.mul_left_comm]
    exact Nat.mul_div_cancel k (Nat.mul_pos Nat.ofNat_pos (twoPow_pos shift))
  have self : (f.neighbourhood (k * twoPow shift) (-shift)).contains 0 k = true :=
    (inside k).2 (Nat.mul_one k)
  have next : (f.neighbourhood (k * twoPow shift) (-shift)).contains 0 (k + 1) = false :=
    Bool.eq_false_iff.2 fun other => by
      have := (inside (k + 1)).1 other
      rw [tenPow_zero] at this
      omega
  rw [nearest?]
  simp only [below, self, next]

include positive in
/-- The search ends at the number itself, perhaps with zeros cut off. -/
theorem search_whole {budget power : Nat} (enough : power < budget) : ∃ units zeros : Nat,
    (f.neighbourhood (k * twoPow shift) (-shift)).search budget power = ⟨units, zeros⟩ ∧
      units * tenPow zeros = k := by
  induction budget generalizing power with
  | zero => cases enough
  | succ budget ih =>
    rw [search]
    split
    · next units found =>
      have inside := contains_of_nearest? found
      exact ⟨units, power, rfl, (contains_whole f positive shift power units).1 inside⟩
    · next missed =>
      obtain _ | power := power
      · cases missed.symm.trans (nearest?_whole f positive shift)
      rw [show ((power + 1 : Nat) : Int) - 1 = power by omega]
      exact ih (by omega)

end Whole

end Neighbourhood

/-- The search starts at as many zeros as the number has digits. -/
theorem ceilPower_whole (positive : 0 < k) (shift : Nat) :
    ceilPower (quotient (k * twoPow shift) (-shift)).1 (quotient (k * twoPow shift) (-shift)).2 =
      digitCount k := by
  have fine : (-shift : Int).toNat = 0 := by omega
  have size : twoPow shift ≤ k * twoPow shift := Nat.le_mul_of_pos_left _ positive
  rw [quotient, ceilPower, fine, neg_neg, Int.toNat_natCast, twoPow_zero, Nat.mul_one, if_pos size,
    Nat.mul_div_cancel k (twoPow_pos shift)]

/-- **The shortest decimal of a whole number is the number**, perhaps with zeros cut off. -/
theorem shortest_whole (h : f.Canonical m e) (low : f.low ≤ 0) (whole : value m e = k)
    (positive : 0 < k) (small : k < twoPow f.precision)
    (enough : digitCount k ≤ f.decimalDigits) : ∃ units zeros : Nat,
    f.shortest m e = ⟨units, zeros⟩ ∧ units * tenPow zeros = k := by
  have nonpos := exponent_nonpos h low whole small
  have significand := significand_of_whole nonpos whole
  obtain ⟨shift, rfl⟩ := Int.exists_eq_neg_ofNat nonpos
  rw [neg_neg, Int.toNat_natCast] at significand
  subst significand
  rw [Format.shortest, ceilPower_whole positive]
  exact Neighbourhood.search_whole f positive shift (Nat.lt_succ_of_le enough)

end Binary

namespace Numeral

open Binary

variable {k : Nat}

/-! ## Writing -/

theorem ofDecimal_whole {layout : Layout} {units zeros : Nat} (negative : Bool)
    (least : layout.least ≤ 0) (greatest : digitCount k ≤ layout.greatest + 1)
    (positive : 0 < k) (whole : units * tenPow zeros = k) :
    ofDecimal layout negative ⟨units, zeros⟩ = ⟨negative, k, [0], none⟩ := by
  have some : 0 < units := Nat.pos_of_mul_pos_right (whole ▸ positive)
  have digits : digitCount k = digitCount units + zeros := by
    rw [← whole, digitCount_mul_tenPow some]
  have := digitCount_pos units
  have first : layout.least ≤ (zeros : Int) + digitCount units - 1 ∧
      (zeros : Int) + digitCount units - 1 ≤ layout.greatest := by omega
  rw [ofDecimal]
  simp only [if_pos first, if_pos (Int.natCast_nonneg zeros), Int.toNat_natCast, whole]

theorem ofSingle?_whole (layout : Layout) {m : Nat} {e : Int} (negative : Bool)
    (least : layout.least ≤ 0) (greatest : 7 ≤ layout.greatest) (h : single.Canonical m e)
    (whole : value m e = k) (small : k < twoPow 24) :
    ofSingle? layout (.finite negative m e h) = some ⟨negative, k, [0], none⟩ := by
  by_cases zero : m = 0
  · have none : k = 0 := by rw [← @Nat.cast_eq_zero ℚ, ← whole, value_eq_zero, zero]
    rw [ofSingle?, if_pos zero, none]
  · have positive : 0 < k := by
      refine Nat.pos_of_ne_zero fun none => zero (value_eq_zero (e := e).1 ?_)
      rw [whole, none, Nat.cast_zero]
    have digits : digitCount k ≤ 8 := digitCount_le (by decide) (small.trans (by decide))
    obtain ⟨units, zeros, shortest, same⟩ := shortest_whole h (by decide) whole positive small
      (digits.trans (by decide))
    rw [ofSingle?, if_neg zero, shortest, ofDecimal_whole negative least (by omega) positive same]

/-! ## Reading -/

theorem scientific_whole (negative : Bool) (small : 10 * k < significandLimit) :
    scientific ⟨negative, k, [0], none⟩ = (10 * k, -1) := by
  have whole : fitWhole k = (k, 0) := by
    rw [fitWhole, if_pos (by omega)]
  have all : extend k [0] = (10 * k, 1) := by
    rw [extend]
    exact if_pos small
  rw [scientific, whole]
  simp only [all]
  rfl

/-- A power of ten that fits the significand of a 64-bit number is exact. -/
theorem exists_tenTo {power : Nat} (small : tenPow power < twoPow 53) :
    ∃ m e h, tenTo power = .finite false m e h ∧ m ≠ 0 ∧ value m e = tenPow power := by
  obtain ⟨m, e, h, stands⟩ := exists_canonical (f := double) (by decide) (by decide) small
  refine ⟨m, e, h, Number.ofRatio_eq false h one_ne_zero ?_, fun zero => ?_, stands⟩
  · rw [stands, Nat.cast_one, div_one]
  · rw [value_eq_zero.2 zero] at stands
    exact (tenPow_pos power).ne (Nat.cast_eq_zero.1 stands.symm).symm

/-- A whole number with a zero after the point is read as this number. -/
theorem size?_whole {n : Nat} {d : Int} (negative : Bool) (small : 10 * k < twoPow 53)
    (h : double.Canonical n d) (whole : value n d = k) :
    size? ⟨negative, k, [0], none⟩ = some (.finite false n d h) := by
  obtain ⟨m₁, e₁, h₁, stands₁⟩ := exists_canonical (f := double) (by decide) (by decide) small
  obtain ⟨m₂, e₂, h₂, ten, nonzero, stands₂⟩ := exists_tenTo (show tenPow 1 < twoPow 53 by decide)
  have all : Number.ofRatio double false (10 * k) 1 = .finite false m₁ e₁ h₁ :=
    Number.ofRatio_eq false h₁ one_ne_zero (by rw [stands₁, Nat.cast_one, div_one])
  have quotient : value m₁ e₁ / value m₂ e₂ = value n d := by
    rw [stands₁, stands₂, whole, Nat.cast_mul]
    exact mul_div_cancel_left₀ _ (Nat.cast_ne_zero.2 (tenPow_pos 1).ne')
  have scaled : scaleDown (.finite false m₁ e₁ h₁) 1 = .finite false n d h := by
    rw [scaleDown, if_pos (by decide), ten]
    exact Number.ratio_eq h h₁ h₂ nonzero quotient
  rw [size?, scientific_whole negative (small.trans (by decide))]
  simp only [all]
  exact congrArg some scaled

theorem single?_whole {m : Nat} {e : Int} (negative : Bool)
    (h : single.Canonical m e) (whole : value m e = k) (small : k < twoPow 24) :
    single? ⟨negative, k, [0], none⟩ = some (.finite negative m e h) := by
  obtain ⟨n, d, wide, stands⟩ := exists_canonical (f := double) (by decide) (by decide)
    (small.trans (show twoPow 24 < twoPow double.precision by decide))
  have fits : 10 * twoPow 24 < twoPow 53 := by decide
  have size := size?_whole negative (by omega) wide stands
  have same := stands.trans whole.symm
  rw [single?, isWord, double?, size]
  cases negative with
  | false => exact congrArg some (Number.convert_eq false h wide same)
  | true => exact congrArg some (Number.convert_eq true h wide same)

end Numeral

end WalletWatch
