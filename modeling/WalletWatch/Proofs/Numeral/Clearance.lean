import Mathlib.Tactic.LinearCombination
import WalletWatch.Numeral.Power
import WalletWatch.Proofs.Binary.Exact
/-!
# Decimals keep clear of midpoints

The midpoints between neighbouring binary numbers are whole multiples of half a unit. How near can a
decimal come to one that it does not hit? Multiples of a power of ten and of a power of two form a
lattice, and two fractions next to each other, one on each side of the quotient of the powers, are a
basis of it; as long as the multiple of the power of two is small, what is between it and the
multiple of the power of ten is at least what is between one of the two fractions and the quotient
(`Bracket.far`). Such fractions are found by walking down from `0 / 1` and `1 / 0`
(`Bracket.narrow`). So for each power of ten that 32-bit numbers are written with, the kernel finds
the clearance on grids that are at least as coarse as the numbers (`clearance_of_coarse`). One
decimal comes nearer than all others: `7038531e-32`.
-/

namespace WalletWatch.Binary

/-! ## Two fractions next to each other -/

/-- A fraction below a quotient, or equal to it, and a fraction above it. -/
structure Bracket where
  lowNum : Nat
  lowDen : Nat
  highNum : Nat
  highDen : Nat

namespace Bracket

/-- How far the fraction below is from a quotient, over the product of the denominators. -/
def below (s : Bracket) (num den : Nat) : Int := s.lowDen * num - s.lowNum * den

/-- How far the fraction above is from a quotient, over the product of the denominators. -/
def above (s : Bracket) (num den : Nat) : Int := s.highNum * den - s.highDen * num

/-- Moves the two fractions towards a quotient until their numerators exceed a limit. The one that
is farther away moves, by as many steps as keep it on its side. -/
def narrow (num den limit : Nat) : (budget : Nat) → Bracket → Bracket
  | 0, s => s
  | budget + 1, s =>
    if limit < s.lowNum + s.highNum then s
    else
      let low := (s.below num den).toNat
      let high := (s.above num den).toNat
      if high ≤ low then
        let steps := min (low / high) ((limit - s.lowNum) / s.highNum)
        narrow num den limit budget
          { s with
            lowNum := s.lowNum + steps * s.highNum
            lowDen := s.lowDen + steps * s.highDen }
      else
        let most := if s.lowNum = 0 then high else (limit - s.highNum) / s.lowNum
        let steps := if low = 0 then most else min ((high - 1) / low) most
        narrow num den limit budget
          { s with
            highNum := s.highNum + steps * s.lowNum
            highDen := s.highDen + steps * s.lowDen }

section

variable {s : Bracket} {k : Nat}
  (next : s.highNum * s.lowDen = s.lowNum * s.highDen + 1)
  (positive : 0 < k) (small : k < s.lowNum + s.highNum)

include next positive small

/-- What is between multiples of the two terms of a quotient, by what is between the two fractions
and the quotient: a multiple that is small takes one fraction forwards and the other one backwards.
-/
theorem exists_coordinates (u num den : Nat) : ∃ x y : Int,
    (1 ≤ x ∧ 0 ≤ y ∧ (k : Int) = x * s.lowNum - y * s.highNum ∧
      (u * num - k * den : Int) = x * s.below num den + y * s.above num den) ∨
    (0 ≤ x ∧ 1 ≤ y ∧ (k : Int) = y * s.highNum - x * s.lowNum ∧
      (u : Int) = y * s.highDen - x * s.lowDen ∧
      -(u * num - k * den : Int) = x * s.below num den + y * s.above num den) := by
  have unit : (s.highNum * s.lowDen : Int) = s.lowNum * s.highDen + 1 := by exact_mod_cast next
  -- Fractions next to each other have the determinant one, so coordinates by them are whole.
  obtain ⟨x, hx⟩ : ∃ x : Int, x = u * s.highNum - k * s.highDen := ⟨_, rfl⟩
  obtain ⟨y, hy⟩ : ∃ y : Int, y = k * s.lowDen - u * s.lowNum := ⟨_, rfl⟩
  have numerators : (k : Int) = x * s.lowNum + y * s.highNum := by
    rw [hx, hy]
    linear_combination (-k : Int) * unit
  have denominators : (u : Int) = x * s.lowDen + y * s.highDen := by
    rw [hx, hy]
    linear_combination (-u : Int) * unit
  have between : (u * num - k * den : Int) = x * s.below num den - y * s.above num den := by
    rw [below, above, numerators, denominators]
    ring
  have low : (0 : Int) ≤ s.lowNum := Int.natCast_nonneg _
  have high : (0 : Int) ≤ s.highNum := Int.natCast_nonneg _
  -- If both went the same way, the numerators would add up to more than the limit.
  rcases Int.lt_or_le 0 x with forth | back
  · refine ⟨x, -y, .inl ⟨forth, ?_, by rw [numerators]; ring, by rw [between]; ring⟩⟩
    by_contra more
    have := Int.mul_le_mul_of_nonneg_right (show 1 ≤ x by omega) low
    have := Int.mul_le_mul_of_nonneg_right (show 1 ≤ y by omega) high
    omega
  · refine ⟨-x, y, .inr ⟨by omega, ?_, by rw [numerators]; ring, by rw [denominators]; ring,
      by rw [between]; ring⟩⟩
    by_contra less
    have := Int.mul_le_mul_of_nonneg_right back low
    have := Int.mul_le_mul_of_nonneg_right (show y ≤ 0 by omega) high
    omega

variable {u num den : Nat} {clear : Int}

/-- Multiples that are not equal are at least as far apart as the quotient is from the nearer
fraction, the fraction below not counted if it is the quotient. -/
theorem far (low : s.below num den = 0 ∨ clear ≤ s.below num den) (high : clear ≤ s.above num den)
    (nonneg : 0 ≤ clear) :
    ((u * num : Int) = k * den ∧ s.below num den = 0) ∨ clear ≤ |(u * num - k * den : Int)| := by
  have low' : 0 ≤ s.below num den := by rcases low with hit | low <;> omega
  obtain ⟨x, y, ⟨hx, hy, -, between⟩ | ⟨hx, hy, -, -, between⟩⟩ :=
    exists_coordinates next positive small u num den
  · have forth := Int.mul_le_mul_of_nonneg_right hx low'
    rcases hy.eq_or_lt with rfl | more
    · rcases low with hit | low
      · rw [hit, Int.mul_zero, Int.zero_mul] at between
        exact .inl ⟨by omega, hit⟩
      · exact .inr (le_abs.2 (.inl (by omega)))
    · have := Int.mul_le_mul_of_nonneg_right (show 1 ≤ y by omega) (nonneg.trans high)
      exact .inr (le_abs.2 (.inl (by omega)))
  · have := Int.mul_nonneg hx low'
    have := Int.mul_le_mul_of_nonneg_right hy (nonneg.trans high)
    exact .inr (le_abs.2 (.inr (by omega)))

/-- If the fraction above is too near, the multiples that it is made of are the only ones that are.
-/
theorem far_or_eq (low : clear ≤ s.below num den) (high : 0 ≤ s.above num den)
    (nonneg : 0 ≤ clear) (once : k < 2 * s.highNum) :
    clear ≤ |(u * num - k * den : Int)| ∨ (k = s.highNum ∧ u = s.highDen) := by
  obtain ⟨x, y, ⟨hx, hy, -, between⟩ | ⟨hx, hy, hk, hu, between⟩⟩ :=
    exists_coordinates next positive small u num den
  · have := Int.mul_le_mul_of_nonneg_right hx (nonneg.trans low)
    have := Int.mul_nonneg hy high
    exact .inl (le_abs.2 (.inl (by omega)))
  · have forth := Int.mul_nonneg (show 0 ≤ y by omega) high
    rcases hx.eq_or_lt with rfl | more
    · have top : (0 : Int) ≤ s.highNum := Int.natCast_nonneg _
      rcases Int.lt_or_le 1 y with several | same
      · have := Int.mul_le_mul_of_nonneg_right (show 2 ≤ y by omega) top
        omega
      · obtain rfl : y = 1 := by omega
        exact .inr ⟨by omega, by omega⟩
    · have := Int.mul_le_mul_of_nonneg_right (show 1 ≤ x by omega) (nonneg.trans low)
      exact .inl (le_abs.2 (.inr (by omega)))

end

end Bracket

/-! ## Powers of ten and of two -/

/-- The exponent of the greatest power of two that is at most a power of ten. -/
def powerUnit (power : Int) : Int :=
  floorLog2 (tenPow power.toNat) (tenPow (-power).toNat)

theorem le_powerUnit_iff (power e : Int) : e ≤ powerUnit power ↔ (2 : ℚ) ^ e ≤ 10 ^ power := by
  have quotient : (tenPow power.toNat : ℚ) / tenPow (-power).toNat = 10 ^ power :=
    (div_eq_iff (tenPow_cast_pos _).ne').2 (zpow_mul_tenPow power).symm
  rw [powerUnit, floorLog2_eq_log (tenPow_pos _).ne' (tenPow_pos _).ne', quotient]
  exact (Int.zpow_le_iff_le_log one_lt_two (ten_zpow_pos power)).symm

/-- The quotient of a power of ten and of half the power of two next to it. -/
def powerRatio (power : Int) : Nat × Nat :=
  let unit := powerUnit power
  (tenPow power.toNat * twoPow (1 - unit).toNat, tenPow (-power).toNat * twoPow (unit - 1).toNat)

theorem powerRatio_pos (power : Int) : 0 < (powerRatio power).2 :=
  Nat.mul_pos (tenPow_pos _) (twoPow_pos _)

theorem powerRatio_mul (power : Int) :
    ((powerRatio power).1 : ℚ) * 2 ^ (powerUnit power - 1) = (powerRatio power).2 * 10 ^ power := by
  have ten := zpow_mul_tenPow power
  have two := zpow_mul_twoPow (powerUnit power - 1)
  rw [show -(powerUnit power - 1) = 1 - powerUnit power by omega] at two
  rw [powerRatio, Nat.cast_mul, Nat.cast_mul, ← ten, ← two]
  ring

/-! ## Clearance -/

/-- The midpoints of 32-bit numbers are multiples of half a unit that are smaller than this. -/
def midpointLimit : Nat := twoPow 25 + 3

/-- What decimals keep clear of midpoints, in parts of half a unit of which there are `2 ^ 29`. -/
def clearance (power : Int) : Nat :=
  if power.natAbs ≤ 15 then 3 else 5

/-- The clearance, over the product of the denominators and rounded up. -/
def powerClear (power : Int) : Nat :=
  clearance power * (powerRatio power).2 / twoPow 29 + 1

theorem powerClear_pos (power : Int) : 0 < powerClear power := Nat.succ_pos _

/-- The fractions next to the quotient of the powers, too large to be made of midpoints together. -/
def powerBracket (power : Int) : Bracket :=
  let ratio := powerRatio power
  .narrow ratio.1 ratio.2 (midpointLimit - 1) 24 ⟨0, 1, 1, 0⟩

/-- Whether two fractions are next to each other and no midpoint is between them. -/
def Bracket.Separates (s : Bracket) : Prop :=
  s.highNum * s.lowDen = s.lowNum * s.highDen + 1 ∧ midpointLimit ≤ s.lowNum + s.highNum

instance (s : Bracket) : Decidable s.Separates := inferInstanceAs (Decidable (_ ∧ _))

/-- Whether the fractions next to the quotient of the powers are far enough from it. A decimal can
be a midpoint only if the power of ten is small. -/
def Cleared (power : Int) : Prop :=
  let s := powerBracket power
  let ratio := powerRatio power
  s.Separates ∧ powerClear power ≤ s.above ratio.1 ratio.2 ∧
    (s.below ratio.1 ratio.2 = 0 ∧ power.natAbs ≤ 15 ∨
      powerClear power ≤ s.below ratio.1 ratio.2)

instance (power : Int) : Decidable (Cleared power) :=
  inferInstanceAs (Decidable (_ ∧ _ ∧ (_ ∨ _)))

theorem cleared_of_lt : ∀ index : Nat, index < 84 → index ≠ 13 → Cleared (index - 45) := by
  decide +kernel

theorem cleared {power : Int} (least : -45 ≤ power) (greatest : power ≤ 38)
    (ordinary : power ≠ -32) : Cleared power := by
  have found := cleared_of_lt (power + 45).toNat (by omega) (by omega)
  rwa [Int.toNat_of_nonneg (by omega), Int.add_sub_cancel] at found

/-- For one power of ten the fraction above is too near. -/
theorem bracket_near :
    let s := powerBracket (-32)
    let ratio := powerRatio (-32)
    s.Separates ∧ powerClear (-32) ≤ s.below ratio.1 ratio.2 ∧ 0 ≤ s.above ratio.1 ratio.2 ∧
      s.highNum = 22841339 ∧ s.highDen = 7038531 := by
  decide +kernel

variable {power e : Int} {u k : Nat}

/-- What is between a decimal and a midpoint, by what is between multiples of the terms of the
quotient of the powers. -/
theorem sub_midpoint_eq (coarse : e ≤ powerUnit power) :
    (u * 10 ^ power - k * 2 ^ (e - 1) : ℚ) =
      (((u * twoPow (powerUnit power - e).toNat : Nat) * (powerRatio power).1 -
        k * (powerRatio power).2 : Int) : ℚ) * 2 ^ (e - 1) / (powerRatio power).2 := by
  have below : ((powerRatio power).2 : ℚ) ≠ 0 := Nat.cast_ne_zero.2 (powerRatio_pos power).ne'
  have ratio := powerRatio_mul power
  have shift : (2 : ℚ) ^ (powerUnit power - 1) =
      2 ^ (e - 1) * twoPow (powerUnit power - e).toNat := by
    rw [cast_twoPow, ← zpow_natCast, ← zpow_add₀ two_ne_zero]
    congr 1
    omega
  rw [shift] at ratio
  rw [eq_div_iff below]
  push_cast
  linear_combination (-u : ℚ) * ratio

theorem clearance_le {d : Int} (far : (powerClear power : Int) ≤ |d|) :
    (clearance power * 2 ^ (e - 30) : ℚ) ≤ |(d * 2 ^ (e - 1) / (powerRatio power).2 : ℚ)| := by
  have below : (0 : ℚ) < (powerRatio power).2 := Nat.cast_pos.2 (powerRatio_pos power)
  have unit : (0 : ℚ) < 2 ^ (e - 30) := zpow_pos two_pos _
  have rounded : clearance power * (powerRatio power).2 ≤ powerClear power * twoPow 29 := by
    have := Nat.div_add_mod (clearance power * (powerRatio power).2) (twoPow 29)
    have := Nat.mod_lt (clearance power * (powerRatio power).2) (twoPow_pos 29)
    rw [powerClear, Nat.succ_mul, Nat.mul_comm (_ / _)]
    omega
  have clear : (clearance power * (powerRatio power).2 : ℚ) ≤ |(d : ℚ)| * 2 ^ 29 := by
    have far' : (powerClear power : ℚ) ≤ |(d : ℚ)| := by exact_mod_cast far
    calc (clearance power * (powerRatio power).2 : ℚ) ≤ powerClear power * twoPow 29 := by
          exact_mod_cast rounded
      _ ≤ |(d : ℚ)| * 2 ^ 29 := by rw [cast_twoPow]; gcongr
  have parts : (2 : ℚ) ^ (e - 1) = 2 ^ 29 * 2 ^ (e - 30) := by
    rw [← zpow_natCast, ← zpow_add₀ two_ne_zero]
    congr 1
    omega
  rw [abs_div, abs_mul, abs_of_pos below, abs_of_pos (zpow_pos (zero_lt_two' ℚ) (e - 1)),
    le_div_iff₀ below, parts]
  calc clearance power * 2 ^ (e - 30) * ((powerRatio power).2 : ℚ)
      = clearance power * (powerRatio power).2 * 2 ^ (e - 30) := by ring
    _ ≤ |(d : ℚ)| * 2 ^ 29 * 2 ^ (e - 30) := by gcongr
    _ = |(d : ℚ)| * (2 ^ 29 * 2 ^ (e - 30)) := by ring

/-- **Decimals keep clear of midpoints.** On a grid that is at least as coarse as the numbers, a
decimal is a midpoint, for small powers of ten, or it is as far from it as the clearance says, or it
is the one that is nearer. -/
theorem clearance_of_coarse (least : -45 ≤ power) (greatest : power ≤ 38)
    (coarse : (2 : ℚ) ^ e ≤ 10 ^ power) (positive : 0 < k) (small : k < midpointLimit) :
    (u * 10 ^ power = (k * 2 ^ (e - 1) : ℚ) ∧ power.natAbs ≤ 15) ∨
      (clearance power * 2 ^ (e - 30) : ℚ) ≤ |(u * 10 ^ power - k * 2 ^ (e - 1) : ℚ)| ∨
      (power = -32 ∧ e = -107 ∧ u = 7038531 ∧ k = 22841339) := by
  have order := (le_powerUnit_iff power e).2 coarse
  have difference := sub_midpoint_eq (u := u) (k := k) order
  by_cases special : power = -32
  · subst special
    obtain ⟨⟨next, limit⟩, low, high, highNum, highDen⟩ := bracket_near
    rcases Bracket.far_or_eq (u := u * twoPow (powerUnit (-32) - e).toNat) next positive
      (small.trans_le limit) low high (Int.natCast_nonneg _)
      (by rw [highNum]; exact small.trans (by decide)) with far | ⟨hk, hu⟩
    · refine .inr (.inl ?_)
      rw [difference]
      exact clearance_le far
    · -- The denominator is odd, so nothing was shifted.
      have unit : powerUnit (-32) = -107 := by decide +kernel
      rw [highDen, unit] at hu
      rw [unit] at order
      have shift : (-107 - e).toNat = 0 := by
        by_contra more
        obtain ⟨n, hn⟩ := Nat.exists_eq_succ_of_ne_zero more
        rw [hn, Nat.succ_eq_add_one, Nat.add_comm, twoPow_add, Nat.mul_left_comm,
          show twoPow 1 = 2 from rfl] at hu
        omega
      rw [shift, twoPow_zero, Nat.mul_one] at hu
      exact .inr (.inr ⟨rfl, by omega, hu, hk.trans highNum⟩)
  · obtain ⟨⟨next, limit⟩, high, low⟩ := cleared least greatest special
    rcases Bracket.far next positive (small.trans_le limit) (low.imp And.left id) high
      (Int.natCast_nonneg _) with ⟨hit, below⟩ | far
    · refine .inl ⟨?_, ?_⟩
      · rw [← sub_eq_zero, difference, hit, sub_self, Int.cast_zero, zero_mul, zero_div]
      · refine (low.resolve_right fun more => ?_).2
        have := powerClear_pos power
        omega
    · refine .inr (.inl ?_)
      rw [difference]
      exact clearance_le far

/-! ## Fine grids -/

/-- Whether a power of ten is less than the power of two above it by a part of that. -/
def Apart (power : Int) : Prop :=
  let above := powerUnit power + 1
  128 * (tenPow power.toNat * twoPow (-above).toNat) ≤
    127 * (tenPow (-power).toNat * twoPow above.toNat)

instance (power : Int) : Decidable (Apart power) := inferInstanceAs (Decidable (_ ≤ _))

theorem apart_of_lt : ∀ index : Nat, index < 84 → Apart (index - 45) := by
  decide +kernel

theorem Apart.le (h : Apart power) : (10 : ℚ) ^ power ≤ 127 / 128 * 2 ^ (powerUnit power + 1) := by
  have ten := zpow_mul_tenPow power
  have two := zpow_mul_twoPow (powerUnit power + 1)
  have positive := mul_pos (tenPow_cast_pos (-power).toNat)
    (twoPow_cast_pos (-(powerUnit power + 1)).toNat)
  have parts : (128 * (tenPow power.toNat * twoPow (-(powerUnit power + 1)).toNat) : ℚ) ≤
      127 * (tenPow (-power).toNat * twoPow (powerUnit power + 1).toNat) := by
    exact_mod_cast h
  rw [← ten, ← two] at parts
  refine le_of_mul_le_mul_right ?_ positive
  linarith

/-- **On a grid that is finer than the numbers, a step is less than their unit by a part of it.** -/
theorem le_of_fine (greatest : power ≤ 38) (low : -149 ≤ e) (fine : (10 : ℚ) ^ power < 2 ^ e) :
    (10 : ℚ) ^ power ≤ 127 / 128 * 2 ^ e := by
  rcases Int.lt_or_le power (-45) with tiny | least
  · calc (10 : ℚ) ^ power ≤ 10 ^ (-46 : Int) := zpow_le_zpow_right₀ (by norm_num) (by omega)
      _ ≤ 127 / 128 * 2 ^ (-149 : Int) := by norm_num
      _ ≤ 127 / 128 * 2 ^ e := by
        gcongr
        norm_num
  · have above : powerUnit power + 1 ≤ e := by
      have := mt (le_powerUnit_iff power e).1 (not_le.2 fine)
      omega
    have apart := apart_of_lt (power + 45).toNat (by omega)
    rw [Int.toNat_of_nonneg (by omega), Int.add_sub_cancel] at apart
    calc (10 : ℚ) ^ power ≤ 127 / 128 * 2 ^ (powerUnit power + 1) := apart.le
      _ ≤ 127 / 128 * 2 ^ e := by
        gcongr
        norm_num

end WalletWatch.Binary
