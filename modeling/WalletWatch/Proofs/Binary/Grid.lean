import Mathlib.Tactic.LinearCombination
import WalletWatch.Proofs.Binary.Nearest
import WalletWatch.Proofs.Numeral.Whole
/-!
# The shortest decimal

The grid of a power of ten is searched from coarse to fine for a point in the neighbourhood of a
number. If there is one, then one of the two points next to the number is in it, so a grid without a
find has none (`Neighbourhood.not_holds_of_nearest?`). A grid that is much finer than the number
always has one; so the search of `Format.shortest` ends at a point in the neighbourhood, and no
coarser grid has any (`shortest_spec`). No decimal with fewer digits is in the neighbourhood then
(`digitCount_shortest_le`).
-/

namespace WalletWatch.Binary

namespace Neighbourhood

variable {n : Neighbourhood} {power : Int} {units : Nat}

/-! ## Points of a grid -/

theorem Holds.between {a b c : ℚ} (ha : n.Holds a) (hb : n.Holds b) (above : a ≤ c)
    (below : c ≤ b) : n.Holds c := by
  refine ⟨ha.1.trans above, below.trans hb.2.1, fun opened => ?_⟩
  have lower := ha.1.lt_of_ne (ha.2.2 opened).1.symm
  have upper := hb.2.1.lt_of_ne (hb.2.2 opened).2
  exact ⟨(lower.trans_le above).ne', (below.trans_lt upper).ne⟩

/-- Counts of quarters and of grid units are compared after they are multiplied with their factors.
-/
theorem cast_mul_factor (n : Neighbourhood) (power : Int) (count : Nat) :
    ((count * n.factor power : Nat) : ℚ) =
      value count n.quarter * (twoPow (-n.quarter).toNat * tenPow (-power).toNat) := by
  rw [factor, Nat.cast_mul, Nat.cast_mul, ← zpow_mul_twoPow n.quarter, value]
  ring

theorem cast_mul_gridFactor (n : Neighbourhood) (power : Int) (units : Nat) :
    ((units * n.gridFactor power : Nat) : ℚ) =
      units * 10 ^ power * (twoPow (-n.quarter).toNat * tenPow (-power).toNat) := by
  rw [gridFactor, Nat.cast_mul, Nat.cast_mul, ← zpow_mul_tenPow power]
  ring

theorem factors_pos (n : Neighbourhood) (power : Int) :
    (0 : ℚ) < twoPow (-n.quarter).toNat * tenPow (-power).toNat :=
  mul_pos (twoPow_cast_pos _) (tenPow_cast_pos _)

theorem gridFactor_pos (n : Neighbourhood) (power : Int) : 0 < n.gridFactor power :=
  Nat.mul_pos (twoPow_pos _) (tenPow_pos _)

theorem factor_le_iff {count : Nat} : count * n.factor power ≤ units * n.gridFactor power ↔
    value count n.quarter ≤ units * 10 ^ power := by
  rw [← @Nat.cast_le ℚ, cast_mul_factor, cast_mul_gridFactor,
    mul_le_mul_iff_left₀ (n.factors_pos power)]

theorem le_factor_iff {count : Nat} : units * n.gridFactor power ≤ count * n.factor power ↔
    units * 10 ^ power ≤ value count n.quarter := by
  rw [← @Nat.cast_le ℚ, cast_mul_factor, cast_mul_gridFactor,
    mul_le_mul_iff_left₀ (n.factors_pos power)]

theorem contains_iff : n.contains power units = true ↔ n.Holds (units * 10 ^ power) := by
  rw [contains, Holds]
  cases n.closed with
  | true => simp [factor_le_iff, le_factor_iff]
  | false =>
    simp only [Bool.false_eq_true, if_false, Bool.and_eq_true, decide_eq_true_eq, ← not_le,
      factor_le_iff, le_factor_iff]
    simp only [not_le, forall_const]
    exact ⟨fun h => ⟨h.1.le, h.2.le, h.1.ne', h.2.ne⟩,
      fun h => ⟨h.1.lt_of_ne h.2.2.1.symm, h.2.1.lt_of_ne h.2.2.2⟩⟩

/-! ## The points next to the centre -/

/-- The number that an interval is around. -/
def middle (n : Neighbourhood) : ℚ := value n.centre n.quarter

/-- The point of a grid below the centre, counted in units. -/
def floor (n : Neighbourhood) (power : Int) : Nat :=
  n.centre * n.factor power / n.gridFactor power

theorem floor_le (n : Neighbourhood) (power : Int) : n.floor power * 10 ^ power ≤ n.middle :=
  le_factor_iff.1 (Nat.div_mul_le_self _ _)

theorem lt_floor (n : Neighbourhood) (power : Int) :
    n.middle < (n.floor power + 1 : Nat) * 10 ^ power := by
  rw [middle, ← not_le, ← le_factor_iff, not_le, Nat.mul_comm (n.floor power + 1)]
  exact Nat.lt_mul_div_succ _ (n.gridFactor_pos power)

/-- How far the centre is above that point. -/
def rest (n : Neighbourhood) (power : Int) : ℚ := n.middle - n.floor power * 10 ^ power

/-- What is left of the centre after division. -/
theorem cast_mod (n : Neighbourhood) (power : Int) :
    ((n.centre * n.factor power % n.gridFactor power : Nat) : ℚ) =
      n.rest power * (twoPow (-n.quarter).toNat * tenPow (-power).toNat) := by
  have parts : ((n.floor power * n.gridFactor power : Nat) : ℚ) +
      ((n.centre * n.factor power % n.gridFactor power : Nat) : ℚ) =
        ((n.centre * n.factor power : Nat) : ℚ) := by
    exact_mod_cast Nat.div_add_mod' (n.centre * n.factor power) (n.gridFactor power)
  rw [cast_mul_factor, cast_mul_gridFactor] at parts
  rw [rest, middle]
  linear_combination parts

theorem cast_gridFactor (n : Neighbourhood) (power : Int) :
    (n.gridFactor power : ℚ) =
      10 ^ power * (twoPow (-n.quarter).toNat * tenPow (-power).toNat) := by
  have one := n.cast_mul_gridFactor power 1
  rwa [Nat.one_mul, Nat.cast_one, one_mul] at one

theorem mod_le_half_iff :
    2 * (n.centre * n.factor power % n.gridFactor power) ≤ n.gridFactor power ↔
      n.rest power ≤ 10 ^ power / 2 := by
  rw [← @Nat.cast_le ℚ, Nat.cast_mul, cast_mod, cast_gridFactor, Nat.cast_two, ← mul_assoc (2 : ℚ),
    mul_le_mul_iff_left₀ (n.factors_pos power), le_div_iff₀' two_pos]

theorem half_le_mod_iff :
    n.gridFactor power ≤ 2 * (n.centre * n.factor power % n.gridFactor power) ↔
      10 ^ power / 2 ≤ n.rest power := by
  rw [← @Nat.cast_le ℚ, Nat.cast_mul, cast_mod, cast_gridFactor, Nat.cast_two, ← mul_assoc (2 : ℚ),
    mul_le_mul_iff_left₀ (n.factors_pos power), div_le_iff₀' two_pos]

/-- Nothing is found if neither point next to the centre is in the interval. -/
theorem missed_of_nearest? (h : n.nearest? power = none) :
    ¬ n.Holds (n.floor power * 10 ^ power) ∧
      ¬ n.Holds ((n.floor power + 1 : Nat) * 10 ^ power) := by
  rw [← contains_iff, ← contains_iff, Bool.not_eq_true, Bool.not_eq_true]
  rw [nearest?] at h
  simp only [show n.centre * n.factor power / n.gridFactor power = n.floor power from rfl] at h
  split at h
  · next below above => exact ⟨below, above⟩
  · cases h
  · cases h
  · split at h <;> cases h

/-- The point below the centre is found if the one above is not in the interval or not nearer, and
the point above if the one below is not. -/
theorem found_of_nearest? (h : n.nearest? power = some units) :
    (units = n.floor power ∧ (¬ n.Holds ((n.floor power + 1 : Nat) * 10 ^ power) ∨
      n.rest power ≤ 10 ^ power / 2)) ∨
    (units = n.floor power + 1 ∧ (¬ n.Holds (n.floor power * 10 ^ power) ∨
      10 ^ power / 2 ≤ n.rest power)) := by
  rw [← contains_iff, ← contains_iff, Bool.not_eq_true, Bool.not_eq_true]
  rw [nearest?] at h
  simp only [show n.centre * n.factor power / n.gridFactor power = n.floor power from rfl] at h
  split at h
  · cases h
  · next _ above => exact .inl ⟨(Option.some.inj h).symm, .inl above⟩
  · next below _ => exact .inr ⟨(Option.some.inj h).symm, .inl below⟩
  · split at h
    · exact .inl ⟨(Option.some.inj h).symm, .inr (mod_le_half_iff.1 (by omega))⟩
    · exact .inr ⟨(Option.some.inj h).symm, .inr (half_le_mod_iff.1 (by omega))⟩

/-- A grid without a find has no point in the interval: one on either side of the centre would have
the point next to the centre between them. -/
theorem not_holds_of_nearest? (own : n.Holds n.middle) (h : n.nearest? power = none) (units : Nat) :
    ¬ n.Holds (units * 10 ^ power) := by
  intro holds
  have positive := ten_zpow_pos power
  obtain ⟨missedBelow, missedAbove⟩ := missed_of_nearest? h
  rcases Nat.lt_or_ge (n.floor power) units with above | below
  · refine missedAbove (own.between holds (n.lt_floor power).le ?_)
    have : ((n.floor power + 1 : Nat) : ℚ) ≤ units := by exact_mod_cast above
    gcongr
  · refine missedBelow (holds.between own ?_ (n.floor_le power))
    have : (units : ℚ) ≤ n.floor power := by exact_mod_cast below
    gcongr

/-- If the interval holds all that is at most half a step from its centre, then what is found is. -/
theorem near_of_nearest? (h : n.nearest? power = some units)
    (inner : ∀ q, |q - n.middle| ≤ 10 ^ power / 2 → n.Holds q) :
    |units * 10 ^ power - n.middle| ≤ 10 ^ power / 2 := by
  have low := n.floor_le power
  have high := n.lt_floor power
  have below : |(n.floor power : ℚ) * 10 ^ power - n.middle| = n.rest power := by
    rw [abs_sub_comm, abs_of_nonneg (by linarith), rest]
  have above : |((n.floor power + 1 : Nat) : ℚ) * 10 ^ power - n.middle| =
      10 ^ power - n.rest power := by
    rw [abs_of_pos (by linarith), rest]
    push_cast
    ring
  rcases found_of_nearest? h with ⟨rfl, missed | near⟩ | ⟨rfl, missed | near⟩
  · have far := mt (inner _) missed
    rw [above] at far
    rw [below]
    linarith
  · rwa [below]
  · have far := mt (inner _) missed
    rw [below] at far
    rw [above]
    linarith
  · rw [above]
    linarith

/-! ## The search -/

/-- A search that comes to a grid with a find ends at the coarsest one. -/
theorem search_spec {budget : Nat} {fine : Int} (first : power - budget < fine)
    (last : fine ≤ power) (found : n.nearest? fine ≠ none) :
    let d := n.search budget power
    n.nearest? d.power = some d.units ∧ fine ≤ d.power ∧
      ∀ p, d.power < p → p ≤ power → n.nearest? p = none := by
  induction budget generalizing power with
  | zero => exact absurd first (by rw [Nat.cast_zero, Int.sub_zero]; omega)
  | succ budget ih =>
    rw [search]
    split
    · next units hit => exact ⟨hit, last, fun p more less => absurd more (not_lt.2 less)⟩
    · next miss =>
      have other : fine ≠ power := by
        rintro rfl
        exact found miss
      obtain ⟨hit, reached, missed⟩ := ih (show power - 1 - budget < fine by omega) (by omega)
      refine ⟨hit, reached, fun p more less => ?_⟩
      rcases Int.lt_or_eq_of_le less with less | rfl
      · exact missed p more (by omega)
      · exact miss

end Neighbourhood

/-- A quotient is at most ten times smaller than the power of ten behind its digits. -/
theorem digitCount_div {num den : Nat} (hden : 0 < den) (large : den ≤ num) :
    num < tenPow (digitCount (num / den)) * den ∧
      tenPow (digitCount (num / den)) * den ≤ 10 * num := by
  have digits := tenPow_le_of_digitCount (Nat.div_pos large hden)
  have more := lt_tenPow_digitCount (num / den)
  have nonzero := digitCount_pos (num / den)
  generalize digitCount (num / den) = count at *
  have scale : tenPow count = 10 * tenPow (count - 1) := by
    rw [← tenPow_succ, Nat.sub_add_cancel nonzero]
  have below : tenPow (count - 1) * den ≤ num := (Nat.le_div_iff_mul_le hden).1 digits
  exact ⟨(Nat.div_lt_iff_lt_mul hden).1 more, by rw [scale, Nat.mul_assoc]; omega⟩

/-- Where the search starts: at most ten times too coarse. -/
theorem ceilPower_spec {num den : Nat} (hnum : 0 < num) (hden : 0 < den) :
    (num / den : ℚ) ≤ 10 ^ ceilPower num den ∧ (10 : ℚ) ^ ceilPower num den ≤ 10 * (num / den) := by
  have below : (0 : ℚ) < den := Nat.cast_pos.2 hden
  rw [div_le_iff₀ below, ← mul_div_assoc, le_div_iff₀ below, ceilPower]
  split
  · next large =>
    obtain ⟨behind, near⟩ := digitCount_div hden large
    rw [zpow_natCast, ← cast_tenPow]
    exact ⟨by exact_mod_cast behind.le, by exact_mod_cast near⟩
  · next small =>
    obtain ⟨behind, near⟩ := digitCount_div hnum (Nat.le_of_not_le small)
    generalize digitCount (den / num) = count at *
    have scale : (10 : ℚ) ^ (1 - count : Int) * tenPow count = 10 := by
      rw [cast_tenPow, ← zpow_natCast, ← zpow_add₀ (by norm_num), Int.sub_add_cancel, zpow_one]
    have positive := tenPow_cast_pos count
    have scaled : (10 : ℚ) ^ (1 - count : Int) * den * tenPow count = 10 * den := by
      rw [mul_right_comm, scale]
    constructor
    · rw [← mul_le_mul_iff_left₀ positive, scaled, mul_comm (num : ℚ)]
      exact_mod_cast near
    · rw [← mul_le_mul_iff_left₀ positive, scaled, mul_assoc, mul_comm (num : ℚ)]
      exact_mod_cast Nat.mul_le_mul_left 10 behind.le

/-! ## The shortest decimal -/

variable {f : Format} {m : Nat} {e : Int}

namespace Format

theorem middle_neighbourhood (f : Format) (m : Nat) (e : Int) :
    (f.neighbourhood m e).middle = value m e := by
  rw [Neighbourhood.middle, neighbourhood, value, value, zpow_sub₀ two_ne_zero]
  push_cast
  ring

theorem holds_of_between (hm : 0 < m) {q : ℚ} (above : (m - f.reach m e) * 2 ^ e < q)
    (below : q < (m + 1 / 2) * 2 ^ e) : (f.neighbourhood m e).Holds q := by
  have unit : (0 : ℚ) < 2 ^ e := zpow_pos two_pos e
  rw [← lt_div_iff₀ unit] at above
  rw [← div_lt_iff₀ unit] at below
  exact (f.holds_neighbourhood_iff hm).2 ⟨above.le, below.le, fun _ => ⟨above.ne', below.ne⟩⟩

theorem holds_value (f : Format) (hm : 0 < m) (e : Int) :
    (f.neighbourhood m e).Holds (value m e) := by
  have unit : (0 : ℚ) < 2 ^ e := zpow_pos two_pos e
  have := mul_pos (f.reach_pos m e) unit
  refine holds_of_between hm ?_ ?_ <;> rw [value] <;> linarith

/-- A neighbourhood reaches from a half of its number to one and a half of it. -/
theorem bounds_of_holds (hm : 0 < m) {q : ℚ} (holds : (f.neighbourhood m e).Holds q) :
    value m e ≤ 2 * q ∧ 2 * q ≤ 3 * value m e := by
  have unit : (0 : ℚ) < 2 ^ e := zpow_pos two_pos e
  have least : (1 : ℚ) ≤ m := Nat.one_le_cast.2 hm
  have reach := f.reach_le m e
  obtain ⟨lower, upper, -⟩ := (f.holds_neighbourhood_iff hm).1 holds
  rw [le_div_iff₀ unit] at lower
  rw [div_le_iff₀ unit] at upper
  rw [value]
  constructor <;> nlinarith

/-- A grid that is much finer than a number has a point in its neighbourhood. -/
theorem nearest?_of_fine (h : f.Canonical m e) (hm : 0 < m) {power : Int}
    (fine : 10 ^ power * twoPow (f.precision + 1) ≤ value m e) :
    (f.neighbourhood m e).nearest? power ≠ none := by
  intro none
  have own := f.middle_neighbourhood m e ▸ f.holds_value hm e
  have unit : (0 : ℚ) < 2 ^ e := zpow_pos two_pos e
  have step : 2 * (10 : ℚ) ^ power < 2 ^ e := by
    have small : (m : ℚ) < twoPow f.precision := Nat.cast_lt.2 h.1
    have doubled : (twoPow (f.precision + 1) : ℚ) = twoPow f.precision * 2 := by
      rw [twoPow_add, Nat.cast_mul]
      rfl
    rw [doubled, value] at fine
    have : 2 * (10 : ℚ) ^ power * twoPow f.precision < 2 ^ e * twoPow f.precision := by
      calc 2 * (10 : ℚ) ^ power * twoPow f.precision
          = 10 ^ power * (twoPow f.precision * 2) := by ring
        _ ≤ m * 2 ^ e := fine
        _ < twoPow f.precision * 2 ^ e := by gcongr
        _ = 2 ^ e * twoPow f.precision := mul_comm _ _
    exact lt_of_mul_lt_mul_right this (twoPow_cast_pos _).le
  have low := (f.neighbourhood m e).floor_le power
  have high := (f.neighbourhood m e).lt_floor power
  have below := mul_pos (f.reach_pos m e) unit
  rw [middle_neighbourhood, value] at low high
  push_cast at high
  refine Neighbourhood.not_holds_of_nearest? own none
    ((f.neighbourhood m e).floor power + 1) (holds_of_between hm ?_ ?_) <;>
  · push_cast
    linarith

theorem value_pos (hm : 0 < m) (e : Int) : 0 < value m e :=
  mul_pos (Nat.cast_pos.2 hm) (zpow_pos two_pos e)

/-- No point of a grid that is coarser than a number is in its neighbourhood. -/
theorem not_holds_of_coarse (hm : 0 < m) {power : Int} (coarse : 2 * value m e ≤ 10 ^ power)
    (units : Nat) : ¬ (f.neighbourhood m e).Holds (units * 10 ^ power) := by
  intro holds
  have positive := value_pos hm e
  obtain ⟨lower, upper⟩ := bounds_of_holds hm holds
  rcases Nat.eq_zero_or_pos units with rfl | some
  · rw [Nat.cast_zero, zero_mul, mul_zero] at lower
    linarith
  · have : (1 : ℚ) ≤ units := Nat.one_le_cast.2 some
    nlinarith

/-- **The shortest decimal of a number is the nearest one on the coarsest grid with a point in the
neighbourhood**, and it has no more digits than the format needs. -/
theorem shortest_spec (h : f.Canonical m e) (hm : 0 < m)
    (enough : twoPow (f.precision + 1) * 10 ≤ tenPow f.decimalDigits) :
    (f.neighbourhood m e).nearest? (f.shortest m e).power = some (f.shortest m e).units ∧
      value m e ≤ 10 ^ f.decimalDigits * 10 ^ (f.shortest m e).power ∧
      ∀ power, (f.shortest m e).power < power →
        ∀ units : Nat, ¬ (f.neighbourhood m e).Holds (units * 10 ^ power) := by
  have own := f.middle_neighbourhood m e ▸ f.holds_value hm e
  have positive := value_pos hm e
  have some : 0 < (quotient m e).1 := Nat.mul_pos hm (twoPow_pos e.toNat)
  obtain ⟨above, near⟩ := ceilPower_spec some (quotient_pos m e)
  rw [quotient_value] at above near
  rw [shortest]
  generalize ceilPower (quotient m e).1 (quotient m e).2 = top at *
  -- The last grid that is searched is fine enough.
  have parts : (10 : ℚ) ^ top = 10 ^ f.decimalDigits * 10 ^ (top - f.decimalDigits) := by
    rw [← zpow_natCast, ← zpow_add₀ (by norm_num)]
    congr 1
    omega
  have fine : 10 ^ (top - f.decimalDigits) * twoPow (f.precision + 1) ≤ value m e := by
    have size : (twoPow (f.precision + 1) * 10 : ℚ) ≤ 10 ^ f.decimalDigits := by
      rw [← cast_tenPow]
      exact_mod_cast enough
    have step := ten_zpow_pos (top - f.decimalDigits)
    nlinarith
  have first : top - (f.decimalDigits + 1 : Nat) < top - f.decimalDigits := by omega
  obtain ⟨hit, reached, missed⟩ :=
    Neighbourhood.search_spec first (by omega) (nearest?_of_fine h hm fine)
  refine ⟨hit, ?_, fun power more => ?_⟩
  · calc value m e ≤ 10 ^ f.decimalDigits * 10 ^ (top - f.decimalDigits) := parts ▸ above
      _ ≤ _ := by
        gcongr
        norm_num
  · rcases Int.lt_or_le top power with coarser | searched
    · refine not_holds_of_coarse hm ?_
      have next : (10 : ℚ) ^ (top + 1) ≤ 10 ^ power := zpow_le_zpow_right₀ (by norm_num) coarser
      rw [zpow_add_one₀ (by norm_num)] at next
      linarith
    · exact Neighbourhood.not_holds_of_nearest? own (missed power more searched)

/-- The shortest decimal of a number is in its neighbourhood. -/
theorem holds_shortest (h : f.Canonical m e) (hm : 0 < m)
    (enough : twoPow (f.precision + 1) * 10 ≤ tenPow f.decimalDigits) :
    (f.neighbourhood m e).Holds ((f.shortest m e).units * 10 ^ (f.shortest m e).power) :=
  Neighbourhood.contains_iff.1
    (Neighbourhood.contains_of_nearest? (shortest_spec h hm enough).1)

/-- **No decimal in the neighbourhood of a number has fewer digits than the shortest one**: a
decimal with fewer digits is finer, and the power of ten behind its digits would be between the two.
-/
theorem digitCount_shortest_le (h : f.Canonical m e) (hm : 0 < m)
    (enough : twoPow (f.precision + 1) * 10 ≤ tenPow f.decimalDigits) {units : Nat} {power : Int}
    (holds : (f.neighbourhood m e).Holds (units * 10 ^ power)) :
    digitCount (f.shortest m e).units ≤ digitCount units := by
  obtain ⟨-, -, coarser⟩ := shortest_spec h hm enough
  have found := holds_shortest h hm enough
  generalize f.shortest m e = d at *
  have finer : power ≤ d.power := not_lt.1 fun more => coarser power more units holds
  by_contra fewer
  have several := digitCount_pos units
  have some : 0 < d.units := by
    refine Nat.pos_of_ne_zero fun none => ?_
    have := digitCount_le Nat.one_pos (none ▸ tenPow_pos 1 : d.units < tenPow 1)
    omega
  have first : (tenPow (digitCount d.units - 2) * 10 ^ (d.power + 1) : ℚ) ≤
      d.units * 10 ^ d.power := by
    have digits := tenPow_le_of_digitCount some
    rw [show digitCount d.units - 1 = digitCount d.units - 2 + 1 by omega, tenPow_succ] at digits
    have : (10 * tenPow (digitCount d.units - 2) : ℚ) ≤ d.units := by exact_mod_cast digits
    have step := ten_zpow_pos d.power
    rw [zpow_add_one₀ (by norm_num)]
    nlinarith
  have last : (units * 10 ^ power : ℚ) ≤ tenPow (digitCount d.units - 2) * 10 ^ (d.power + 1) := by
    calc (units * 10 ^ power : ℚ) ≤ tenPow (digitCount units) * 10 ^ power := by
          gcongr
          exact (lt_tenPow_digitCount units).le
      _ = 10 ^ (digitCount units + power) := by
        rw [cast_tenPow, ← zpow_natCast, ← zpow_add₀ (by norm_num)]
      _ ≤ 10 ^ ((digitCount d.units - 2 : Nat) + (d.power + 1)) := by
        refine zpow_le_zpow_right₀ (by norm_num) ?_
        omega
      _ = tenPow (digitCount d.units - 2) * 10 ^ (d.power + 1) := by
        rw [cast_tenPow, ← zpow_natCast, ← zpow_add₀ (by norm_num)]
  exact coarser (d.power + 1) (by omega) _ (holds.between found last first)

end Format

/-! ## What a decimal names -/

namespace Decimal

/-- The number that a decimal stands for. -/
def value (d : Decimal) : ℚ := d.units * 10 ^ d.power

/-- The number of a format that a decimal is nearest to, with a sign. -/
def round (f : Format) (negative : Bool) (d : Decimal) : Number f :=
  .ofRatio f negative (d.units * tenPow d.power.toNat) (tenPow (-d.power).toNat)

theorem value_eq_div (d : Decimal) :
    ((d.units * tenPow d.power.toNat : Nat) : ℚ) / (tenPow (-d.power).toNat : Nat) = d.value := by
  rw [Nat.cast_mul, ← zpow_mul_tenPow, ← mul_assoc]
  exact mul_div_cancel_right₀ _ (tenPow_cast_pos _).ne'

theorem round_eq_iff (negative : Bool) (h : f.Canonical m e) (wide : 1 < f.precision) (hm : 0 < m)
    (d : Decimal) :
    d.round f negative = .finite negative m e h ↔ (f.neighbourhood m e).Holds d.value := by
  rw [round, Number.ofRatio_eq_iff negative h wide hm (tenPow_pos _).ne', value_eq_div]

/-- Whether a decimal names a number among those of its format, and none with fewer digits does. -/
structure IsShortest (d : Decimal) (negative : Bool) (x : Number f) : Prop where
  names : d.round f negative = x
  least : ∀ other : Decimal,
    other.round f negative = x → digitCount d.units ≤ digitCount other.units

end Decimal

/-- **What is searched for is what is found**: the shortest decimal names its number, and no decimal
with fewer digits does. -/
theorem Format.isShortest_shortest (negative : Bool) (h : f.Canonical m e) (wide : 1 < f.precision)
    (hm : 0 < m) (enough : twoPow (f.precision + 1) * 10 ≤ tenPow f.decimalDigits) :
    (f.shortest m e).IsShortest negative (.finite negative m e h) where
  names := (Decimal.round_eq_iff negative h wide hm _).2 (holds_shortest h hm enough)
  least := fun other names => digitCount_shortest_le h hm enough
    ((Decimal.round_eq_iff negative h wide hm other).1 names)

end WalletWatch.Binary
