import WalletWatch.Proofs.Numeral.Clearance
import WalletWatch.Proofs.Numeral.Reading
/-!
# A number is read as it was written

A 32-bit number is written with its shortest decimal, and this is read as a 64-bit number before it
is rounded to 32 bits. What is read is off by a part of the decimal, but it stays in the
neighbourhood of the number: on a fine grid the decimal is next to the number and far from the ends
(`holds_of_fine`), and on a coarse one it keeps clear of both ends or is one of them and read
exactly (`holds_of_coarse`). The one decimal that comes nearer is read on the right side of the end
(`double?_nearest`). So rounding gives the number back (`Numeral.exists_double?_shortest`).
-/

namespace WalletWatch

namespace Binary

variable {f : Format} {m : Nat} {e : Int}

theorem two_zpow_eq (e : Int) : (2 : ℚ) ^ e = 2 * 2 ^ (e - 1) := by
  rw [← zpow_one_add₀ two_ne_zero, add_sub_cancel]

/-! ## The ends of a neighbourhood -/

/-- The exponent of the smaller of the gaps beside a number. -/
def Format.gap (f : Format) (m : Nat) (e : Int) : Int :=
  if m = twoPow (f.precision - 1) ∧ f.low < e then e - 1 else e

theorem Format.low_le_gap (h : f.Canonical m e) : f.low ≤ f.gap m e := by
  have := h.2.1
  rw [gap]
  split <;> omega

theorem Format.gap_le (f : Format) (m : Nat) (e : Int) : f.gap m e ≤ e := by
  rw [gap]
  split <;> omega

theorem Format.reach_mul (f : Format) (m : Nat) (e : Int) :
    f.reach m e * 2 ^ e = 2 ^ (f.gap m e - 1) := by
  rw [reach, gap]
  split
  · rw [zpow_sub_one₀ two_ne_zero, zpow_sub_one₀ two_ne_zero]
    ring
  · rw [zpow_sub_one₀ two_ne_zero]
    ring

/-- The ends are multiples of half the gap. -/
structure Ends (n : Neighbourhood) (gap : Int) (lower upper : Nat) : Prop where
  value_lower : value n.lower n.quarter = lower * 2 ^ (gap - 1)
  value_upper : value n.upper n.quarter = upper * 2 ^ (gap - 1)
  lower_pos : 0 < lower
  lower_lt : lower < upper
  upper_lt : upper < midpointLimit

theorem exists_ends (h : single.Canonical m e) (hm : 0 < m) :
    ∃ lower upper, Ends (single.neighbourhood m e) (single.gap m e) lower upper := by
  have small : m < 16777216 := h.1
  have limit : midpointLimit = 33554435 := by decide
  have first : twoPow (single.precision - 1) = 8388608 := by decide
  have lower := single.value_lower hm e
  have upper := single.value_upper m e
  have half := two_zpow_eq e
  have quarter := two_zpow_eq (e - 1)
  -- Below a power of two the gap is halved, and both ends are counted in half of that.
  by_cases narrow : m = twoPow (single.precision - 1) ∧ single.low < e
  · refine ⟨4 * m - 1, 4 * m + 2, ?_⟩
    rw [Format.reach, if_pos narrow] at lower
    rw [Format.gap, if_pos narrow]
    refine ⟨?_, ?_, by omega, by omega, by omega⟩
    · rw [lower, Nat.cast_sub (by omega), half, quarter]
      push_cast
      ring
    · rw [upper, half, quarter]
      push_cast
      ring
  · refine ⟨2 * m - 1, 2 * m + 1, ?_⟩
    rw [Format.reach, if_neg narrow] at lower
    rw [Format.gap, if_neg narrow]
    refine ⟨?_, ?_, by omega, by omega, by omega⟩
    · rw [lower, Nat.cast_sub (by omega), half]
      push_cast
      ring
    · rw [upper, half]
      push_cast
      ring

theorem Ends.le {n : Neighbourhood} {gap : Int} {lower upper : Nat} {d : ℚ}
    (ends : Ends n gap lower upper) (holds : n.Holds d) : d ≤ 33554434 * 2 ^ (gap - 1) := by
  have last : (upper : ℚ) ≤ 33554434 := by
    exact_mod_cast (show upper ≤ 33554434 from Nat.le_of_lt_succ ends.upper_lt)
  calc d ≤ upper * 2 ^ (gap - 1) := ends.value_upper ▸ holds.2.1
    _ ≤ 33554434 * 2 ^ (gap - 1) := by gcongr

/-- What is nearer to a number in an interval than both ends are is in the interval. -/
theorem Neighbourhood.Holds.near {n : Neighbourhood} {d v : ℚ} (holds : n.Holds d)
    (lower : |v - d| < |d - value n.lower n.quarter|)
    (upper : |v - d| < |d - value n.upper n.quarter|) : n.Holds v := by
  obtain ⟨least, greatest, -⟩ := holds
  rw [abs_of_nonneg (sub_nonneg.2 least), abs_lt] at lower
  rw [abs_of_nonpos (sub_nonpos.2 greatest), abs_lt] at upper
  have above : value n.lower n.quarter < v := by linarith [lower.1]
  have below : v < value n.upper n.quarter := by linarith [upper.2]
  exact ⟨above.le, below.le, fun _ => ⟨above.ne', below.ne⟩⟩

/-! ## What a decimal may be off by -/

open Numeral

theorem slack_le (power : Int) : slack power ≤ 9 / 8 / 2 ^ 52 := by
  rw [slack]
  split <;> norm_num

theorem slack_nonneg (power : Int) : 0 ≤ slack power := by
  rw [slack]
  split <;> norm_num

/-- What is read for a decimal is off by less than decimals keep clear of midpoints. -/
theorem off_lt_clearance {n : Neighbourhood} {gap : Int} {lower upper : Nat} {d : ℚ}
    (ends : Ends n gap lower upper) (holds : n.Holds d) (power : Int) :
    d * slack power < clearance power * 2 ^ (gap - 30) := by
  have unit : (0 : ℚ) < 2 ^ (gap - 30) := zpow_pos two_pos _
  have half : (2 : ℚ) ^ (gap - 1) = 2 ^ 29 * 2 ^ (gap - 30) := by
    rw [← zpow_natCast, ← zpow_add₀ two_ne_zero]
    congr 1
    omega
  have greatest := ends.le holds
  rw [half, ← mul_assoc] at greatest
  rw [slack, clearance]
  split
  · calc d * (1 / 2 ^ 53) ≤ 33554434 * 2 ^ 29 * 2 ^ (gap - 30) * (1 / 2 ^ 53) := by gcongr
      _ = 33554434 * 2 ^ 29 / 2 ^ 53 * 2 ^ (gap - 30) := by ring
      _ < (3 : Nat) * 2 ^ (gap - 30) := by
        gcongr
        norm_num
  · calc d * (9 / 8 / 2 ^ 52) ≤ 33554434 * 2 ^ 29 * 2 ^ (gap - 30) * (9 / 8 / 2 ^ 52) := by gcongr
      _ = 33554434 * 2 ^ 29 * (9 / 8) / 2 ^ 52 * 2 ^ (gap - 30) := by ring
      _ < (5 : Nat) * 2 ^ (gap - 30) := by
        gcongr
        norm_num

/-! ## Fine grids and coarse grids -/

/-- What is nearer to a number than half the gap is in its neighbourhood. -/
theorem Format.holds_of_gap (hm : 0 < m) {q : ℚ} (near : |q - value m e| < 2 ^ (f.gap m e - 1)) :
    (f.neighbourhood m e).Holds q := by
  have unit : (0 : ℚ) < 2 ^ e := zpow_pos two_pos e
  have reach := f.reach_le m e
  rw [← f.reach_mul, value] at near
  obtain ⟨above, below⟩ := abs_lt.1 near
  refine holds_of_between hm (by linarith) ?_
  nlinarith

theorem single_enough : twoPow (single.precision + 1) * 10 ≤ tenPow single.decimalDigits := by
  decide

theorem single_bounds (h : single.Canonical m e) (hm : 0 < m) :
    (2 : ℚ) ^ (-149 : Int) ≤ value m e ∧ value m e < 2 ^ (128 : Int) := by
  have least : (1 : ℚ) ≤ m := Nat.one_le_cast.2 hm
  constructor
  · calc (2 : ℚ) ^ (-149 : Int) ≤ 2 ^ e := zpow_le_zpow_right₀ one_le_two h.2.1
      _ ≤ m * 2 ^ e := le_mul_of_one_le_left (zpow_pos two_pos e).le least
  · calc value m e < 2 ^ (e + single.precision) := h.value_lt
      _ ≤ 2 ^ (128 : Int) := zpow_le_zpow_right₀ one_le_two (Int.add_le_add_right h.2.2.1 24)

/-- The shortest decimal of a 32-bit number has at most ten digits, and its power of ten is not far
from one. -/
theorem shortest_bounds (h : single.Canonical m e) (hm : 0 < m) :
    let d := single.shortest m e
    0 < d.units ∧ d.units < twoPow 53 ∧ -54 ≤ d.power ∧ d.power ≤ 38 := by
  intro d
  obtain ⟨-, long, -⟩ := Format.shortest_spec h hm single_enough
  obtain ⟨below, above⟩ := Format.bounds_of_holds hm (Format.holds_shortest h hm single_enough)
  obtain ⟨least, greatest⟩ := single_bounds h hm
  change value m e ≤ 10 ^ 9 * 10 ^ d.power at long
  change value m e ≤ 2 * (d.units * 10 ^ d.power) at below
  change 2 * (d.units * 10 ^ d.power) ≤ 3 * value m e at above
  have step := ten_zpow_pos d.power
  have tiny : (0 : ℚ) < 2 ^ (-149 : Int) := by positivity
  have some : 0 < d.units := by
    refine Nat.pos_of_ne_zero fun none => ?_
    rw [none, Nat.cast_zero, zero_mul, mul_zero] at below
    linarith
  refine ⟨some, ?_, ?_, ?_⟩
  · have digits : (d.units : ℚ) * 10 ^ d.power ≤ 1500000000 * 10 ^ d.power := by linarith
    have : (d.units : ℚ) ≤ 1500000000 := le_of_mul_le_mul_right digits step
    exact (show d.units ≤ 1500000000 by exact_mod_cast this).trans_lt (by decide)
  · by_contra less
    have : (10 : ℚ) ^ d.power ≤ 10 ^ (-55 : Int) := zpow_le_zpow_right₀ (by norm_num) (by omega)
    have : (10 : ℚ) ^ 9 * 10 ^ (-55 : Int) < 2 ^ (-149 : Int) := by norm_num
    linarith
  · by_contra more
    have grid : (10 : ℚ) ^ (39 : Int) ≤ 10 ^ d.power := zpow_le_zpow_right₀ (by norm_num) (by omega)
    have : (1 : ℚ) ≤ d.units := Nat.one_le_cast.2 some
    have : (3 : ℚ) * 2 ^ (128 : Int) < 2 * 10 ^ (39 : Int) := by norm_num
    nlinarith

variable {v : ℚ}

/-- On a grid that is finer than the gap, the decimal is next to the number, and what it is read as
is hardly farther away. -/
theorem holds_of_fine (h : single.Canonical m e) (hm : 0 < m)
    (fine : (10 : ℚ) ^ (single.shortest m e).power < 2 ^ single.gap m e)
    (read : ReadAs (single.shortest m e) v) : (single.neighbourhood m e).Holds v := by
  obtain ⟨hit, -, -⟩ := Format.shortest_spec h hm single_enough
  obtain ⟨-, -, -, greatest⟩ := shortest_bounds h hm
  obtain ⟨lower, upper, ends⟩ := exists_ends h hm
  have last := ends.le (Format.holds_shortest h hm single_enough)
  have half := two_zpow_eq (single.gap m e)
  have unit : (0 : ℚ) < 2 ^ (single.gap m e - 1) := zpow_pos two_pos _
  have apart := le_of_fine greatest (Format.low_le_gap h) fine
  have near := Neighbourhood.near_of_nearest? hit fun q near => Format.holds_of_gap hm (by
    rw [Format.middle_neighbourhood] at near
    linarith)
  rw [Format.middle_neighbourhood, ← Decimal.value] at near
  -- A step is less than the gap by a part that what is read is not off by.
  have small : (single.shortest m e).value * slack (single.shortest m e).power <
      1 / 128 * 2 ^ (single.gap m e - 1) := by
    calc (single.shortest m e).value * slack (single.shortest m e).power
        ≤ 33554434 * 2 ^ (single.gap m e - 1) * (9 / 8 / 2 ^ 52) :=
          mul_le_mul last (slack_le _) (slack_nonneg _) (by positivity)
      _ < 1 / 128 * 2 ^ (single.gap m e - 1) := by
        rw [mul_right_comm]
        gcongr
        norm_num
  refine Format.holds_of_gap hm ?_
  calc |v - value m e| ≤ |v - (single.shortest m e).value| +
        |(single.shortest m e).value - value m e| := abs_sub_le _ _ _
    _ < 2 ^ (single.gap m e - 1) := by linarith [read.off]

/-- The ends are 64-bit numbers. -/
theorem exists_double_of_end {gap : Int} {k : Nat} (low : single.low ≤ gap)
    (high : gap ≤ single.high) (small : k < midpointLimit) :
    ∃ n d, double.Canonical n d ∧ value n d = k * 2 ^ (gap - 1) := by
  have least : double.low ≤ gap - 1 + 1 - double.precision := by
    have : double.low = -1074 ∧ single.low = -149 ∧ double.precision = 53 := by decide
    omega
  have greatest : gap - 1 ≤ double.high := by
    have : double.high = 971 ∧ single.high = 104 := by decide
    omega
  exact exists_canonical_mul least greatest (small.trans (by decide))

/-- On a coarse grid, a decimal is read exactly, or nearer to itself than an end is, or it is the
one that comes nearest to one. -/
theorem clear_of_end {d : Decimal} {gap : Int} {k : Nat} (read : ReadAs d v)
    (within : d.value * slack d.power < clearance d.power * 2 ^ (gap - 30))
    (low : single.low ≤ gap) (high : gap ≤ single.high) (greatest : d.power ≤ 38)
    (coarse : (2 : ℚ) ^ gap ≤ 10 ^ d.power) (positive : 0 < k) (small : k < midpointLimit) :
    v = d.value ∨ |v - d.value| < |d.value - k * 2 ^ (gap - 1)| ∨ d = ⟨7038531, -32⟩ := by
  have least : -45 ≤ d.power := by
    by_contra less
    have : (10 : ℚ) ^ d.power ≤ 10 ^ (-46 : Int) := zpow_le_zpow_right₀ (by norm_num) (by omega)
    have : (2 : ℚ) ^ (-149 : Int) ≤ 2 ^ gap := zpow_le_zpow_right₀ one_le_two low
    have : (10 : ℚ) ^ (-46 : Int) < 2 ^ (-149 : Int) := by norm_num
    linarith
  rcases clearance_of_coarse (u := d.units) least greatest coarse positive small with
    ⟨same, exactly⟩ | far | ⟨power, -, units, -⟩
  · obtain ⟨n, d', canonical, stands⟩ := exists_double_of_end low high small
    exact .inl (read.hit exactly ⟨n, d', canonical, stands.trans same.symm⟩)
  · exact .inr (.inl (read.off.trans_lt (within.trans_le far)))
  · exact .inr (.inr (by rw [← power, ← units]))

/-- On a grid that is at least as coarse as the gap, the decimal is read between both ends, or it is
the one that comes nearest to one. -/
theorem holds_of_coarse (h : single.Canonical m e) (hm : 0 < m)
    (coarse : (2 : ℚ) ^ single.gap m e ≤ 10 ^ (single.shortest m e).power)
    (read : ReadAs (single.shortest m e) v) :
    (single.neighbourhood m e).Holds v ∨ single.shortest m e = ⟨7038531, -32⟩ := by
  have inside := Format.holds_shortest h hm single_enough
  obtain ⟨-, -, -, greatest⟩ := shortest_bounds h hm
  obtain ⟨lower, upper, ends⟩ := exists_ends h hm
  have clear {k : Nat} := clear_of_end (k := k) read (off_lt_clearance ends inside _)
    (Format.low_le_gap h) ((single.gap_le m e).trans h.2.2.1) greatest coarse
  rcases clear ends.lower_pos (ends.lower_lt.trans ends.upper_lt) with same | below | special
  · exact .inl (same ▸ inside)
  · rcases clear (ends.lower_pos.trans ends.lower_lt) ends.upper_lt with same | above | special
    · exact .inl (same ▸ inside)
    · rw [← ends.value_lower] at below
      rw [← ends.value_upper] at above
      exact .inl (inside.near below above)
    · exact .inr special
  · exact .inr special

end Binary

namespace Numeral

open Binary

variable {layout : Layout} {m : Nat} {e : Int}

/-! ## Reading a number back -/

/-- The size of a numeral with its sign, rounded to 32 bits. -/
theorem exists_double?_of_holds {n : Numeral} {k : Nat} {d : Int} {wide : double.Canonical k d}
    (h : single.Canonical m e) (hm : 0 < m) (size : n.size? = some (.finite false k d wide))
    (holds : (single.neighbourhood m e).Holds (value k d)) :
    ∃ v, n.double? = some v ∧ v.convert single = .finite n.negative m e h := by
  rw [← quotient_value] at holds
  rw [double?, size]
  cases n.negative with
  | false => exact ⟨_, rfl, Number.ofRatio_of_holds false h hm (quotient_pos k d).ne' holds⟩
  | true => exact ⟨_, rfl, Number.ofRatio_of_holds true h hm (quotient_pos k d).ne' holds⟩

theorem ratio_nearest : Number.ratio (.ofRatio double false 7038531 1) (tenTo 32) =
    .finite false 6131425250115583 (-136) (by decide) := by
  decide +kernel

theorem convert_nearest : Number.convert single
    (.finite false 6131425250115583 (-136) (by decide) : Double) =
      .finite false 11420669 (-107) (by decide) := by
  decide +kernel

theorem ofRatio_nearest : Number.ofRatio single false 7038531 (tenPow 32) =
    .finite false 11420669 (-107) (by decide) := by
  decide +kernel

/-- The decimal that comes nearest to a midpoint is read on its side of it. -/
theorem double?_nearest (negative : Bool) (narrow : layout.greatest ≤ 13)
    (h : single.Canonical m e) (hm : 0 < m)
    (holds : (single.neighbourhood m e).Holds (Decimal.value ⟨7038531, -32⟩)) :
    ∃ v, (ofDecimal layout negative ⟨7038531, -32⟩).double? = some v ∧
      v.convert single = .finite negative m e h := by
  -- There is only one number with this decimal in its neighbourhood.
  have quotient : ((7038531 : Nat) : ℚ) / tenPow 32 = Decimal.value ⟨7038531, -32⟩ := by
    rw [Decimal.value, cast_tenPow, zpow_neg, div_eq_mul_inv]
    rfl
  have rounded := Number.ofRatio_of_holds false h hm (tenPow_pos 32).ne' (quotient ▸ holds)
  obtain ⟨-, rfl, rfl⟩ := Number.finite.inj (ofRatio_nearest.symm.trans rounded)
  have scientific : (ofDecimal layout negative ⟨7038531, -32⟩).scientific = (7038531, -32) :=
    (scientific_ofDecimal negative (by decide) (narrow.trans (by decide))).resolve_right
      fun whole => absurd whole.1 (by decide)
  have size : (ofDecimal layout negative ⟨7038531, -32⟩).size? =
      some (.finite false 6131425250115583 (-136) (by decide)) := by
    rw [size?, scientific]
    change some (scaleDown _ 32) = _
    rw [scaleDown, if_pos (by decide), ratio_nearest]
  have holds' := Number.holds_of_ofRatio (by decide) hm (quotient_pos _ _).ne' convert_nearest
  rw [quotient_value] at holds'
  obtain ⟨v, read, back⟩ := exists_double?_of_holds h hm size holds'
  rw [negative_ofDecimal] at back
  exact ⟨v, read, back⟩

/-- **A number is read as it was written**: the shortest decimal of a 32-bit number, read as a
64-bit number and rounded to 32 bits, is the number. -/
theorem exists_double?_shortest (negative : Bool) (narrow : layout.greatest ≤ 13)
    (h : single.Canonical m e) (hm : 0 < m) :
    ∃ v, (ofDecimal layout negative (single.shortest m e)).double? = some v ∧
      v.convert single = .finite negative m e h := by
  obtain ⟨positive, fits, least, greatest⟩ := shortest_bounds h hm
  obtain ⟨k, d, wide, size, read⟩ :=
    exists_size?_ofDecimal negative narrow positive fits (by omega)
  have inside : (single.neighbourhood m e).Holds (value k d) ∨
      single.shortest m e = ⟨7038531, -32⟩ := by
    rcases lt_or_ge ((10 : ℚ) ^ (single.shortest m e).power) (2 ^ single.gap m e) with fine | coarse
    · exact .inl (holds_of_fine h hm fine read)
    · exact holds_of_coarse h hm coarse read
  rcases inside with holds | special
  · obtain ⟨v, read, rounded⟩ := exists_double?_of_holds h hm size holds
    rw [negative_ofDecimal] at rounded
    exact ⟨v, read, rounded⟩
  · have holds := Format.holds_shortest h hm single_enough
    rw [special] at holds ⊢
    exact double?_nearest negative narrow h hm holds

end Numeral

end WalletWatch
