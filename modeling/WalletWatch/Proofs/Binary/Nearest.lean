import WalletWatch.Binary.Shortest
import WalletWatch.Proofs.Binary.Exact
/-!
# The nearest number of a format

Rounding a quotient to a whole number takes the nearest one (`roundHalfEven_eq_iff`), and rounding
it to a format takes the number whose neighbourhood it lies in (`Number.ofRatio_eq_iff`): the reals
that round to a number are an interval, ends included if the significand is even. What is rounded
far from the ends of a format is off by a part of itself that is fixed for the format
(`Number.exists_ofRatio`).
-/

namespace WalletWatch.Binary

/-! ## The nearest whole number -/

/-- A whole number is nearest to a number, and if another one is as near, it is the even one. -/
def IsNearest (q : ℚ) (k : Nat) : Prop :=
  |q - k| ≤ 1 / 2 ∧ (|q - k| = 1 / 2 → k % 2 = 0)

theorem IsNearest.unique {q : ℚ} {k n : Nat} (hk : IsNearest q k) (hn : IsNearest q n) : k = n := by
  wlog less : k < n generalizing k n
  · rcases Nat.lt_trichotomy k n with h | h | h
    · exact absurd h less
    · exact h
    · exact (this hn hk h).symm
  obtain ⟨near, even⟩ := hk
  obtain ⟨near', even'⟩ := hn
  have gap : (k : ℚ) + 1 ≤ n := by exact_mod_cast less
  have upper := (abs_le.1 near).2
  have lower := (abs_le.1 near').1
  -- Both are half a unit away, on two sides, so they are next to each other and both even.
  have half : q - k = 1 / 2 := by linarith
  have half' : q - n = -(1 / 2) := by linarith
  have next : n = k + 1 := by
    have : (n : ℚ) = k + 1 := by linarith
    exact_mod_cast this
  have := even (by rw [half]; norm_num)
  have := even' (by rw [half']; norm_num)
  omega

theorem isNearest_roundHalfEven (num : Nat) {den : Nat} (hden : 0 < den) :
    IsNearest (num / den) (roundHalfEven num den) := by
  have below : (0 : ℚ) < den := Nat.cast_pos.2 hden
  have parts : (num : ℚ) = den * ((num / den : Nat) : ℚ) + ((num % den : Nat) : ℚ) := by
    exact_mod_cast (Nat.div_add_mod num den).symm
  have quotient : (num / den : ℚ) = ((num / den : Nat) : ℚ) + ((num % den : Nat) : ℚ) / den := by
    rw [parts, add_div, mul_div_cancel_left₀ _ below.ne']
  have rest : ((num % den : Nat) : ℚ) / den < 1 := by
    rw [div_lt_one below]
    exact_mod_cast Nat.mod_lt num hden
  have least : 0 ≤ ((num % den : Nat) : ℚ) / den := by positivity
  have half : ((num % den : Nat) : ℚ) / den < 1 / 2 ↔ 2 * (num % den) < den := by
    rw [div_lt_div_iff₀ below two_pos]
    norm_cast
    omega
  have half' : ((num % den : Nat) : ℚ) / den = 1 / 2 ↔ 2 * (num % den) = den := by
    rw [div_eq_div_iff below.ne' two_ne_zero]
    norm_cast
    omega
  rw [roundHalfEven, quotient]
  generalize ((num % den : Nat) : ℚ) / den = part at *
  split
  · next up =>
    have above : 1 / 2 ≤ part := not_lt.1 fun small => by have := half.1 small; omega
    have distance : |((num / den : Nat) : ℚ) + part - ((num / den + 1 : Nat) : ℚ)| = 1 - part := by
      rw [abs_of_nonpos] <;> push_cast <;> linarith
    rw [IsNearest, distance]
    refine ⟨by linarith, fun tie => ?_⟩
    have := half'.1 (by linarith)
    omega
  · next down =>
    have below : part ≤ 1 / 2 := by
      rcases lt_trichotomy part (1 / 2) with h | h | h
      · exact h.le
      · exact h.le
      · have := mt half.2 (not_lt.2 h.le)
        have := mt half'.2 h.ne'
        omega
    have distance : |((num / den : Nat) : ℚ) + part - ((num / den : Nat) : ℚ)| = part := by
      rw [add_sub_cancel_left, abs_of_nonneg least]
    rw [IsNearest, distance]
    refine ⟨below, fun tie => ?_⟩
    have := half'.1 tie
    omega

theorem roundHalfEven_eq_iff {num den k : Nat} (hden : 0 < den) :
    roundHalfEven num den = k ↔ IsNearest (num / den) k :=
  ⟨fun h => h ▸ isNearest_roundHalfEven num hden,
    fun h => (isNearest_roundHalfEven num hden).unique h⟩

/-! ## The unit of a quotient -/

variable {f : Format} {m num den : Nat} {e : Int}

/-- The unit of a quotient is the one in which its significand has the full length, or the least
unit of the format if that is greater. -/
theorem unitExponent_eq_iff (hnum : num ≠ 0) (hden : den ≠ 0) :
    Number.unitExponent f num den = e ↔ f.low ≤ e ∧ (num / den : ℚ) < 2 ^ (e + f.precision) ∧
      (e = f.low ∨ (2 : ℚ) ^ (e + f.precision - 1) ≤ num / den) := by
  have positive := cast_div_pos hnum hden
  have upper : (num / den : ℚ) < 2 ^ (e + f.precision) ↔
      Int.log 2 (num / den : ℚ) < e + f.precision := Int.lt_zpow_iff_log_lt one_lt_two positive
  have lower : (2 : ℚ) ^ (e + f.precision - 1) ≤ num / den ↔
      e + f.precision - 1 ≤ Int.log 2 (num / den : ℚ) :=
    Int.zpow_le_iff_le_log one_lt_two positive
  rw [upper, lower, Number.unitExponent, floorLog2_eq_log hnum hden]
  omega

/-- A quotient, counted in a unit. -/
theorem scaled_div (num den : Nat) (e : Int) :
    ((num * twoPow (-e).toNat : Nat) : ℚ) / ((den * twoPow e.toNat : Nat) : ℚ) =
      num / den / 2 ^ e := by
  rw [Nat.cast_mul, Nat.cast_mul, ← zpow_mul_twoPow e, div_div, ← mul_assoc,
    mul_div_mul_right _ _ (twoPow_cast_pos _).ne']

/-- Rounding by the unit and the significand that it takes. -/
theorem Number.ofRatio_of_unit {k : Nat} (negative : Bool) (hnum : num ≠ 0) (hden : den ≠ 0)
    (unit : unitExponent f num den = e) (nearest : IsNearest (num / den / 2 ^ e) k) :
    ofRatio f negative num den =
      if k = twoPow f.precision then ofParts f negative (twoPow (f.precision - 1)) (e + 1)
      else ofParts f negative k e := by
  have counted : roundHalfEven (num * twoPow (-e).toNat) (den * twoPow e.toNat) = k := by
    rw [roundHalfEven_eq_iff (Nat.mul_pos (Nat.pos_of_ne_zero hden) (twoPow_pos _)), scaled_div]
    exact nearest
  simp only [ofRatio, if_neg hnum, unit, counted]

/-! ## The neighbourhood of a number -/

/-- Whether a number lies in an interval, the ends included if they belong to it. -/
def Neighbourhood.Holds (n : Neighbourhood) (q : ℚ) : Prop :=
  value n.lower n.quarter ≤ q ∧ q ≤ value n.upper n.quarter ∧
    (n.closed = false → q ≠ value n.lower n.quarter ∧ q ≠ value n.upper n.quarter)

namespace Format

/-- How far a neighbourhood reaches below its number, in units: the gap below a power of two is half
as wide as the gap above it. -/
def reach (f : Format) (m : Nat) (e : Int) : ℚ :=
  if m = twoPow (f.precision - 1) ∧ f.low < e then 1 / 4 else 1 / 2

theorem reach_pos (f : Format) (m : Nat) (e : Int) : 0 < f.reach m e := by
  rw [reach]
  split <;> norm_num

theorem reach_le (f : Format) (m : Nat) (e : Int) : f.reach m e ≤ 1 / 2 := by
  rw [reach]
  split <;> norm_num

theorem value_upper (f : Format) (m : Nat) (e : Int) :
    value (f.neighbourhood m e).upper (f.neighbourhood m e).quarter = (m + 1 / 2) * 2 ^ e := by
  rw [neighbourhood, value, zpow_sub₀ two_ne_zero]
  push_cast
  ring

theorem value_lower (f : Format) (hm : 0 < m) (e : Int) :
    value (f.neighbourhood m e).lower (f.neighbourhood m e).quarter =
      (m - f.reach m e) * 2 ^ e := by
  simp only [neighbourhood, value, reach, zpow_sub₀ (two_ne_zero' ℚ)]
  split <;> rw [Nat.cast_sub (by omega)] <;> push_cast <;> ring

/-- A neighbourhood, in units of its number. -/
theorem holds_neighbourhood_iff (hm : 0 < m) {q : ℚ} :
    (f.neighbourhood m e).Holds q ↔
      m - f.reach m e ≤ q / 2 ^ e ∧ q / 2 ^ e ≤ m + 1 / 2 ∧
        (m % 2 = 1 → q / 2 ^ e ≠ m - f.reach m e ∧ q / 2 ^ e ≠ m + 1 / 2) := by
  have unit : (0 : ℚ) < 2 ^ e := zpow_pos two_pos e
  have odd : (f.neighbourhood m e).closed = false ↔ m % 2 = 1 := by
    rw [neighbourhood, beq_eq_false_iff_ne]
    omega
  rw [Neighbourhood.Holds, value_lower f hm, value_upper, odd, le_div_iff₀ unit,
    div_le_iff₀ unit, ne_eq, ne_eq, ne_eq, ne_eq, div_eq_iff unit.ne', div_eq_iff unit.ne']

theorem twoPow_precision (f : Format) : twoPow f.precision = 2 * twoPow (f.precision - 1) := by
  have length : f.precision = 1 + (f.precision - 1) := by
    have := f.precision_pos
    omega
  exact (congrArg twoPow length).trans (twoPow_add 1 _)

/-- The power of two of the first bit of a significand of full length. -/
theorem zpow_first (f : Format) (e : Int) :
    (2 : ℚ) ^ (e + f.precision - 1) = twoPow (f.precision - 1) * 2 ^ e := by
  have := f.precision_pos
  rw [cast_twoPow, ← zpow_natCast, ← zpow_add₀ two_ne_zero]
  congr 1
  omega

/-- The power of two behind the last bit of a significand. -/
theorem zpow_behind (f : Format) (e : Int) :
    (2 : ℚ) ^ (e + f.precision) = 2 * twoPow (f.precision - 1) * 2 ^ e := by
  rw [mul_assoc, ← zpow_first, ← zpow_one_add₀ two_ne_zero]
  congr 1
  omega

end Format

namespace Number

theorem ofParts_eq_iff {k : Nat} {d : Int} {negative : Bool} {h : f.Canonical m e} :
    ofParts f negative k d = .finite negative m e h ↔ k = m ∧ d = e := by
  rw [ofParts]
  split
  · simp
  · next odd =>
    constructor
    · intro same
      cases same
    · rintro ⟨rfl, rfl⟩
      exact absurd h odd

theorem ne_zero_of_quotient_pos (h : (0 : ℚ) < num / den) : num ≠ 0 := by
  rintro rfl
  rw [Nat.cast_zero, zero_div] at h
  exact h.false

/-- A quotient that is counted in the unit of a number and is nearest to its significand is rounded
to the number. -/
theorem ofRatio_of_isNearest (negative : Bool) (h : f.Canonical m e) (hnum : num ≠ 0)
    (hden : den ≠ 0) (first : e = f.low ∨ (twoPow (f.precision - 1) : ℚ) ≤ num / den / 2 ^ e)
    (nearest : IsNearest (num / den / 2 ^ e) m) :
    ofRatio f negative num den = .finite negative m e h := by
  have unit : (0 : ℚ) < 2 ^ e := zpow_pos two_pos e
  have small : (m : ℚ) + 1 ≤ 2 * twoPow (f.precision - 1) := by
    have := f.twoPow_precision ▸ h.1
    exact_mod_cast this
  have behind := (abs_le.1 nearest.1).2
  have found : unitExponent f num den = e := by
    rw [unitExponent_eq_iff hnum hden, f.zpow_behind, f.zpow_first, ← div_lt_iff₀ unit,
      ← le_div_iff₀ unit]
    exact ⟨h.2.1, by linarith, first⟩
  rw [ofRatio_of_unit negative hnum hden found nearest, if_neg h.1.ne, ofParts_eq_iff]
  exact ⟨rfl, rfl⟩

/-- Below a power of two the unit is half as large; a significand that is nearest to the next power
of two is carried. -/
theorem ofRatio_of_carry (negative : Bool) (h : f.Canonical m e) (hnum : num ≠ 0) (hden : den ≠ 0)
    (full : m = twoPow (f.precision - 1)) (more : f.low < e)
    (lower : (m - 1 / 4 : ℚ) ≤ num / den / 2 ^ e) (less : (num / den / 2 ^ e : ℚ) < m) :
    ofRatio f negative num den = .finite negative m e h := by
  have unit : (0 : ℚ) < 2 ^ e := zpow_pos two_pos e
  have least : (1 : ℚ) ≤ m := Nat.one_le_cast.2 (full ▸ twoPow_pos _)
  have halfUnit : (2 : ℚ) ^ (e - 1) = 2 ^ e / 2 := zpow_sub_one₀ two_ne_zero e
  have counted : (num / den : ℚ) / 2 ^ (e - 1) = 2 * ((num / den : ℚ) / 2 ^ e) := by
    rw [halfUnit]
    field_simp
  have found : unitExponent f num den = e - 1 := by
    rw [unitExponent_eq_iff hnum hden, f.zpow_behind, f.zpow_first, ← full, halfUnit]
    refine ⟨by omega, ?_, .inr ?_⟩
    · have := (div_lt_iff₀ unit).1 less
      linarith
    · rw [← mul_div_assoc, mul_div_right_comm, ← le_div_iff₀ unit]
      linarith
  have nearest : IsNearest ((num / den : ℚ) / 2 ^ (e - 1)) (twoPow f.precision) := by
    rw [counted, f.twoPow_precision, ← full, IsNearest, Nat.cast_mul, Nat.cast_two,
      abs_of_nonpos (by linarith)]
    exact ⟨by linarith, fun _ => Nat.mul_mod_right 2 m⟩
  rw [ofRatio_of_unit negative hnum hden found nearest, if_pos rfl, ofParts_eq_iff]
  exact ⟨full.symm, by omega⟩

/-- Half a unit around a number lie the quotients that its significand is nearest to. -/
theorem isNearest_of_holds (hm : 0 < m) {q : ℚ} (holds : (f.neighbourhood m e).Holds q) :
    IsNearest (q / 2 ^ e) m := by
  obtain ⟨lower, upper, inner⟩ := (f.holds_neighbourhood_iff hm).1 holds
  have reach := f.reach_le m e
  refine ⟨abs_le.2 ⟨by linarith, by linarith⟩, fun tie => ?_⟩
  by_contra odd
  obtain ⟨below, above⟩ := inner (by omega)
  rcases (abs_eq (by norm_num)).1 tie with high | low
  · exact above (by linarith)
  · exact below (by linarith)

/-- A quotient in the neighbourhood of a number is rounded to it. -/
theorem ofRatio_of_holds (negative : Bool) (h : f.Canonical m e) (hm : 0 < m) (hden : den ≠ 0)
    (near : (f.neighbourhood m e).Holds (num / den)) :
    ofRatio f negative num den = .finite negative m e h := by
  have unit : (0 : ℚ) < 2 ^ e := zpow_pos two_pos e
  have least : (1 : ℚ) ≤ m := Nat.one_le_cast.2 hm
  have nearest := isNearest_of_holds hm near
  have lower := (f.holds_neighbourhood_iff hm).1 near |>.1
  have reach := f.reach_le m e
  have positive : (0 : ℚ) < num / den / 2 ^ e := by linarith
  have hnum := ne_zero_of_quotient_pos ((div_pos_iff_of_pos_right unit).1 positive)
  by_cases halved : (m = twoPow (f.precision - 1) ∧ f.low < e) ∧ (num / den : ℚ) / 2 ^ e < m
  · obtain ⟨⟨full, more⟩, less⟩ := halved
    rw [Format.reach, if_pos ⟨full, more⟩] at lower
    exact ofRatio_of_carry negative h hnum hden full more lower less
  · refine ofRatio_of_isNearest negative h hnum hden ?_ nearest
    rcases h.2.2.2 with full | same
    · rcases full.eq_or_lt with same | more
      · by_cases bottom : e = f.low
        · exact .inl bottom
        · refine .inr (not_lt.1 fun less => halved ⟨⟨same.symm, ?_⟩, same ▸ less⟩)
          have := h.2.1
          omega
      · right
        have : (twoPow (f.precision - 1) : ℚ) + 1 ≤ m := by exact_mod_cast more
        linarith
    · exact .inl same

/-- What rounding makes of a quotient, by its unit and the significand that is nearest to it. -/
theorem exists_unit (f : Format) (negative : Bool) (hnum : num ≠ 0) (hden : den ≠ 0) : ∃ k d,
    (f.low ≤ d ∧ (num / den : ℚ) < 2 ^ (d + f.precision) ∧
      (d = f.low ∨ (2 : ℚ) ^ (d + f.precision - 1) ≤ num / den)) ∧
    IsNearest (num / den / 2 ^ d) k ∧
    ofRatio f negative num den =
      if k = twoPow f.precision then ofParts f negative (twoPow (f.precision - 1)) (d + 1)
      else ofParts f negative k d := by
  obtain ⟨d, found⟩ : ∃ d, unitExponent f num den = d := ⟨_, rfl⟩
  have nearest := isNearest_roundHalfEven (num * twoPow (-d).toNat)
    (Nat.mul_pos (Nat.pos_of_ne_zero hden) (twoPow_pos d.toNat))
  rw [scaled_div] at nearest
  exact ⟨_, d, (unitExponent_eq_iff hnum hden).1 found, nearest,
    ofRatio_of_unit negative hnum hden found nearest⟩

/-- A quotient that is rounded to a number lies in its neighbourhood. -/
theorem holds_of_ofRatio {negative : Bool} {h : f.Canonical m e} (wide : 1 < f.precision)
    (hm : 0 < m) (hden : den ≠ 0)
    (rounded : ofRatio f negative num den = .finite negative m e h) :
    (f.neighbourhood m e).Holds (num / den) := by
  have hnum : num ≠ 0 := by
    rintro rfl
    rw [ofRatio, if_pos rfl, zero, Number.finite.injEq] at rounded
    omega
  obtain ⟨k, d, ⟨low, -, first⟩, ⟨near, even⟩, parts⟩ := exists_unit f negative hnum hden
  rw [parts] at rounded
  obtain ⟨above, below⟩ := abs_le.1 near
  rw [f.holds_neighbourhood_iff hm]
  split at rounded
  · next carried =>
    -- The quotient is below a power of two, and nearer to it than a quarter of its unit.
    obtain ⟨rfl, rfl⟩ := ofParts_eq_iff.1 rounded
    have evenFirst : twoPow (f.precision - 1) % 2 = 0 := by
      rw [show f.precision - 1 = 1 + (f.precision - 2) by omega, twoPow_add]
      exact Nat.mul_mod_right 2 _
    have counted : (num / den : ℚ) / 2 ^ (d + 1) = (num / den : ℚ) / 2 ^ d / 2 := by
      rw [zpow_add_one₀ two_ne_zero, div_div _ _ (2 : ℚ)]
    rw [carried, f.twoPow_precision, Nat.cast_mul, Nat.cast_two] at above below
    rw [counted, Format.reach, if_pos ⟨rfl, by omega⟩]
    exact ⟨by linarith, by linarith, fun odd => by omega⟩
  · obtain ⟨rfl, rfl⟩ := ofParts_eq_iff.1 rounded
    have notUpper (odd : k % 2 = 1) : (num / den : ℚ) / 2 ^ d ≠ k + 1 / 2 := fun tie => by
      have := even (by rw [tie, add_sub_cancel_left]; norm_num)
      omega
    rw [Format.reach]
    split
    · next narrow =>
      have full := first.resolve_left narrow.2.ne'
      rw [f.zpow_first, ← narrow.1, ← le_div_iff₀ (zpow_pos two_pos d)] at full
      exact ⟨by linarith, by linarith, fun odd => ⟨fun tie => by linarith, notUpper odd⟩⟩
    · refine ⟨by linarith, by linarith, fun odd => ⟨fun tie => ?_, notUpper odd⟩⟩
      have := even (by rw [tie, sub_sub_cancel_left]; norm_num)
      omega

/-- **A quotient is rounded to the number in whose neighbourhood it lies**, and to no other. -/
theorem ofRatio_eq_iff (negative : Bool) (h : f.Canonical m e) (wide : 1 < f.precision)
    (hm : 0 < m) (hden : den ≠ 0) :
    ofRatio f negative num den = .finite negative m e h ↔
      (f.neighbourhood m e).Holds (num / den) :=
  ⟨holds_of_ofRatio wide hm hden, ofRatio_of_holds negative h hm hden⟩

/-! ## How far off -/

/-- Half a unit is at most the part of a number that the length of a significand leaves. -/
theorem value_near {k : Nat} {d : Int} {q : ℚ} (full : (2 : ℚ) ^ (d + f.precision - 1) ≤ q)
    (near : |q / 2 ^ d - k| ≤ 1 / 2) : |value k d - q| ≤ q / 2 ^ f.precision := by
  have unit : (0 : ℚ) < 2 ^ d := zpow_pos two_pos d
  have scaled : value k d - q = -((q / 2 ^ d - k) * 2 ^ d) := by
    rw [value, sub_mul, div_mul_cancel₀ _ unit.ne']
    ring
  have size : (2 : ℚ) ^ f.precision = 2 * twoPow (f.precision - 1) := by
    rw [← cast_twoPow, f.twoPow_precision, Nat.cast_mul, Nat.cast_two]
  rw [f.zpow_first] at full
  rw [scaled, abs_neg, abs_mul, abs_of_pos unit, size,
    le_div_iff₀ (mul_pos two_pos (twoPow_cast_pos _))]
  calc |q / 2 ^ d - k| * 2 ^ d * (2 * twoPow (f.precision - 1))
      ≤ 1 / 2 * 2 ^ d * (2 * twoPow (f.precision - 1)) := by gcongr
    _ = twoPow (f.precision - 1) * 2 ^ d := by ring
    _ ≤ q := full

/-- Between two powers of two the significands have their full length, or are carried. -/
theorem significand_bounds {k : Nat} {q : ℚ} (full : (twoPow (f.precision - 1) : ℚ) ≤ q)
    (behind : q < 2 * twoPow (f.precision - 1)) (near : |q - k| ≤ 1 / 2) :
    twoPow (f.precision - 1) ≤ k ∧ k ≤ twoPow f.precision := by
  obtain ⟨above, below⟩ := abs_le.1 near
  rw [f.twoPow_precision]
  constructor
  · have : ((twoPow (f.precision - 1) : Nat) : ℚ) < (k + 1 : Nat) := by
      push_cast
      linarith
    exact Nat.lt_succ_iff.1 (Nat.cast_lt.1 this)
  · have : (k : ℚ) < (2 * twoPow (f.precision - 1) + 1 : Nat) := by
      push_cast
      linarith
    exact Nat.lt_succ_iff.1 (Nat.cast_lt.1 this)

/-- A quotient that is far from both ends of a format is rounded to a number that differs from it by
at most a part of it. -/
theorem exists_ofRatio (negative : Bool) (hden : den ≠ 0)
    (least : (2 : ℚ) ^ (f.low + f.precision - 1) ≤ num / den)
    (greatest : (num / den : ℚ) < 2 ^ (f.high + f.precision - 1)) :
    ∃ m e h, ofRatio f negative num den = .finite negative m e h ∧
      |value m e - num / den| ≤ num / den / 2 ^ f.precision := by
  have hnum := ne_zero_of_quotient_pos ((zpow_pos two_pos _).trans_le least)
  obtain ⟨k, d, ⟨low, behind, first⟩, ⟨near, -⟩, parts⟩ := exists_unit f negative hnum hden
  have full : (2 : ℚ) ^ (d + f.precision - 1) ≤ num / den := by
    rcases first with rfl | first
    · exact least
    · exact first
  have high : d < f.high := by
    have := (zpow_lt_zpow_iff_right₀ one_lt_two).1 (full.trans_lt greatest)
    omega
  have unit : (0 : ℚ) < 2 ^ d := zpow_pos two_pos d
  have off := value_near full near
  rw [f.zpow_first, ← le_div_iff₀ unit] at full
  rw [f.zpow_behind, ← div_lt_iff₀ unit] at behind
  obtain ⟨shortest, longest⟩ := significand_bounds full behind near
  by_cases carried : k = twoPow f.precision
  · rw [if_pos carried] at parts
    have canonical : f.Canonical (twoPow (f.precision - 1)) (d + 1) := by
      have := f.twoPow_precision
      have := twoPow_pos (f.precision - 1)
      exact ⟨by omega, by omega, by omega, .inl (Nat.le_refl _)⟩
    have same : value (twoPow (f.precision - 1)) (d + 1) = value k d := by
      rw [carried, f.twoPow_precision, value, value, zpow_add_one₀ two_ne_zero]
      push_cast
      ring
    exact ⟨_, _, canonical, parts.trans (ofParts_eq_iff.2 ⟨rfl, rfl⟩), same ▸ off⟩
  · rw [if_neg carried] at parts
    have canonical : f.Canonical k d :=
      ⟨lt_of_le_of_ne longest carried, low, high.le, .inl shortest⟩
    exact ⟨_, _, canonical, parts.trans (ofParts_eq_iff.2 ⟨rfl, rfl⟩), off⟩

end Number

end WalletWatch.Binary
