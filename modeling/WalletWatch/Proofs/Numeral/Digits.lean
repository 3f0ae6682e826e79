import WalletWatch.Numeral.Basic
import WalletWatch.Numeral.Power
/-!
# Digits

The digits of a number write this number, without a zero in front (`number_digitsOf`,
`exists_digitsOf_digitCount`); and how many there are (`digitCount_le`, `digitCount_mul_tenPow`).
-/

namespace WalletWatch

theorem tenPow_zero : tenPow 0 = 1 := rfl

theorem tenPow_succ (n : Nat) : tenPow (n + 1) = 10 * tenPow n := by
  rw [tenPow, tenPow, Nat.pow_eq, Nat.pow_eq, Nat.pow_succ, Nat.mul_comm]

theorem tenPow_add (m n : Nat) : tenPow (m + n) = tenPow m * tenPow n := Nat.pow_add 10 m n

theorem tenPow_le {m n : Nat} (h : m ≤ n) : tenPow m ≤ tenPow n :=
  Nat.pow_le_pow_right (by decide) h

namespace Digit

@[simp] theorem ofChar?_toChar (d : Digit) : ofChar? (toChar d) = some d := by
  revert d
  decide

theorem number_append_singleton (start : Nat) (ds : List Digit) (d : Digit) :
    number start (ds ++ [d]) = 10 * number start ds + d.val := by
  rw [number, List.foldl_append]
  rfl

theorem le_number (start : Nat) (ds : List Digit) : start ≤ number start ds := by
  induction ds generalizing start with
  | nil => exact Nat.le_refl start
  | cons d ds ih =>
    have := ih (10 * start + d.val)
    change start ≤ number (10 * start + d.val) ds
    omega

end Digit

/-- The last digits of a number write it, continuing from what is in front of them. -/
theorem number_digitsOf_div (count n : Nat) :
    Digit.number (n / tenPow count) (digitsOf count n) = n := by
  induction count generalizing n with
  | zero => exact Nat.div_one n
  | succ count ih =>
    rw [digitsOf, Digit.number_append_singleton, tenPow_succ, ← Nat.div_div_eq_div_mul, ih]
    exact Nat.div_add_mod n 10

theorem number_digitsOf {count n : Nat} (h : n < tenPow count) :
    Digit.number 0 (digitsOf count n) = n := by
  have all := number_digitsOf_div count n
  rwa [Nat.div_eq_of_lt h] at all

theorem length_digitsOf (count n : Nat) : (digitsOf count n).length = count := by
  induction count generalizing n with
  | zero => rfl
  | succ count ih => rw [digitsOf, List.length_append, ih, List.length_singleton]

theorem lt_tenPow_digitCount (n : Nat) : n < tenPow (digitCount n) := by
  fun_induction digitCount n with
  | case1 n small => exact small
  | case2 n large ih =>
    rw [tenPow_succ]
    omega

/-- Zeros behind a number make it no greater than a power of ten with as many digits more. -/
theorem mul_tenPow_lt (n power : Nat) : n * tenPow power < tenPow (digitCount n + power) := by
  rw [tenPow_add]
  exact Nat.mul_lt_mul_of_pos_right (lt_tenPow_digitCount n) (tenPow_pos power)

/-- The digits of a number have no zero in front, unless it is all there is. -/
theorem exists_digitsOf_digitCount (n : Nat) :
    ∃ d ds, digitsOf (digitCount n) n = d :: ds ∧ (d.val = 0 → ds = []) := by
  fun_induction digitCount n with
  | case1 n small => exact ⟨_, _, rfl, fun _ => rfl⟩
  | case2 n large ih =>
    obtain ⟨d, ds, digits, leading⟩ := ih
    refine ⟨d, _, by rw [digitsOf, digits, List.cons_append], fun zero => ?_⟩
    have value := number_digitsOf (lt_tenPow_digitCount (n / 10))
    rw [digits, leading zero] at value
    have : n / 10 = 0 := by rw [← value]; simp [Digit.number, zero]
    omega

theorem digitCount_pos (n : Nat) : 0 < digitCount n := by
  rw [digitCount]
  split <;> omega

theorem digitCount_le {n count : Nat} (positive : 0 < count) (h : n < tenPow count) :
    digitCount n ≤ count := by
  fun_induction digitCount n generalizing count with
  | case1 n small => exact positive
  | case2 n large ih =>
    obtain _ | count := count
    · exact absurd positive (Nat.lt_irrefl 0)
    rw [tenPow_succ] at h
    have several : 0 < count := by
      refine Nat.pos_of_ne_zero fun single => ?_
      rw [single] at h
      exact large h
    exact Nat.succ_le_succ (ih several (by omega))

/-- A number that is not zero has a digit for each power of ten that is not greater. -/
theorem tenPow_le_of_digitCount {n : Nat} (h : 0 < n) : tenPow (digitCount n - 1) ≤ n := by
  refine Nat.not_lt.1 fun less => ?_
  have := digitCount_pos n
  rcases Nat.eq_zero_or_pos (digitCount n - 1) with single | several
  · rw [single] at less
    exact absurd less (Nat.not_lt.2 h)
  · have := digitCount_le several less
    omega

/-- A zero behind a number is one digit more. -/
theorem digitCount_mul_tenPow {n : Nat} (h : 0 < n) (power : Nat) :
    digitCount (n * tenPow power) = digitCount n + power := by
  induction power with
  | zero => rw [tenPow_zero, Nat.mul_one, Nat.add_zero]
  | succ power ih =>
    have := Nat.mul_pos h (tenPow_pos power)
    rw [tenPow_succ, Nat.mul_left_comm, digitCount, if_neg (by omega),
      Nat.mul_div_cancel_left _ (by decide), ih, Nat.add_assoc]

end WalletWatch
