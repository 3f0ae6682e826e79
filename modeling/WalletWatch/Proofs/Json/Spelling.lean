import WalletWatch.Proofs.Json.Tokens
/-!
# What the writer spells

The writer has one text for each numeral, string literal and token, out of the many that the grammar
allows (`numeralText_spell`, `literal_quote`).
-/

namespace WalletWatch.Json

/-! ## Numerals -/

def fractionText (fraction : List Digit) : List Char :=
  if fraction.isEmpty then [] else '.' :: fraction.map Digit.toChar

def exponentText : Option Int → List Char
  | none => []
  | some power => 'e' :: (if power < 0 then '-' else '+') :: natText power.natAbs

theorem numeralText_append (n : Numeral) : numeralText n =
    (if n.negative then ['-'] else []) ++
      (natText n.whole ++ (fractionText n.fraction ++ exponentText n.exponent)) := by
  obtain ⟨negative, whole, fraction, exponent⟩ := n
  cases exponent <;> simp only [numeralText, fractionText, exponentText, List.append_assoc]

theorem exists_natText (n : Nat) : ∃ d ds, natText n = (d :: ds).map Digit.toChar ∧
    Digit.number 0 (d :: ds) = n ∧ (d = 0 → ds = []) := by
  obtain ⟨d, ds, digits, leading⟩ := exists_digitsOf_digitCount n
  have value := number_digitsOf (lt_tenPow_digitCount n)
  rw [digits] at value
  exact ⟨d, ds, by rw [natText, digits], value, fun zero => leading (congrArg Fin.val zero)⟩

theorem wholeText_natText (n : Nat) : WholeText n (natText n) := by
  obtain ⟨d, ds, text, value, leading⟩ := exists_natText n
  rw [text, ← value]
  exact .digits leading

theorem fractionText_spell (fraction : List Digit) :
    FractionText fraction (fractionText fraction) := by
  cases fraction with
  | nil => exact .absent
  | cons d ds => exact .digits

theorem exponentText_spell (exponent : Option Int) :
    ExponentText exponent (exponentText exponent) := by
  cases exponent with
  | none => exact .absent
  | some power =>
    obtain ⟨d, ds, text, value, -⟩ := exists_natText power.natAbs
    by_cases negative : power < 0
    · have same : power = if true then -(Digit.number 0 (d :: ds) : Int) else
          Digit.number 0 (d :: ds) := by
        rw [if_pos rfl, value]
        omega
      rw [exponentText, text, if_pos negative, same]
      exact .digits (.inl rfl) .minus
    · have same : power = if false then -(Digit.number 0 (d :: ds) : Int) else
          Digit.number 0 (d :: ds) := by
        rw [if_neg Bool.false_ne_true, value]
        omega
      rw [exponentText, text, if_neg negative, same]
      exact .digits (.inl rfl) .plus

theorem numeralText_spell (n : Numeral) : NumeralText n (numeralText n) :=
  ⟨_, _, _, numeralText_append n, wholeText_natText _, fractionText_spell _, exponentText_spell _⟩

/-! ## String literals -/

/-- A character below the space is written by its code. -/
theorem codeEscape_hexLower {n : Nat} (h : n < 32) :
    CodeEscape n ['\\', 'u', '0', '0', Text.hexLower (n / 16), Text.hexLower (n % 16)] := by
  have zero : IsHexDigit 0 '0' := isHexDigit_hexLower (by decide)
  have escape := CodeEscape.digits zero zero (isHexDigit_hexLower (n := n / 16) (by omega))
    (isHexDigit_hexLower (n := n % 16) (by omega))
  rwa [show ((0 * 16 + 0) * 16 + n / 16) * 16 + n % 16 = n by omega] at escape

/-- What is written for a character stands for it. -/
theorem piece_escape (c : Char) : Piece (.scalar c) (escape c) := by
  have letter {e : Char} (h : (e, c) ∈ letters) : Piece (.scalar c) ['\\', e] := .letter h
  -- The cases of `escape` in turn: seven characters with a letter of their own, those below the
  -- space, and all others.
  unfold escape
  split
  · next own => subst own; exact letter (by decide)
  split
  · next own => subst own; exact letter (by decide)
  split
  · next own => subst own; exact letter (by decide)
  split
  · next own => subst own; exact letter (by decide)
  split
  · next own => subst own; exact letter (by decide)
  split
  · next own => subst own; exact letter (by decide)
  split
  · next own => subst own; exact letter (by decide)
  split
  · next low => exact .code (codeEscape_hexLower (UInt32.lt_iff_toNat_lt.1 low))
  · next quote backslash _ _ _ _ _ high => exact .plain (Char.not_lt.1 high) quote backslash

theorem spells_escape (cs : List Char) : Spells cs (cs.flatMap escape) := by
  induction cs with
  | nil => exact .nil
  | cons c cs ih => exact .one (piece_escape c) ih

theorem literal_quote (text : Option String) : Literal text (quote text) := by
  cases text with
  | none =>
    have zero : IsHexDigit 0 '0' := isHexDigit_hexLower (by decide)
    have escape : CodeEscape 0xD800 ['\\', 'u', 'd', '8', '0', '0'] :=
      .digits (isHexDigit_hexLower (n := 13) (by decide)) (isHexDigit_hexLower (n := 8) (by decide))
        zero zero
    exact (literal_iff (.cons (.half (by decide) (by decide) escape) .nil)).2 rfl
  | some s => exact literal_some_iff.2 ⟨_, rfl, spells_escape s.toList⟩

/-! ## White space -/

theorem gap_newLine (level : Nat) : Gap (newLine level) := by
  refine Gap.cons rfl fun c h => ?_
  rw [List.eq_of_mem_replicate h]
  exact List.mem_cons_self

end WalletWatch.Json
