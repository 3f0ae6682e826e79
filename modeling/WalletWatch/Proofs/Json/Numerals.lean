import WalletWatch.Proofs.Json.Grammar
import WalletWatch.Proofs.Numeral.Digits
/-!
# Numerals are read as the grammar says

A numeral is the one token that could go on in the text behind it: the reader takes digits as long
as there are any. So a numeral of the grammar is read only where what follows starts with nothing
that a numeral can contain (`ends`, `readNumeral_text`); and what the reader takes is always a
numeral of the grammar (`numeralText_of_readNumeral`).
-/

namespace WalletWatch.Json

/-! ## Digits -/

/-- Whether a text starts with a digit. -/
def startsWithDigit : List Char → Bool
  | [] => false
  | c :: _ => (Digit.ofChar? c).isSome

/-- Whether a numeral ends before a text, which starts with nothing that a numeral can contain. -/
def ends : List Char → Bool
  | [] => true
  | c :: _ => (Digit.ofChar? c).isNone && c != '.' && c != 'e' && c != 'E'

variable {cs rest : List Char}

theorem not_startsWithDigit_of_ends (h : ends rest = true) : startsWithDigit rest = false := by
  cases rest with
  | nil => rfl
  | cons c rest =>
    simp only [ends, Bool.and_eq_true, Option.isNone_iff_eq_none] at h
    rw [startsWithDigit, h.1.1.1]
    rfl

theorem toChar_of_ofChar? {c : Char} {d : Digit} (h : Digit.ofChar? c = some d) :
    d.toChar = c := by
  unfold Digit.ofChar? at h
  split at h
  · next range =>
    obtain rfl := Option.some.inj h
    rw [Digit.toChar, Nat.add_sub_cancel' range.1, Char.ofNat_toNat]
  · cases h

theorem readDigits_toChar (ds : List Digit) (h : startsWithDigit rest = false) :
    readDigits (ds.map Digit.toChar ++ rest) = (ds, rest) := by
  induction ds with
  | nil =>
    cases rest with
    | nil => rfl
    | cons c rest =>
      have other : Digit.ofChar? c = none := by simpa [startsWithDigit] using h
      simp only [List.map_nil, List.nil_append, readDigits, other]
  | cons d ds ih =>
    simp only [List.map_cons, List.cons_append, readDigits, Digit.ofChar?_toChar, ih]

/-- Digits are taken as long as there are any. -/
theorem eq_of_readDigits {ds : List Digit} (h : readDigits cs = (ds, rest)) :
    cs = ds.map Digit.toChar ++ rest := by
  fun_induction readDigits cs generalizing ds with
  | case1 => cases h; rfl
  | case2 c tail d digit ih =>
    obtain ⟨rfl, rfl⟩ := Prod.mk.inj h
    rw [List.map_cons, List.cons_append, toChar_of_ofChar? digit, ← ih rfl]
  | case3 => cases h; rfl

/-! ## Whole parts -/

theorem readWhole_text {n : Nat} {text : List Char} (h : WholeText n text)
    (after : startsWithDigit rest = false) : readWhole (text ++ rest) = some (n, rest) := by
  obtain @⟨d, ds, leading⟩ := h
  have alone : (d.val == 0 && !ds.isEmpty) = false := by
    by_cases zero : d = 0
    · rw [leading zero]
      exact Bool.and_false _
    · have other : (d.val == 0) = false := beq_false_of_ne fun same => zero (Fin.ext same)
      rw [other]
      rfl
  rw [readWhole, readDigits_toChar _ after]
  simp only [alone, Bool.false_eq_true, if_false]

theorem wholeText_of_readWhole {n : Nat} (h : readWhole cs = some (n, rest)) :
    ∃ text, cs = text ++ rest ∧ WholeText n text := by
  unfold readWhole at h
  split at h
  · cases h
  · next d ds tail digits =>
    split at h
    · cases h
    · next alone =>
      obtain ⟨rfl, rfl⟩ := Prod.mk.inj (Option.some.inj h)
      refine ⟨_, eq_of_readDigits digits, .digits fun zero => ?_⟩
      rw [zero] at alone
      simpa using alone

/-! ## Fractions -/

theorem readFraction_text {ds : List Digit} {text : List Char} (h : FractionText ds text)
    (after : startsWithDigit rest = false) (noPoint : ∀ tail, rest ≠ '.' :: tail) :
    readFraction (text ++ rest) = some (ds, rest) := by
  cases h with
  | absent =>
    rw [List.nil_append]
    unfold readFraction
    split
    · next tail => exact absurd rfl (noPoint tail)
    · rfl
  | digits => rw [List.cons_append, readFraction, readDigits_toChar _ after]

theorem fractionText_of_readFraction {ds : List Digit} (h : readFraction cs = some (ds, rest)) :
    ∃ text, cs = text ++ rest ∧ FractionText ds text := by
  unfold readFraction at h
  split at h
  · next tail =>
    split at h
    · cases h
    · next digits left nonempty read =>
      obtain ⟨rfl, rfl⟩ := Prod.mk.inj (Option.some.inj h)
      cases digits with
      | nil => exact (nonempty rfl).elim
      | cons d ds =>
        exact ⟨_, congrArg ('.' :: ·) (eq_of_readDigits read), .digits⟩
  · obtain ⟨rfl, rfl⟩ := Prod.mk.inj (Option.some.inj h)
    exact ⟨[], rfl, .absent⟩

/-! ## Exponents -/

theorem readSign_text {negative : Bool} {sign : List Char} (h : SignText negative sign)
    (after : startsWithDigit rest = true) : readSign (sign ++ rest) = (negative, rest) := by
  cases h with
  | absent =>
    rw [List.nil_append]
    unfold readSign
    split
    · cases after
    · cases after
    · rfl
  | plus => rfl
  | minus => rfl

theorem signText_of_readSign (cs : List Char) :
    ∃ sign, cs = sign ++ (readSign cs).2 ∧ SignText (readSign cs).1 sign := by
  unfold readSign
  split
  · exact ⟨['-'], rfl, .minus⟩
  · exact ⟨['+'], rfl, .plus⟩
  · exact ⟨[], rfl, .absent⟩

theorem readExponent_text {exponent : Option Int} {text : List Char}
    (h : ExponentText exponent text) (after : ends rest = true) :
    readExponent (text ++ rest) = some (exponent, rest) := by
  cases h with
  | absent =>
    rw [List.nil_append]
    unfold readExponent
    split
    · cases after
    · cases after
    · rfl
  | @digits mark negative sign d ds letter signed =>
    have starts : startsWithDigit ((d :: ds).map Digit.toChar ++ rest) = true := by
      rw [List.map_cons, List.cons_append, startsWithDigit, Digit.ofChar?_toChar]
      rfl
    have power : readPower (sign ++ ((d :: ds).map Digit.toChar ++ rest)) = some
        (if negative then -(Digit.number 0 (d :: ds) : Int) else Digit.number 0 (d :: ds),
          rest) := by
      simp only [readPower, readSign_text signed starts,
        readDigits_toChar _ (not_startsWithDigit_of_ends after)]
    rw [List.cons_append, List.append_assoc]
    rcases letter with rfl | rfl
    · rw [readExponent, power]
      rfl
    · rw [readExponent, power]
      rfl

theorem exponentText_of_readPower {power : Int} {mark : Char}
    (h : readPower cs = some (power, rest)) (letter : mark = 'e' ∨ mark = 'E') :
    ∃ text, mark :: cs = text ++ rest ∧ ExponentText (some power) text := by
  obtain ⟨sign, text, signed⟩ := signText_of_readSign cs
  unfold readPower at h
  split at h
  · cases h
  · next digits left nonempty read =>
    obtain ⟨rfl, rfl⟩ := Prod.mk.inj (Option.some.inj h)
    cases digits with
    | nil => exact (nonempty rfl).elim
    | cons d ds =>
      refine ⟨_, ?_, .digits letter signed⟩
      rw [List.cons_append, List.append_assoc, ← eq_of_readDigits read, ← text]

theorem exponentText_of_readExponent {exponent : Option Int}
    (h : readExponent cs = some (exponent, rest)) :
    ∃ text, cs = text ++ rest ∧ ExponentText exponent text := by
  unfold readExponent at h
  split at h
  · obtain ⟨⟨power, left⟩, read, same⟩ := Option.map_eq_some_iff.1 h
    cases same
    exact exponentText_of_readPower read (.inl rfl)
  · obtain ⟨⟨power, left⟩, read, same⟩ := Option.map_eq_some_iff.1 h
    cases same
    exact exponentText_of_readPower read (.inr rfl)
  · cases h
    exact ⟨[], rfl, .absent⟩

/-! ## Numerals -/

/-- A numeral ends before an exponent, and before what a numeral ends before. -/
theorem ExponentText.apart {exponent : Option Int} {text : List Char}
    (h : ExponentText exponent text) (after : ends rest = true) :
    startsWithDigit (text ++ rest) = false ∧ ∀ tail, text ++ rest ≠ '.' :: tail := by
  cases h with
  | absent =>
    refine ⟨not_startsWithDigit_of_ends after, fun tail same => ?_⟩
    rw [List.nil_append] at same
    rw [same] at after
    cases after
  | digits letter signed =>
    rcases letter with rfl | rfl <;> exact ⟨rfl, fun _ same => by cases same⟩

theorem readUnsigned_text {n : Numeral} {whole fraction exponent : List Char}
    (first : WholeText n.whole whole) (second : FractionText n.fraction fraction)
    (third : ExponentText n.exponent exponent) (after : ends rest = true) :
    readUnsigned n.negative (whole ++ (fraction ++ (exponent ++ rest))) = some (n, rest) := by
  obtain ⟨noDigit, noPoint⟩ := third.apart after
  have further : startsWithDigit (fraction ++ (exponent ++ rest)) = false := by
    generalize n.fraction = ds at second
    cases second with
    | absent => exact noDigit
    | digits => rfl
  simp only [readUnsigned, readWhole_text first further, readFraction_text second noDigit noPoint,
    readExponent_text third after, Option.bind_eq_bind, Option.bind_some, Option.pure_def]

/-- What a numeral starts with. -/
def StartsNumeral (c : Char) : Prop :=
  c = '-' ∨ ∃ d : Digit, c = d.toChar

theorem NumeralText.starts {n : Numeral} {text : List Char} (h : NumeralText n text) :
    ∃ c cs, text = c :: cs ∧ StartsNumeral c := by
  obtain ⟨whole, fraction, exponent, rfl, first, -, -⟩ := h
  cases n.negative with
  | true => exact ⟨'-', _, rfl, .inl rfl⟩
  | false =>
    generalize n.whole = k at first
    obtain @⟨d, ds, -⟩ := first
    exact ⟨d.toChar, _, rfl, .inr ⟨d, rfl⟩⟩

/-- A numeral is read up to a text that it ends before. -/
theorem readNumeral_text {n : Numeral} {text : List Char} (h : NumeralText n text)
    (after : ends rest = true) : readNumeral (text ++ rest) = some (n, rest) := by
  obtain ⟨whole, fraction, exponent, rfl, first, second, third⟩ := h
  have unsigned := readUnsigned_text first second third after
  simp only [List.append_assoc]
  cases negative : n.negative with
  | true =>
    rw [negative] at unsigned
    exact unsigned
  | false =>
    rw [negative] at unsigned
    generalize n.whole = k at first
    obtain @⟨d, ds, -⟩ := first
    rw [List.map_cons, List.cons_append] at unsigned ⊢
    change readNumeral (d.toChar :: _) = _
    unfold readNumeral
    split
    · next minus =>
      have signless : ∀ d : Digit, d.toChar ≠ '-' := by decide
      exact absurd (List.cons.inj minus).1 (signless d)
    · exact unsigned

theorem numeralText_of_readUnsigned {negative : Bool} {n : Numeral}
    (h : readUnsigned negative cs = some (n, rest)) : n.negative = negative ∧
      ∃ whole fraction exponent, cs = whole ++ (fraction ++ exponent) ++ rest ∧
        WholeText n.whole whole ∧ FractionText n.fraction fraction ∧
        ExponentText n.exponent exponent := by
  simp only [readUnsigned, Option.bind_eq_bind, Option.bind_eq_some_iff, Prod.exists] at h
  obtain ⟨k, _, readFirst, ds, _, readSecond, power, _, readThird, same⟩ := h
  cases same
  obtain ⟨whole, rfl, first⟩ := wholeText_of_readWhole readFirst
  obtain ⟨fraction, rfl, second⟩ := fractionText_of_readFraction readSecond
  obtain ⟨exponent, rfl, third⟩ := exponentText_of_readExponent readThird
  exact ⟨rfl, whole, fraction, exponent, by simp only [List.append_assoc], first, second, third⟩

/-- What is read as a numeral writes it. -/
theorem numeralText_of_readNumeral {n : Numeral} (h : readNumeral cs = some (n, rest)) :
    ∃ text, cs = text ++ rest ∧ NumeralText n text := by
  unfold readNumeral at h
  split at h
  · obtain ⟨negative, whole, fraction, exponent, rfl, parts⟩ := numeralText_of_readUnsigned h
    exact ⟨'-' :: (whole ++ (fraction ++ exponent)), rfl, whole, fraction, exponent,
      by rw [negative]; rfl, parts⟩
  · obtain ⟨negative, whole, fraction, exponent, rfl, parts⟩ := numeralText_of_readUnsigned h
    exact ⟨whole ++ (fraction ++ exponent), rfl, whole, fraction, exponent,
      by rw [negative]; rfl, parts⟩

end WalletWatch.Json
