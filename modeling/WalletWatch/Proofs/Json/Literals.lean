import WalletWatch.Proofs.Json.Grammar
/-!
# String literals are read as the grammar says

The reader takes a literal in two steps: its pieces, and the text that they stand for. The first
step finds just the pieces that the grammar gives to a literal (`readUnits_pieces`,
`pieces_of_readUnits`), the second puts surrogate pairs together (`spells_iff`). Together they read
a literal as the text that it writes, or find that it writes none (`readString_eq_some_iff`).
-/

namespace WalletWatch.Json

/-! ## Escaped codes -/

theorem isHexDigit_hexLower {n : Nat} (h : n < 16) : IsHexDigit n (Text.hexLower n) := ⟨h, .inl rfl⟩

theorem isHexDigit_hexUpper {n : Nat} (h : n < 16) : IsHexDigit n (Text.hexUpper n) := ⟨h, .inr rfl⟩

theorem lt_of_hexValue? {c : Char} {n : Nat} (h : Text.hexValue? c = some n) : c.toNat < 128 := by
  have below {d : Char} (hc : c ≤ d) (hd : d.toNat < 128) : c.toNat < 128 :=
    Nat.lt_of_le_of_lt (UInt32.le_iff_toNat_le.1 hc) hd
  unfold Text.hexValue? at h
  split at h
  · next digit => exact below digit.2 (by decide)
  split at h
  · next lower => exact below lower.2 (by decide)
  split at h
  · next upper => exact below upper.2 (by decide)
  · cases h

theorem hexValue?_eq_some_iff {c : Char} {n : Nat} :
    Text.hexValue? c = some n ↔ IsHexDigit n c := by
  constructor
  · intro h
    have all : ∀ k : Fin 128, ∀ n, Text.hexValue? (Char.ofNat k) = some n →
        n < 16 ∧ (Char.ofNat k = Text.hexLower n ∨ Char.ofNat k = Text.hexUpper n) := by
      decide
    have here := all ⟨c.toNat, lt_of_hexValue? h⟩ n
    rw [Char.ofNat_toNat] at here
    exact here h
  · rintro ⟨small, rfl | rfl⟩
    · exact Text.hexValue?_hexLower small
    · exact Text.hexValue?_hexUpper small

theorem hexCode?_eq_some_iff {w x y z : Char} {code : Nat} :
    hexCode? w x y z = some code ↔ CodeEscape code ['\\', 'u', w, x, y, z] := by
  constructor
  · intro h
    simp only [hexCode?, Option.bind_eq_bind, Option.bind_eq_some_iff, Option.pure_def,
      Option.some.injEq] at h
    obtain ⟨a, ha, b, hb, c, hc, d, hd, rfl⟩ := h
    exact .digits (hexValue?_eq_some_iff.1 ha) (hexValue?_eq_some_iff.1 hb)
      (hexValue?_eq_some_iff.1 hc) (hexValue?_eq_some_iff.1 hd)
  · rintro (⟨ha, hb, hc, hd⟩ : CodeEscape _ _)
    simp only [hexCode?, hexValue?_eq_some_iff.2 ha, hexValue?_eq_some_iff.2 hb,
      hexValue?_eq_some_iff.2 hc, hexValue?_eq_some_iff.2 hd]
    rfl

theorem CodeEscape.lt {code : Nat} {cs : List Char} (h : CodeEscape code cs) :
    code < 0x10000 := by
  obtain ⟨⟨ha, -⟩, ⟨hb, -⟩, ⟨hc, -⟩, ⟨hd, -⟩⟩ := h
  omega

/-- The code of a character stands for the character. -/
theorem ofCode_toNat (c : Char) : CodeUnit.ofCode c.toNat = .scalar c := by
  rw [CodeUnit.ofCode, if_pos (show c.toNat.isValidChar from c.valid), Char.ofNat_toNat]

/-- The codes of the halves of surrogate pairs stand for no character. -/
theorem ofCode_of_half {code : Nat} (low : 0xD800 ≤ code) (high : code < 0xE000) :
    CodeUnit.ofCode code = .half code := by
  refine if_neg fun valid => ?_
  rcases valid with below | above
  · omega
  · omega

/-- An escaped code is a piece, whatever it stands for. -/
theorem CodeEscape.piece {code : Nat} {cs : List Char} (h : CodeEscape code cs) :
    Piece (.ofCode code) cs := by
  by_cases half : 0xD800 ≤ code ∧ code < 0xE000
  · rw [ofCode_of_half half.1 half.2]
    exact .half half.1 half.2 h
  · have valid : code.isValidChar := by
      have := h.lt
      simp only [Nat.isValidChar]
      omega
    have same : (Char.ofNat code).toNat = code := by
      rw [Char.ofNat, dif_pos valid]
      rfl
    rw [CodeUnit.ofCode, if_pos valid]
    exact .code (same.symm ▸ h)

/-! ## Pieces -/

theorem readUnits_codeEscape {code : Nat} {cs : List Char} (h : CodeEscape code cs)
    (rest : List Char) : readUnits (cs ++ rest) =
      (readUnits rest).map fun read => (.ofCode code :: read.1, read.2) := by
  obtain ⟨ha, hb, hc, hd⟩ := id h
  simp only [List.cons_append, List.nil_append, readUnits, hexCode?_eq_some_iff.2 h]
  cases readUnits rest <;> rfl

/-- A piece is read as what it stands for, whatever comes after it. -/
theorem readUnits_piece {u : CodeUnit} {cs : List Char} (h : Piece u cs) (rest : List Char) :
    readUnits (cs ++ rest) = (readUnits rest).map fun read => (u :: read.1, read.2) := by
  cases h with
  | @plain c visible quote backslash =>
    have low : ¬ c < ' ' := fun below => absurd visible (UInt32.not_le.2 below)
    rw [List.singleton_append, readUnits.eq_5 c rest quote (fun _ _ _ _ _ same _ => backslash same)
      fun _ _ same _ => backslash same, beq_false_of_ne backslash, decide_eq_false low]
    cases readUnits rest <;> rfl
  | @letter e c member =>
    have all : ∀ p ∈ letters, p.1 ≠ 'u' ∧ shortEscape? p.1 = some p.2 := by decide
    obtain ⟨other, stands⟩ := all (e, c) member
    rw [List.cons_append, List.singleton_append,
      readUnits.eq_4 e rest fun _ _ _ _ _ same _ => other same, stands]
    cases readUnits rest <;> rfl
  | @code c cs code => rw [readUnits_codeEscape code, ofCode_toNat]
  | half low high code => rw [readUnits_codeEscape code, ofCode_of_half low high]

theorem readUnits_pieces {us : List CodeUnit} {cs : List Char} (h : Pieces us cs)
    (rest : List Char) : readUnits (cs ++ '"' :: rest) = some (us, rest) := by
  induction h with
  | nil => rfl
  | cons first others ih => rw [List.append_assoc, readUnits_piece first, ih]; rfl

theorem mem_letters_of_shortEscape? {e c : Char} (h : shortEscape? e = some c) :
    (e, c) ∈ letters := by
  unfold shortEscape? at h
  split at h
  case h_9 => cases h
  all_goals
    obtain rfl := Option.some.inj h
    decide

/-- What the reader takes are pieces, and a quote behind them. -/
theorem pieces_of_readUnits {cs rest : List Char} {us : List CodeUnit}
    (h : readUnits cs = some (us, rest)) :
    ∃ inner, cs = inner ++ '"' :: rest ∧ Pieces us inner := by
  fun_induction readUnits cs generalizing us rest with
  | case1 => cases h
  | case2 rest =>
    cases h
    exact ⟨[], rfl, .nil⟩
  | case3 a b c d rest code units left read hex ih =>
    cases h
    obtain ⟨inner, rfl, others⟩ := ih read
    exact ⟨_, rfl, .cons (hexCode?_eq_some_iff.1 hex).piece others⟩
  | case4 => cases h
  | case5 e rest other c units left read short ih =>
    cases h
    obtain ⟨inner, rfl, others⟩ := ih read
    exact ⟨_, rfl, .cons (.letter (mem_letters_of_shortEscape? short)) others⟩
  | case6 => cases h
  | case7 => cases h
  | case8 c rest quote _ _ visible units left read ih =>
    cases h
    obtain ⟨inner, rfl, others⟩ := ih read
    simp only [Bool.or_eq_true, beq_iff_eq, decide_eq_true_eq, not_or] at visible
    exact ⟨_, rfl, .cons (.plain (UInt32.not_lt.1 visible.2) quote visible.1) others⟩
  | case9 => cases h

/-! ## Texts -/

/-- The two halves that a surrogate pair is written with. -/
theorem joined_halves {c : Char} (beyond : 0x10000 ≤ c.toNat) :
    CodeUnit.joined (0xD800 + (c.toNat - 0x10000) / 0x400)
      (0xDC00 + (c.toNat - 0x10000) % 0x400) = c := by
  have code : 0x10000 + (0xD800 + (c.toNat - 0x10000) / 0x400 - 0xD800) * 0x400 +
      (0xDC00 + (c.toNat - 0x10000) % 0x400 - 0xDC00) = c.toNat := by omega
  rw [CodeUnit.joined, code, Char.ofNat_toNat]

/-- The halves of a surrogate pair make a character beyond the first plane, and it gives them
back. -/
theorem toNat_joined {high low : Nat} (hh : CodeUnit.isHigh high = true)
    (hl : CodeUnit.isLow low = true) :
    0x10000 ≤ (CodeUnit.joined high low).toNat ∧
      0xD800 + ((CodeUnit.joined high low).toNat - 0x10000) / 0x400 = high ∧
      0xDC00 + ((CodeUnit.joined high low).toNat - 0x10000) % 0x400 = low := by
  simp only [CodeUnit.isHigh, CodeUnit.isLow, Bool.and_eq_true, decide_eq_true_eq] at hh hl
  have valid : (0x10000 + (high - 0xD800) * 0x400 + (low - 0xDC00)).isValidChar := by
    simp only [Nat.isValidChar]
    omega
  have code : (CodeUnit.joined high low).toNat =
      0x10000 + (high - 0xD800) * 0x400 + (low - 0xDC00) := by
    rw [CodeUnit.joined, Char.ofNat, dif_pos valid]
    rfl
  rw [code]
  omega

/-- What spells a text is made of pieces that stand for the text. -/
theorem Spells.pieces {text cs : List Char} (h : Spells text cs) :
    ∃ us, Pieces us cs ∧ CodeUnit.text? us = some text := by
  induction h with
  | nil => exact ⟨[], .nil, rfl⟩
  | one first others ih =>
    obtain ⟨us, pieces, stands⟩ := ih
    exact ⟨_, .cons first pieces, by rw [CodeUnit.text?, stands]; rfl⟩
  | @pair c text cs ds es beyond high low others ih =>
    obtain ⟨us, pieces, stands⟩ := ih
    have small : c.toNat < 0x110000 := by
      rcases (show c.toNat.isValidChar from c.valid) with below | above <;> omega
    refine ⟨_, .cons (.half (by omega) (by omega) high)
      (.cons (.half (by omega) (by omega) low) pieces), ?_⟩
    have halves : (CodeUnit.isHigh (0xD800 + (c.toNat - 0x10000) / 0x400) &&
        CodeUnit.isLow (0xDC00 + (c.toNat - 0x10000) % 0x400)) = true := by
      simp only [CodeUnit.isHigh, CodeUnit.isLow, Bool.and_eq_true, decide_eq_true_eq]
      omega
    rw [CodeUnit.text?, if_pos halves, stands, joined_halves beyond]
    rfl

theorem Piece.codeEscape_of_half {n : Nat} {cs : List Char} (h : Piece (.half n) cs) :
    CodeEscape n cs := by
  cases h with
  | half low high code => exact code

/-- Pieces that stand for a text spell it. -/
theorem Pieces.spells {us : List CodeUnit} {cs text : List Char} (h : Pieces us cs)
    (stands : CodeUnit.text? us = some text) : Spells text cs := by
  fun_induction CodeUnit.text? us generalizing cs text with
  | case1 =>
    cases stands
    cases h
    exact .nil
  | case2 c us ih =>
    obtain ⟨text, others, rfl⟩ := Option.map_eq_some_iff.1 stands
    obtain _ | ⟨first, pieces⟩ := h
    exact .one first (ih pieces others)
  | case3 high us low pair ih =>
    obtain ⟨text, others, rfl⟩ := Option.map_eq_some_iff.1 stands
    obtain _ | ⟨first, pieces⟩ := h
    obtain _ | ⟨second, pieces⟩ := pieces
    rw [Bool.and_eq_true] at pair
    obtain ⟨beyond, sameHigh, sameLow⟩ := toNat_joined pair.1 pair.2
    exact .pair beyond (sameHigh.symm ▸ first.codeEscape_of_half)
      (sameLow.symm ▸ second.codeEscape_of_half) (ih pieces others)
  | case4 => cases stands
  | case5 => cases stands

/-- The pieces of a literal are settled by its text. -/
theorem Pieces.unique {us vs : List CodeUnit} {cs : List Char} (h : Pieces us cs)
    (h' : Pieces vs cs) : us = vs := by
  have same := (readUnits_pieces h []).symm.trans (readUnits_pieces h' [])
  exact congrArg Prod.fst (Option.some.inj same)

theorem spells_iff {us : List CodeUnit} {cs text : List Char} (h : Pieces us cs) :
    Spells text cs ↔ CodeUnit.text? us = some text := by
  constructor
  · intro spells
    obtain ⟨vs, pieces, stands⟩ := spells.pieces
    rwa [h.unique pieces]
  · exact h.spells

/-! ## Literals -/

theorem quoted_iff {inner : List Char} {us : List CodeUnit} {s : String} (h : Pieces us inner) :
    Quoted s ('"' :: (inner ++ ['"'])) ↔ (CodeUnit.text? us).map String.ofList = some s := by
  constructor
  · rintro ⟨other, same, spells⟩
    obtain rfl : inner = other := List.append_cancel_right (List.cons.inj same).2
    rw [(spells_iff h).1 spells, Option.map_some, String.ofList_toList]
  · intro known
    obtain ⟨text, stands, rfl⟩ := Option.map_eq_some_iff.1 known
    refine ⟨inner, rfl, ?_⟩
    rw [String.toList_ofList]
    exact (spells_iff h).2 stands

theorem literal_iff {inner : List Char} {us : List CodeUnit} {text : Option String}
    (h : Pieces us inner) :
    Literal text ('"' :: (inner ++ ['"'])) ↔ (CodeUnit.text? us).map String.ofList = text := by
  constructor
  · rintro ⟨-, texts⟩
    exact Option.ext fun s => (quoted_iff h).symm.trans (texts s).symm
  · rintro rfl
    exact ⟨⟨us, inner, rfl, h⟩, fun s => (quoted_iff h).symm⟩

/-- **A literal is read as the text that it writes**, or as one that writes none, up to the quote at
its end. -/
theorem readString_eq_some_iff {cs rest : List Char} {text : Option String} :
    readString cs = some (text, rest) ↔
      ∃ inner, cs = inner ++ '"' :: rest ∧ Literal text ('"' :: (inner ++ ['"'])) := by
  constructor
  · intro h
    obtain ⟨⟨us, left⟩, read, same⟩ := Option.map_eq_some_iff.1 h
    obtain ⟨rfl, rfl⟩ := Prod.mk.inj same
    obtain ⟨inner, rfl, pieces⟩ := pieces_of_readUnits read
    exact ⟨inner, rfl, (literal_iff pieces).2 rfl⟩
  · rintro ⟨inner, rfl, ⟨us, other, same, pieces⟩, texts⟩
    obtain rfl : inner = other := List.append_cancel_right (List.cons.inj same).2
    have stands := (literal_iff pieces).1 ⟨⟨us, inner, rfl, pieces⟩, texts⟩
    rw [readString, readUnits_pieces pieces, Option.map_some, ← stands]

theorem exists_of_literal {text : Option String} {cs : List Char} (h : Literal text cs) :
    ∃ inner, cs = '"' :: (inner ++ ['"']) := by
  obtain ⟨⟨us, inner, same, -⟩, -⟩ := h
  exact ⟨inner, same⟩

theorem literal_some_iff {s : String} {cs : List Char} : Literal (some s) cs ↔ Quoted s cs := by
  constructor
  · rintro ⟨-, texts⟩
    exact (texts s).1 rfl
  · rintro ⟨inner, rfl, spells⟩
    obtain ⟨us, pieces, stands⟩ := spells.pieces
    refine (literal_iff pieces).2 ?_
    rw [stands, Option.map_some, String.ofList_toList]

end WalletWatch.Json
