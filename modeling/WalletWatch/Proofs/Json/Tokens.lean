import WalletWatch.Json.Writer
import WalletWatch.Proofs.Json.Literals
import WalletWatch.Proofs.Json.Numerals
/-!
# Tokens are read as the grammar says

The tokens of a text are those that stand in it one after the other, with white space around them
(`spread_of_tokenize`). The converse needs that no numeral goes on in the token behind it. So a
text that writes some tokens is one that gives them whatever text comes after it, as long as a
numeral can end there (`Writes`); the marks of JSON end a numeral, and texts are joined at a mark
(`Writes.joined`).
-/

namespace WalletWatch.Json

variable {cs ds rest : List Char} {t : Token} {ts us : List Token}

/-! ## White space -/

theorem isGap_iff {c : Char} : isGap c = true ↔ c ∈ [' ', '\t', '\n', '\r'] := by
  simp [isGap, or_assoc]

theorem Gap.nil : Gap [] := List.forall_mem_nil _

theorem Gap.cons {c : Char} (first : isGap c = true) (h : Gap cs) : Gap (c :: cs) :=
  List.forall_mem_cons.2 ⟨isGap_iff.1 first, h⟩

theorem tokenize_gap (h : Gap cs) (rest : List Char) : tokenize (cs ++ rest) = tokenize rest := by
  induction cs with
  | nil => rfl
  | cons c cs ih =>
    obtain ⟨first, others⟩ := List.forall_mem_cons.1 h
    rw [List.cons_append, tokenize, if_pos (isGap_iff.2 first), ih others]

/-- A numeral ends before white space. -/
theorem ends_gap (h : Gap cs) (after : ends rest = true) : ends (cs ++ rest) = true := by
  cases cs with
  | nil => exact after
  | cons c cs =>
    have blank := h c List.mem_cons_self
    simp only [List.mem_cons, List.not_mem_nil, or_false] at blank
    rcases blank with rfl | rfl | rfl | rfl <;> rfl

/-! ## One token -/

/-- A token and a text that writes it. -/
def Token.Text : Token → List Char → Prop
  | .number value, cs => NumeralText value cs
  | .string text, cs => Literal text cs
  | token, cs => cs = token.spell

/-- A token of one character. -/
def Token.mark? : Token → Option Char
  | .openArray => some '['
  | .closeArray => some ']'
  | .openObject => some '\x7b'
  | .closeObject => some '\x7d'
  | .colon => some ':'
  | .comma => some ','
  | _ => none

/-- What starts a numeral starts no other token. -/
theorem nextToken_numeral {c : Char} (h : StartsNumeral c) (cs : List Char) :
    nextToken (c :: cs) = (readNumeral (c :: cs)).map fun read => (.number read.1, read.2) := by
  rcases h with rfl | ⟨d, rfl⟩
  · rfl
  · match d with
    | 0 | 1 | 2 | 3 | 4 | 5 | 6 | 7 | 8 | 9 => rfl

/-- Only a numeral has to end before what follows it. -/
theorem nextToken_text (h : t.Text cs) (after : (∃ n, t = .number n) → ends rest = true) :
    nextToken (cs ++ rest) = some (t, rest) := by
  cases t with
  | bool value =>
    obtain rfl := h
    cases value <;> rfl
  | number value =>
    have read := readNumeral_text h (after ⟨value, rfl⟩)
    obtain ⟨c, cs, rfl, starts⟩ := NumeralText.starts h
    rw [List.cons_append] at read ⊢
    rw [nextToken_numeral starts, read]
    rfl
  | string text =>
    obtain ⟨inner, rfl⟩ := exists_of_literal h
    have read : readString (inner ++ '"' :: rest) = some (text, rest) :=
      readString_eq_some_iff.2 ⟨inner, rfl, h⟩
    rw [List.cons_append, List.append_assoc]
    exact congrArg (Option.map _) read
  | _ =>
    obtain rfl := h
    rfl

/-- What is read as a token writes it. -/
theorem text_of_nextToken (h : nextToken cs = some (t, rest)) :
    ∃ text, cs = text ++ rest ∧ t.Text text := by
  unfold nextToken at h
  split at h
  case h_10 =>
    obtain ⟨⟨text, left⟩, read, same⟩ := Option.map_eq_some_iff.1 h
    cases same
    obtain ⟨inner, rfl, literal⟩ := readString_eq_some_iff.1 read
    exact ⟨_, by simp only [List.cons_append, List.append_assoc, List.nil_append], literal⟩
  case h_11 =>
    obtain ⟨⟨value, left⟩, read, same⟩ := Option.map_eq_some_iff.1 h
    cases same
    exact numeralText_of_readNumeral read
  all_goals
    cases h
    exact ⟨_, rfl, rfl⟩

theorem StartsNumeral.solid {c : Char} (h : StartsNumeral c) : isGap c = false := by
  have digit : ∀ d : Digit, isGap d.toChar = false := by decide
  rcases h with rfl | ⟨d, rfl⟩
  · rfl
  · exact digit d

/-- No token starts with white space. -/
theorem Token.Text.starts (h : t.Text cs) : ∃ c ds, cs = c :: ds ∧ isGap c = false := by
  cases t with
  | bool value =>
    obtain rfl := h
    cases value <;> exact ⟨_, _, rfl, rfl⟩
  | number value =>
    obtain ⟨c, ds, rfl, starts⟩ := NumeralText.starts h
    exact ⟨_, _, rfl, starts.solid⟩
  | string text =>
    obtain ⟨inner, rfl⟩ := exists_of_literal h
    exact ⟨_, _, rfl, rfl⟩
  | _ =>
    obtain rfl := h
    exact ⟨_, _, rfl, rfl⟩

/-- A text that begins with a token is read as this token and what follows it. -/
theorem tokenize_text (h : t.Text cs) (after : (∃ n, t = .number n) → ends rest = true) :
    tokenize (cs ++ rest) = (tokenize rest).map (t :: ·) := by
  have next := nextToken_text h after
  obtain ⟨c, ds, rfl, solid⟩ := h.starts
  rw [List.cons_append] at next ⊢
  rw [tokenize, if_neg (by simp [solid])]
  split
  · next nothing => cases next.symm.trans nothing
  · next found =>
    obtain ⟨rfl, rfl⟩ := Prod.mk.inj (Option.some.inj (next.symm.trans found))
    rfl

/-- Where a numeral could start, the first token is one. -/
theorem tokenize_numeral {c : Char} (h : StartsNumeral c) (found : tokenize (c :: cs) = some ts) :
    ∃ n us, ts = .number n :: us := by
  rw [tokenize, if_neg (by simp [h.solid])] at found
  split at found
  · cases found
  · next next =>
    rw [nextToken_numeral h] at next
    obtain ⟨read, -, same⟩ := Option.map_eq_some_iff.1 next
    cases same
    obtain ⟨us, -, rfl⟩ := Option.map_eq_some_iff.1 found
    exact ⟨read.1, us, rfl⟩

variable {c : Char}

theorem Token.text_mark (h : t.mark? = some c) : t.Text [c] := by
  cases t <;> first | cases h; rfl | cases h

theorem Token.Text.eq_mark (h : t.mark? = some c) (text : t.Text cs) : cs = [c] := by
  cases t <;> first | cases h; exact text | cases h

theorem tokenize_mark (h : t.mark? = some c) (rest : List Char) :
    tokenize (c :: rest) = (tokenize rest).map (t :: ·) :=
  tokenize_text (Token.text_mark h) fun ⟨_, same⟩ => by cases same; cases h

theorem ends_mark (h : t.mark? = some c) (rest : List Char) : ends (c :: rest) = true := by
  cases t <;> first | cases h; rfl | cases h

/-! ## The tokens of a text -/

/-- Some tokens, and a text in which they stand with white space around them. -/
def Spread : List Token → List Char → Prop
  | [], cs => Gap cs
  | t :: ts, cs => ∃ gap text rest,
      cs = gap ++ (text ++ rest) ∧ Gap gap ∧ t.Text text ∧ Spread ts rest

theorem Spread.gap (first : isGap c = true) (h : Spread ts cs) : Spread ts (c :: cs) := by
  cases ts with
  | nil => exact Gap.cons first h
  | cons t ts =>
    obtain ⟨gap, text, rest, rfl, blank, written, others⟩ := h
    exact ⟨c :: gap, text, rest, rfl, blank.cons first, written, others⟩

/-- The tokens that are found in a text stand in it. -/
theorem spread_of_tokenize (h : tokenize cs = some ts) : Spread ts cs := by
  fun_induction tokenize cs generalizing ts with
  | case1 =>
    cases h
    exact Gap.nil
  | case2 c rest blank ih => exact (ih h).gap blank
  | case3 => cases h
  | case4 c rest solid token left found shorter ih =>
    obtain ⟨others, read, same⟩ := Option.map_eq_some_iff.1 h
    cases same
    obtain ⟨text, same, written⟩ := text_of_nextToken found
    exact ⟨[], text, left, same, Gap.nil, written, ih read⟩

/-- A text writes some tokens, whatever comes after it, as long as a numeral can end there. -/
def Writes (cs : List Char) (ts : List Token) : Prop :=
  ∀ rest, ends rest = true → tokenize (cs ++ rest) = (tokenize rest).map (ts ++ ·)

namespace Writes

theorem gap (h : Gap cs) : Writes cs [] := fun rest _ =>
  (tokenize_gap h rest).trans Option.map_id'.symm

theorem token (h : t.Text cs) : Writes cs [t] := fun _ after =>
  tokenize_text h fun _ => after

theorem append (first : Writes cs ts) (second : Writes ds us)
    (apart : ∀ rest, ends (ds ++ rest) = true) : Writes (cs ++ ds) (ts ++ us) := by
  intro rest after
  rw [List.append_assoc, first _ (apart rest), second rest after, Option.map_map]
  exact congrArg (Option.map · _) (funext fun later => (List.append_assoc ts us later).symm)

theorem mark (mark : t.mark? = some c) (h : Writes cs ts) : Writes (c :: cs) (t :: ts) := by
  intro rest after
  rw [List.cons_append, tokenize_mark mark, h rest after, Option.map_map]
  rfl

/-- Two texts with a mark between them. -/
theorem joined (first : Writes cs ts) (mark : t.mark? = some c) (second : Writes ds us) :
    Writes (cs ++ c :: ds) (ts ++ t :: us) :=
  first.append (second.mark mark) fun _ => ends_mark mark _

/-- What stands in brackets writes its tokens whatever comes after it. -/
theorem bracketed (opening closing : Token) {d : Char} (h : Writes cs ts)
    (first : opening.mark? = some c) (last : closing.mark? = some d) (rest : List Char) :
    tokenize (c :: (cs ++ [d]) ++ rest) =
      (tokenize rest).map (opening :: (ts ++ [closing]) ++ ·) := by
  rw [List.cons_append, List.append_assoc, List.singleton_append, tokenize_mark first,
    h _ (ends_mark last _), tokenize_mark last, Option.map_map, Option.map_map]
  refine congrArg (Option.map · _) (funext fun later => ?_)
  exact congrArg (opening :: ·) (List.append_assoc ts [closing] later).symm

theorem padded {P : List Char → Prop} (inside : ∀ {cs}, P cs → Writes cs ts) (h : Padded P cs) :
    Writes cs ts := by
  obtain ⟨before, inner, after, rfl, blank, written, blank'⟩ := h
  intro rest free
  rw [List.append_assoc, List.append_assoc, tokenize_gap blank,
    inside written _ (ends_gap blank' free), tokenize_gap blank']

end Writes

end WalletWatch.Json
