import WalletWatch.Json.Value
import WalletWatch.Text.Hex
/-!
# Tokens of JSON

The first half of reading: a text becomes a list of tokens, with the white space between them gone.
White space here is JSON's own: space, tab, line feed, carriage return, and nothing else.
`nextToken` reads one token and leaves a shorter text (`nextToken_shorter`), which is why `tokenize`
ends.
-/

namespace WalletWatch.Json

/-- The white space that JSON allows between tokens. -/
def isGap (c : Char) : Bool :=
  c == ' ' || c == '\t' || c == '\n' || c == '\r'

/-- A punctuation mark, a literal, a numeral or a string literal. -/
inductive Token
  | openArray
  | closeArray
  | openObject
  | closeObject
  | colon
  | comma
  | null
  | bool (value : Bool)
  | number (value : Numeral)
  | string (text : Option String)
deriving DecidableEq, Repr

/-! ## String literals -/

/-- What one piece of a string literal stands for: a character, or half of a surrogate pair. -/
inductive CodeUnit
  | scalar (c : Char)
  | half (code : Nat)
deriving DecidableEq, Repr

namespace CodeUnit

def ofCode (code : Nat) : CodeUnit :=
  if code.isValidChar then .scalar (Char.ofNat code) else .half code

/-- Whether a code is the first half of a surrogate pair. -/
def isHigh (code : Nat) : Bool :=
  0xD800 ≤ code && code < 0xDC00

/-- Whether a code is the second half of a surrogate pair. -/
def isLow (code : Nat) : Bool :=
  0xDC00 ≤ code && code < 0xE000

/-- The character that a surrogate pair stands for. -/
def joined (high low : Nat) : Char :=
  Char.ofNat (0x10000 + (high - 0xD800) * 0x400 + (low - 0xDC00))

/-- The text of a literal: two halves next to each other make a character, and a half without its
other half makes the whole literal stand for no text. -/
def text? : List CodeUnit → Option (List Char)
  | [] => some []
  | .scalar c :: rest => (text? rest).map (c :: ·)
  | .half high :: .half low :: rest =>
    if isHigh high && isLow low then (text? rest).map (joined high low :: ·) else none
  | .half _ :: _ => none

end CodeUnit

/-- The code that four hexadecimal digits write. -/
def hexCode? (a b c d : Char) : Option Nat := do
  let a ← Text.hexValue? a
  let b ← Text.hexValue? b
  let c ← Text.hexValue? c
  let d ← Text.hexValue? d
  return ((a * 16 + b) * 16 + c) * 16 + d

/-- The character that a backslash and a letter stand for. -/
def shortEscape? : Char → Option Char
  | '"' => some '"'
  | '\\' => some '\\'
  | '/' => some '/'
  | 'b' => some '\x08'
  | 'f' => some '\x0c'
  | 'n' => some '\n'
  | 'r' => some '\r'
  | 't' => some '\t'
  | _ => none

/-- Reads the inside of a string literal and its closing quote. A character below the space cannot
stand in a literal unescaped. -/
def readUnits : List Char → Option (List CodeUnit × List Char)
  | [] => none
  | '"' :: rest => some ([], rest)
  | '\\' :: 'u' :: a :: b :: c :: d :: rest =>
    match hexCode? a b c d, readUnits rest with
    | some code, some (units, rest) => some (.ofCode code :: units, rest)
    | _, _ => none
  | '\\' :: e :: rest =>
    match shortEscape? e, readUnits rest with
    | some c, some (units, rest) => some (.scalar c :: units, rest)
    | _, _ => none
  | c :: rest =>
    if c == '\\' || c < ' ' then none
    else match readUnits rest with
      | some (units, rest) => some (.scalar c :: units, rest)
      | none => none

/-- Reads a string literal after its opening quote. -/
def readString (cs : List Char) : Option (Option String × List Char) :=
  (readUnits cs).map fun (units, rest) => ((CodeUnit.text? units).map String.ofList, rest)

/-! ## Numerals -/

/-- The digits at the start of a text, and what follows them. -/
def readDigits : List Char → List Digit × List Char
  | [] => ([], [])
  | c :: rest =>
    match Digit.ofChar? c with
    | some d => (d :: (readDigits rest).1, (readDigits rest).2)
    | none => ([], c :: rest)

/-- The whole part: at least one digit, and no zero before another digit. -/
def readWhole (cs : List Char) : Option (Nat × List Char) :=
  match readDigits cs with
  | ([], _) => none
  | (d :: ds, rest) =>
    if d.val == 0 && !ds.isEmpty then none else some (Digit.number 0 (d :: ds), rest)

/-- The digits after a point, if there is one. -/
def readFraction : List Char → Option (List Digit × List Char)
  | '.' :: rest =>
    match readDigits rest with
    | ([], _) => none
    | (ds, rest) => some (ds, rest)
  | cs => some ([], cs)

def readSign : List Char → Bool × List Char
  | '-' :: rest => (true, rest)
  | '+' :: rest => (false, rest)
  | cs => (false, cs)

/-- The exponent after the letter `e` in either case. -/
def readPower (cs : List Char) : Option (Int × List Char) :=
  match readDigits (readSign cs).2 with
  | ([], _) => none
  | (ds, rest) =>
    let size : Int := Digit.number 0 ds
    some (if (readSign cs).1 then -size else size, rest)

def readExponent : List Char → Option (Option Int × List Char)
  | 'e' :: rest => (readPower rest).map fun (power, rest) => (some power, rest)
  | 'E' :: rest => (readPower rest).map fun (power, rest) => (some power, rest)
  | cs => some (none, cs)

def readUnsigned (negative : Bool) (cs : List Char) : Option (Numeral × List Char) := do
  let (whole, cs) ← readWhole cs
  let (fraction, cs) ← readFraction cs
  let (exponent, cs) ← readExponent cs
  return (⟨negative, whole, fraction, exponent⟩, cs)

def readNumeral : List Char → Option (Numeral × List Char)
  | '-' :: rest => readUnsigned true rest
  | cs => readUnsigned false cs

/-! ## Tokens -/

/-- Reads one token at the start of a text that does not start with white space. -/
def nextToken : List Char → Option (Token × List Char)
  | '[' :: rest => some (.openArray, rest)
  | ']' :: rest => some (.closeArray, rest)
  | '\x7b' :: rest => some (.openObject, rest)
  | '\x7d' :: rest => some (.closeObject, rest)
  | ':' :: rest => some (.colon, rest)
  | ',' :: rest => some (.comma, rest)
  | 'n' :: 'u' :: 'l' :: 'l' :: rest => some (.null, rest)
  | 't' :: 'r' :: 'u' :: 'e' :: rest => some (.bool true, rest)
  | 'f' :: 'a' :: 'l' :: 's' :: 'e' :: rest => some (.bool false, rest)
  | '"' :: rest => (readString rest).map fun (text, rest) => (.string text, rest)
  | cs => (readNumeral cs).map fun (value, rest) => (.number value, rest)

/-! ### What a reader leaves is shorter -/

theorem readUnits_shorter {cs : List Char} {result : List CodeUnit × List Char}
    (h : readUnits cs = some result) : result.2.length < cs.length := by
  fun_induction readUnits cs generalizing result with
  | case1 => simp at h
  | case2 rest => grind
  | case3 a b c d rest code units left hu hc ih => grind
  | case4 => simp at h
  | case5 e rest _ c units left hu hc ih => grind
  | case6 => simp at h
  | case7 => simp at h
  | case8 c rest _ _ _ _ units left hu ih => grind
  | case9 => simp at h

theorem readDigits_length (cs : List Char) :
    (readDigits cs).1.length + (readDigits cs).2.length = cs.length := by
  fun_induction readDigits cs with
  | case1 => rfl
  | case2 c rest d hd ih =>
    simp only [List.length_cons]
    omega
  | case3 => simp

theorem readWhole_shorter {cs rest : List Char} {whole : Nat}
    (h : readWhole cs = some (whole, rest)) : rest.length < cs.length := by
  have := readDigits_length cs
  unfold readWhole at h
  grind

theorem readFraction_le {cs rest : List Char} {fraction : List Digit}
    (h : readFraction cs = some (fraction, rest)) : rest.length ≤ cs.length := by
  unfold readFraction at h
  split at h
  · rename_i tail
    have := readDigits_length tail
    grind
  · grind

theorem readSign_le (cs : List Char) : (readSign cs).2.length ≤ cs.length := by
  unfold readSign
  split <;> simp

theorem readPower_le {cs rest : List Char} {power : Int}
    (h : readPower cs = some (power, rest)) : rest.length ≤ cs.length := by
  have := readSign_le cs
  have := readDigits_length (readSign cs).2
  unfold readPower at h
  grind

theorem readExponent_le {cs rest : List Char} {exponent : Option Int}
    (h : readExponent cs = some (exponent, rest)) : rest.length ≤ cs.length := by
  unfold readExponent at h
  split at h
  · obtain ⟨⟨power, left⟩, hp, he⟩ := Option.map_eq_some_iff.1 h
    have := readPower_le hp
    grind
  · obtain ⟨⟨power, left⟩, hp, he⟩ := Option.map_eq_some_iff.1 h
    have := readPower_le hp
    grind
  · grind

theorem readUnsigned_shorter {negative : Bool} {cs rest : List Char} {value : Numeral}
    (h : readUnsigned negative cs = some (value, rest)) : rest.length < cs.length := by
  simp only [readUnsigned, Option.bind_eq_bind, Option.bind_eq_some_iff, Prod.exists] at h
  obtain ⟨whole, afterWhole, hw, fraction, afterFraction, hf, exponent, afterExponent, he, hv⟩ := h
  have := readWhole_shorter hw
  have := readFraction_le hf
  have := readExponent_le he
  grind

theorem readNumeral_shorter {cs rest : List Char} {value : Numeral}
    (h : readNumeral cs = some (value, rest)) : rest.length < cs.length := by
  unfold readNumeral at h
  split at h
  · have := readUnsigned_shorter h
    grind
  · exact readUnsigned_shorter h

theorem nextToken_shorter {cs rest : List Char} {token : Token}
    (h : nextToken cs = some (token, rest)) : rest.length < cs.length := by
  unfold nextToken at h
  split at h
  case h_10 =>
    obtain ⟨⟨text, left⟩, hs, he⟩ := Option.map_eq_some_iff.1 h
    obtain ⟨⟨units, left⟩, hu, hl⟩ := Option.map_eq_some_iff.1 hs
    have := readUnits_shorter hu
    grind
  case h_11 =>
    obtain ⟨⟨value, left⟩, hn, he⟩ := Option.map_eq_some_iff.1 h
    have := readNumeral_shorter hn
    grind
  all_goals grind

/-- All tokens of a text, or nothing if some part of it is no token. -/
def tokenize : List Char → Option (List Token)
  | [] => some []
  | c :: rest =>
    if isGap c then tokenize rest
    else match h : nextToken (c :: rest) with
      | none => none
      | some (token, left) =>
        have : left.length < rest.length + 1 := by simpa using nextToken_shorter h
        (tokenize left).map (token :: ·)
termination_by cs => cs.length

end WalletWatch.Json
