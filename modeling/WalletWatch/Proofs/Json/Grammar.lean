import WalletWatch.Json.Token
/-!
# The grammar of JSON

Which texts write a document, said without a reader: a relation between a document and the lists of
characters that write it (`Written`, and `Document` for a text with white space around it). A
document has many texts. White space may stand around every value, every key and every mark; a
character of a string literal may stand for itself or be escaped in several ways; the exponent of a
numeral has a letter in either case, and may have a plus sign and zeros in front.

A string literal whose escapes name half of a surrogate pair is well-formed, but writes no text.
-/

namespace WalletWatch.Json

/-! ## White space -/

/-- A text that is white space. -/
def Gap (cs : List Char) : Prop :=
  ∀ c ∈ cs, c ∈ [' ', '\t', '\n', '\r']

/-- A text of some kind with white space around it. -/
def Padded (P : List Char → Prop) (cs : List Char) : Prop :=
  ∃ before inner after, cs = before ++ (inner ++ after) ∧ Gap before ∧ P inner ∧ Gap after

/-! ## String literals -/

/-- A digit of a number below sixteen, in either case. -/
def IsHexDigit (n : Nat) (c : Char) : Prop :=
  n < 16 ∧ (c = Text.hexLower n ∨ c = Text.hexUpper n)

/-- The escape that names a code by four hexadecimal digits. -/
inductive CodeEscape : Nat → List Char → Prop
  | digits {a b c d : Nat} {w x y z : Char} (ha : IsHexDigit a w) (hb : IsHexDigit b x)
      (hc : IsHexDigit c y) (hd : IsHexDigit d z) :
      CodeEscape (((a * 16 + b) * 16 + c) * 16 + d) ['\\', 'u', w, x, y, z]

/-- The letters that stand for a character after a backslash. -/
def letters : List (Char × Char) := [
  ('"', '"'), ('\\', '\\'), ('/', '/'), ('b', '\x08'), ('f', '\x0c'), ('n', '\n'), ('r', '\r'),
  ('t', '\t')]

/-- One piece of a string literal, and what it stands for. -/
inductive Piece : CodeUnit → List Char → Prop
  /-- A character from the space on stands for itself, unless it is a quote or a backslash. -/
  | plain {c : Char} (visible : ' ' ≤ c) (quote : c ≠ '"') (backslash : c ≠ '\\') :
      Piece (.scalar c) [c]
  | letter {e c : Char} (h : (e, c) ∈ letters) : Piece (.scalar c) ['\\', e]
  | code {c : Char} {cs : List Char} (h : CodeEscape c.toNat cs) : Piece (.scalar c) cs
  /-- The code of half of a surrogate pair. -/
  | half {n : Nat} {cs : List Char} (low : 0xD800 ≤ n) (high : n < 0xE000)
      (h : CodeEscape n cs) : Piece (.half n) cs

/-- The inside of a well-formed string literal. -/
inductive Pieces : List CodeUnit → List Char → Prop
  | nil : Pieces [] []
  | cons {u : CodeUnit} {us : List CodeUnit} {cs ds : List Char} (first : Piece u cs)
      (others : Pieces us ds) : Pieces (u :: us) (cs ++ ds)

/-- The inside of a string literal that writes a text. Each character is written by one piece, or,
from the code `0x10000` on, by the two halves of its surrogate pair. -/
inductive Spells : List Char → List Char → Prop
  | nil : Spells [] []
  | one {c : Char} {text cs ds : List Char} (first : Piece (.scalar c) cs)
      (others : Spells text ds) : Spells (c :: text) (cs ++ ds)
  | pair {c : Char} {text cs ds es : List Char} (beyond : 0x10000 ≤ c.toNat)
      (high : CodeEscape (0xD800 + (c.toNat - 0x10000) / 0x400) cs)
      (low : CodeEscape (0xDC00 + (c.toNat - 0x10000) % 0x400) ds)
      (others : Spells text es) : Spells (c :: text) (cs ++ (ds ++ es))

/-- A string literal that writes a text. -/
def Quoted (s : String) (cs : List Char) : Prop :=
  ∃ inner, cs = '"' :: (inner ++ ['"']) ∧ Spells s.toList inner

/-- A well-formed string literal, with the text that it writes, if it writes one. -/
def Literal (text : Option String) (cs : List Char) : Prop :=
  (∃ us inner, cs = '"' :: (inner ++ ['"']) ∧ Pieces us inner) ∧
    ∀ s, text = some s ↔ Quoted s cs

/-! ## Numerals -/

/-- At least one digit, and no zero before another digit. -/
inductive WholeText : Nat → List Char → Prop
  | digits {d : Digit} {ds : List Digit} (leading : d = 0 → ds = []) :
      WholeText (Digit.number 0 (d :: ds)) ((d :: ds).map Digit.toChar)

/-- A point with at least one digit, or nothing. -/
inductive FractionText : List Digit → List Char → Prop
  | absent : FractionText [] []
  | digits {d : Digit} {ds : List Digit} :
      FractionText (d :: ds) ('.' :: (d :: ds).map Digit.toChar)

/-- The sign of an exponent. -/
inductive SignText : Bool → List Char → Prop
  | absent : SignText false []
  | plus : SignText false ['+']
  | minus : SignText true ['-']

/-- The exponent of a numeral: a letter, perhaps a sign, and at least one digit; or nothing. -/
inductive ExponentText : Option Int → List Char → Prop
  | absent : ExponentText none []
  | digits {mark : Char} {negative : Bool} {sign : List Char} {d : Digit} {ds : List Digit}
      (letter : mark = 'e' ∨ mark = 'E') (signed : SignText negative sign) :
      ExponentText
        (some (if negative then -(Digit.number 0 (d :: ds) : Int) else Digit.number 0 (d :: ds)))
        (mark :: (sign ++ (d :: ds).map Digit.toChar))

/-- A numeral and a text that writes it. -/
def NumeralText (n : Numeral) (cs : List Char) : Prop :=
  ∃ whole fraction exponent,
    cs = (if n.negative then ['-'] else []) ++ (whole ++ (fraction ++ exponent)) ∧
      WholeText n.whole whole ∧ FractionText n.fraction fraction ∧
      ExponentText n.exponent exponent

/-! ## Documents -/

mutual

/-- A document and a text that writes it. -/
def Written : Json → List Char → Prop
  | .null, cs => cs = ['n', 'u', 'l', 'l']
  | .bool true, cs => cs = ['t', 'r', 'u', 'e']
  | .bool false, cs => cs = ['f', 'a', 'l', 's', 'e']
  | .number value, cs => NumeralText value cs
  | .string text, cs => Literal text cs
  | .array items, cs => ∃ inner, cs = '[' :: (inner ++ [']']) ∧ WrittenItems items inner
  | .object members, cs =>
    ∃ inner, cs = '\x7b' :: (inner ++ ['\x7d']) ∧ WrittenMembers members inner

/-- The items of an array, with a comma between each two. -/
def WrittenItems : List Json → List Char → Prop
  | [], cs => Gap cs
  | [item], cs => Padded (Written item) cs
  | item :: next :: items, cs => ∃ first others, cs = first ++ ',' :: others ∧
      Padded (Written item) first ∧ WrittenItems (next :: items) others

/-- The members of an object, with a comma between each two. -/
def WrittenMembers : List (Option String × Json) → List Char → Prop
  | [], cs => Gap cs
  | [(key, value)], cs => ∃ name content, cs = name ++ ':' :: content ∧
      Padded (Literal key) name ∧ Padded (Written value) content
  | (key, value) :: next :: members, cs => ∃ name content others,
      cs = name ++ ':' :: (content ++ ',' :: others) ∧ Padded (Literal key) name ∧
        Padded (Written value) content ∧ WrittenMembers (next :: members) others

end

/-- A document and a text that holds it, with white space around it. -/
def Document (v : Json) : List Char → Prop :=
  Padded (Written v)

end WalletWatch.Json
