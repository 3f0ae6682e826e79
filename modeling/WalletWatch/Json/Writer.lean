import WalletWatch.Json.Token
/-!
# Writing JSON

Two layouts of a document: `compact`, without white space, and `pretty`, with one item or member on
a line and two spaces for each level. A text is written with as few escapes as JSON allows: the
quote, the backslash and the characters below the space, the usual five of them by a letter.
-/

namespace WalletWatch.Json

/-! ## Tokens -/

def escape (c : Char) : List Char :=
  if c = '"' then ['\\', '"']
  else if c = '\\' then ['\\', '\\']
  else if c = '\x08' then ['\\', 'b']
  else if c = '\x0c' then ['\\', 'f']
  else if c = '\n' then ['\\', 'n']
  else if c = '\r' then ['\\', 'r']
  else if c = '\t' then ['\\', 't']
  else if c < ' ' then
    ['\\', 'u', '0', '0', Text.hexLower (c.toNat / 16), Text.hexLower (c.toNat % 16)]
  else [c]

/-- A string literal. One without text is written as half of a surrogate pair, which has none. -/
def quote : Option String → List Char
  | some s => '"' :: s.toList.flatMap escape ++ ['"']
  | none => ['"', '\\', 'u', 'd', '8', '0', '0', '"']

def natText (n : Nat) : List Char :=
  (digitsOf (digitCount n) n).map Digit.toChar

/-- A numeral; the sign of an exponent is always written. -/
def numeralText (n : Numeral) : List Char :=
  (if n.negative then ['-'] else [])
    ++ natText n.whole
    ++ (if n.fraction.isEmpty then [] else '.' :: n.fraction.map Digit.toChar)
    ++ match n.exponent with
      | none => []
      | some power => 'e' :: (if power < 0 then '-' else '+') :: natText power.natAbs

def Token.spell : Token → List Char
  | .openArray => ['[']
  | .closeArray => [']']
  | .openObject => ['\x7b']
  | .closeObject => ['\x7d']
  | .colon => [':']
  | .comma => [',']
  | .null => ['n', 'u', 'l', 'l']
  | .bool true => ['t', 'r', 'u', 'e']
  | .bool false => ['f', 'a', 'l', 's', 'e']
  | .number value => numeralText value
  | .string text => quote text

/-! ## Layouts -/

mutual

def compactChars : Json → List Char
  | .null => Token.null.spell
  | .bool value => (Token.bool value).spell
  | .number value => numeralText value
  | .string text => quote text
  | .array items => '[' :: compactItems items ++ [']']
  | .object members => '\x7b' :: compactMembers members ++ ['\x7d']

/-- The items of an array, with commas between them. -/
def compactItems : List Json → List Char
  | [] => []
  | [item] => compactChars item
  | item :: items => compactChars item ++ ',' :: compactItems items

/-- The members of an object, with commas between them. -/
def compactMembers : List (Option String × Json) → List Char
  | [] => []
  | [(key, value)] => quote key ++ ':' :: compactChars value
  | (key, value) :: members =>
    quote key ++ ':' :: compactChars value ++ ',' :: compactMembers members

end

def compact (value : Json) : String :=
  String.ofList (compactChars value)

/-- A new line, indented by two spaces for each level. -/
def newLine (level : Nat) : List Char :=
  '\n' :: List.replicate (2 * level) ' '

mutual

/-- A document that stands at some level of indentation. -/
def prettyChars (level : Nat) : Json → List Char
  | .null => Token.null.spell
  | .bool value => (Token.bool value).spell
  | .number value => numeralText value
  | .string text => quote text
  | .array [] => ['[', ']']
  | .array (item :: items) =>
    '[' :: prettyItems (level + 1) (item :: items) ++ newLine level ++ [']']
  | .object [] => ['\x7b', '\x7d']
  | .object (member :: members) =>
    '\x7b' :: prettyMembers (level + 1) (member :: members) ++ newLine level ++ ['\x7d']

def prettyItems (level : Nat) : List Json → List Char
  | [] => []
  | [item] => newLine level ++ prettyChars level item
  | item :: items => newLine level ++ prettyChars level item ++ ',' :: prettyItems level items

def prettyMembers (level : Nat) : List (Option String × Json) → List Char
  | [] => []
  | [(key, value)] => newLine level ++ quote key ++ ':' :: ' ' :: prettyChars level value
  | (key, value) :: members =>
    newLine level ++ quote key ++ ':' :: ' ' :: prettyChars level value
      ++ ',' :: prettyMembers level members

end

def pretty (value : Json) : String :=
  String.ofList (prettyChars 0 value)

end WalletWatch.Json
