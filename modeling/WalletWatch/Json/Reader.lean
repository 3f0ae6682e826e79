import WalletWatch.Json.Token
/-!
# Reading JSON

The second half of reading: a list of tokens becomes a tree. An opening bracket is followed at once
by its closing bracket, or by a first item; after an item comes a comma with a further item, or the
closing bracket. So a comma never stands before a closing bracket. `read?` accepts a text only if
one document takes up all of it.
-/

namespace WalletWatch.Json

mutual

/-- Reads one value. Every step takes a token or enters a list, so a budget of twice the number of
tokens, and one more, is never short. -/
def readValue : (budget : Nat) → List Token → Option (Json × List Token)
  | 0, _ => none
  | budget + 1, tokens =>
    match tokens with
    | .null :: rest => some (.null, rest)
    | .bool value :: rest => some (.bool value, rest)
    | .number value :: rest => some (.number value, rest)
    | .string text :: rest => some (.string text, rest)
    | .openArray :: .closeArray :: rest => some (.array [], rest)
    | .openArray :: rest =>
      (readItems budget rest).map fun (items, rest) => (.array items, rest)
    | .openObject :: .closeObject :: rest => some (.object [], rest)
    | .openObject :: rest =>
      (readMembers budget rest).map fun (members, rest) => (.object members, rest)
    | _ => none

/-- Reads the items of an array from the first one on, and the closing bracket. -/
def readItems : (budget : Nat) → List Token → Option (List Json × List Token)
  | 0, _ => none
  | budget + 1, tokens =>
    match readValue budget tokens with
    | some (item, .comma :: rest) =>
      (readItems budget rest).map fun (items, rest) => (item :: items, rest)
    | some (item, .closeArray :: rest) => some ([item], rest)
    | _ => none

/-- Reads the members of an object from the first one on, and the closing bracket. -/
def readMembers : (budget : Nat) → List Token → Option (List (Option String × Json) × List Token)
  | 0, _ => none
  | budget + 1, tokens =>
    match tokens with
    | .string key :: .colon :: rest =>
      match readValue budget rest with
      | some (value, .comma :: rest) =>
        (readMembers budget rest).map fun (members, rest) => ((key, value) :: members, rest)
      | some (value, .closeObject :: rest) => some ([(key, value)], rest)
      | _ => none
    | _ => none

end

/-- The document that a list of tokens writes. -/
def ofTokens? (tokens : List Token) : Option Json :=
  match readValue (2 * tokens.length + 1) tokens with
  | some (value, []) => some value
  | _ => none

/-- The document that a text writes, or nothing if it is not well-formed. -/
def read? (s : String) : Option Json :=
  (tokenize s.toList).bind ofTokens?

end WalletWatch.Json
