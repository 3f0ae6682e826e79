import WalletWatch.Text.Cut
import WalletWatch.Text.Hex
/-!
# Tables of characters

How a property of characters is written down: in rows with blanks between them. A row gives the code
of a character, or the first and the last code of a range with `-` between them, in hexadecimal
digits, and then what the table says of these characters.
-/

namespace WalletWatch.Text

/-- Some characters, and what a table says of them. -/
structure Row where
  first : Nat
  last : Nat
  note : List Char
deriving DecidableEq, Repr

namespace Row

/-- The code at the start of a text, and what follows it. -/
def splitCode (cs : List Char) : Nat × List Char :=
  let split := cs.span fun c => (hexValue? c).isSome
  ((numberIn? 16 split.1).getD 0, split.2)

def ofText (cs : List Char) : Row :=
  match splitCode cs with
  | (first, '-' :: rest) =>
    let (last, note) := splitCode rest
    ⟨first, last, note⟩
  | (code, note) => ⟨code, code, note⟩

def covers (code : Nat) (row : Row) : Bool :=
  row.first ≤ code && code ≤ row.last

end Row

def rowsOf (lines : List String) : List Row :=
  lines.flatMap fun line => (pieces (· == ' ') line.toList).map Row.ofText

def noteOf? (rows : List Row) (c : Char) : Option Row :=
  rows.find? (·.covers c.toNat)

def isListed (rows : List Row) (c : Char) : Bool :=
  rows.any (·.covers c.toNat)

/-- The lists of characters in a note: codes are separated by `,` and lists by `/`. -/
def spelled (note : List Char) : List (List Char) :=
  (pieces (· == '/') note).map fun codes =>
    if codes.isEmpty then [] else
      (pieces (· == ',') codes).map fun code => Char.ofNat (Row.splitCode code).1

end WalletWatch.Text
