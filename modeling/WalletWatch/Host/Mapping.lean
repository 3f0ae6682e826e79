import WalletWatch.Host.MappingTable
import WalletWatch.Text.Rows
/-!
# Mapping characters of names

Before a name is taken apart its characters are mapped: letters to lower case, variants of a letter
to the letter, some to nothing. Other characters stand for themselves or are refused.
-/

namespace WalletWatch.Host.Mapping

open Text

def rows : List Row := rowsOf table

def mapped? (row : Row) (c : Char) : Option (List Char) :=
  let place := c.toNat - row.first
  match row.note with
  | '~' :: _ => some [if place % 2 = 0 then Char.ofNat (c.toNat + 1) else c]
  | '+' :: start => some [Char.ofNat ((Row.splitCode start).1 + place)]
  | '>' :: lists => some ((spelled lists).getD place [])
  | _ => none

/-- What a character is mapped to, unless it is refused. -/
def of? (c : Char) : Option (List Char) :=
  if c.toNat < 0x80 then some [c.toLower]
  else match noteOf? rows c with
    | none => some [c]
    | some row => mapped? row c

/-- What a text is mapped to, unless one of its characters is refused. -/
def ofText? (cs : List Char) : Option (List Char) :=
  (cs.mapM of?).map List.flatten

def isKept (c : Char) : Bool :=
  of? c == some [c]

end WalletWatch.Host.Mapping
