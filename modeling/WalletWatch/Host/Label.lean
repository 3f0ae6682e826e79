import WalletWatch.Host.Composition
import WalletWatch.Host.LabelTable
import WalletWatch.Host.Mapping
/-!
# Labels

A label is one of the parts between the dots of a name. Not every text can be one: its characters
have to stand for themselves, it has to be in normal form and does not begin with a mark, and the
two characters that say how letters join stand only where letters do join. If some label of a name
is written from right to left, every label has to keep to one direction.
-/

namespace WalletWatch.Host.Label

open Text

/-! ## Properties -/

def markRows : List Row :=
  rowsOf markTable

def nonspacingRows : List Row :=
  rowsOf nonspacingTable

def rightwardRows : List Row :=
  rowsOf rightwardTable

def arabicNumberRows : List Row :=
  rowsOf arabicNumberTable

def europeanNumberRows : List Row :=
  rowsOf europeanNumberTable

def neutralRows : List Row :=
  rowsOf neutralTable

def joinsLeftRows : List Row :=
  rowsOf joinsLeftTable

def joinsRightRows : List Row :=
  rowsOf joinsRightTable

def joinsBothRows : List Row :=
  rowsOf joinsBothTable

def isMark (c : Char) : Bool :=
  isListed markRows c

/-! ## Joining -/

/-- The character that keeps letters from joining. -/
def nonJoiner : Char := '\u200c'

/-- The character that lets letters join. -/
def joiner : Char := '\u200d'

/-- The class of the marks that join what stands before and after them. -/
def viramaClass : Nat := 9

/-- The marks that letters join through although they have a direction, and a letter that does the
same. -/
def joinedThrough : List Nat :=
  [0xCBF, 0xCC6, 0x1B3A, 0x1B3C, 0x1B42, 0x11A07, 0x11A08, 0x11C3F, 0x1E94B]

/-- Whether letters join through a character as if it were not there. -/
def isTransparent (c : Char) : Bool :=
  isListed nonspacingRows c || joinedThrough.contains c.toNat

/-- Whether a character joins the one after it. -/
def joinsNext (c : Char) : Bool :=
  isListed joinsLeftRows c || isListed joinsBothRows c

/-- Whether a character joins the one before it. -/
def joinsPrevious (c : Char) : Bool :=
  isListed joinsRightRows c || isListed joinsBothRows c

/-- Whether the letters next to a place join, given the text before it from its end to its start. -/
def joins (before after : List Char) : Bool :=
  (before.dropWhile isTransparent).head?.any joinsNext
    && (after.dropWhile isTransparent).head?.any joinsPrevious

/-- Whether the two characters for joining stand only where they can, given the text before, from
its end to its start. -/
def joinsWell : (before : List Char) → List Char → Bool
  | _, [] => true
  | before, c :: rest =>
    (if c = nonJoiner || c = joiner then
      before.head?.any (Composition.classOf · == viramaClass)
        || (c = nonJoiner && joins before rest)
     else true) && joinsWell (c :: before) rest

/-! ## Directions -/

/-- How a character is written in a line. -/
inductive Direction
  | leftward
  | rightward
  | arabicNumber
  | europeanNumber
  | nonspacing
  | neutral
deriving DecidableEq, Repr

def directionOf (c : Char) : Direction :=
  if c.toNat < 0x80 then
    if c.isAlpha then .leftward else if c.isDigit then .europeanNumber else .neutral
  else if isListed rightwardRows c then .rightward
  else if isListed arabicNumberRows c then .arabicNumber
  else if isListed europeanNumberRows c then .europeanNumber
  else if isListed nonspacingRows c then .nonspacing
  else if isListed neutralRows c then .neutral
  else .leftward

/-- Whether a label makes its name one that is written from right to left somewhere. -/
def turnsName (label : List Char) : Bool :=
  label.any fun c => directionOf c == .rightward || directionOf c == .arabicNumber

/-- The last direction of a label, marks aside. -/
def lastDirection? (directions : List Direction) : Option Direction :=
  (directions.reverse.dropWhile (· == .nonspacing)).head?

/-- Whether a label that begins with a letter from left to right keeps to that. -/
def keepsLeft (directions : List Direction) : Bool :=
  directions.all (fun d => d != .rightward && d != .arabicNumber)
    && [some .leftward, some .europeanNumber].contains (lastDirection? directions)

/-- Whether a label that begins with a letter from right to left keeps to that. -/
def keepsRight (directions : List Direction) : Bool :=
  directions.all (· != .leftward)
    && [some .rightward, some .europeanNumber, some .arabicNumber].contains
      (lastDirection? directions)
    && !(directions.contains .europeanNumber && directions.contains .arabicNumber)

def keepsDirection (label : List Char) : Bool :=
  let directions := label.map directionOf
  match directions with
  | [] => true
  | .leftward :: _ => keepsLeft directions
  | .rightward :: _ => keepsRight directions
  | _ => false

/-! ## Labels -/

/-- Whether a text can be a label, its direction aside. -/
def isValid (label : List Char) : Bool :=
  label.all Mapping.isKept && Composition.normal label == label && !label.head?.any isMark
    && joinsWell [] label

end WalletWatch.Host.Label
