import WalletWatch.Host.CompositionTable
import WalletWatch.Text.Rows
/-!
# Composition

A letter with a mark can be written as one character or as two. The normal form of a name uses one
character where there is one: all characters are taken apart, the marks after a letter are put into
the order of their classes, and then each letter takes in the marks that it can be composed with. A
mark that cannot be taken in keeps those of its class behind it from being taken in.
-/

namespace WalletWatch.Host.Composition

open Text

/-! ## Pairs -/

def pairRows : List Row := rowsOf pairTable

def classRows : List Row := rowsOf classTable

/-- The class of a mark; letters have class zero. -/
def classOf (c : Char) : Nat :=
  match noteOf? classRows c with
  | some ⟨_, _, '=' :: code⟩ => (Row.splitCode code).1
  | _ => 0

/-- The characters of a row of the table, each with the two that it is composed of. -/
def pairsOf (row : Row) : List (Char × List Char) :=
  (spelled (row.note.drop 1)).zipIdx.map fun (pair, place) => (Char.ofNat (row.first + place), pair)

def pairs : List (Char × List Char) := pairRows.flatMap pairsOf

/-! ## Korean syllables -/

def firstSyllable : Nat := 0xAC00

/-- The code of the first letter that a syllable can begin with. -/
def firstInitial : Nat := 0x1100

def firstVowel : Nat := 0x1161

/-- The code before that of the first letter that a syllable can end in. -/
def beforeFinals : Nat := 0x11A7

def initialCount : Nat := 19

def vowelCount : Nat := 21

/-- How many endings a syllable has: a final letter, or none. -/
def endingCount : Nat := 28

/-- The letters of a syllable. -/
def syllableParts? (c : Char) : Option (List Char) :=
  let place := c.toNat - firstSyllable
  if c.toNat < firstSyllable || initialCount * vowelCount * endingCount ≤ place then none
  else
    let initial := Char.ofNat (firstInitial + place / (vowelCount * endingCount))
    let vowel := Char.ofNat (firstVowel + place / endingCount % vowelCount)
    if place % endingCount = 0 then some [initial, vowel]
    else some [initial, vowel, Char.ofNat (beforeFinals + place % endingCount)]

/-- The syllable that an initial letter and a vowel make, or a syllable without a final letter and a
final letter. -/
def syllable? (a b : Char) : Option Char :=
  if firstInitial ≤ a.toNat && a.toNat < firstInitial + initialCount
      && firstVowel ≤ b.toNat && b.toNat < firstVowel + vowelCount then
    some (Char.ofNat (firstSyllable
      + ((a.toNat - firstInitial) * vowelCount + (b.toNat - firstVowel)) * endingCount))
  else
    let place := a.toNat - firstSyllable
    if firstSyllable ≤ a.toNat && place < initialCount * vowelCount * endingCount
        && place % endingCount = 0
        && beforeFinals < b.toNat && b.toNat < beforeFinals + endingCount then
      some (Char.ofNat (a.toNat + (b.toNat - beforeFinals)))
    else none

/-! ## Taking apart -/

/-- The parts of a character, each taken apart again for a number of times. -/
def partsOf : (depth : Nat) → Char → List Char
  | 0, c => [c]
  | depth + 1, c =>
    match syllableParts? c with
    | some parts => parts
    | none =>
      match pairs.lookup c with
      | some parts => parts.flatMap (partsOf depth)
      | none => [c]

/-- How often a character is taken apart; no part of it is composed any more after that. -/
def depth : Nat := 4

def takenApart (cs : List Char) : List Char :=
  cs.flatMap (partsOf depth)

/-! ## Ordering -/

/-- Puts a mark before those of a higher class that stand at the end of a text; the text is given
from its end to its start. -/
def insertMark (c : Char) (level : Nat) : List Char → List Char
  | [] => [c]
  | last :: before =>
    if level != 0 && level < classOf last then last :: insertMark c level before
    else c :: last :: before

/-- A text with its marks in order. -/
def ordered (cs : List Char) : List Char :=
  (cs.foldl (fun done c => insertMark c (classOf c) done) []).reverse

/-! ## Composing -/

def compose? (a b : Char) : Option Char :=
  (syllable? a b).or ((pairs.find? (·.2 == [a, b])).map (·.1))

/-- A letter that may still take in marks: the letter, and the marks after it that it did not take
in, the last one first. -/
structure Open where
  letter : Char
  marks : List Char

/-- A letter, and what it did not take in. -/
def Open.close (o : Open) : List Char :=
  o.letter :: o.marks.reverse

/-- Whether a mark of some class can reach the letter over the marks between them. -/
def Open.lets (o : Open) (level : Nat) : Bool :=
  match o.marks with
  | [] => true
  | last :: _ => classOf last < level

/-- Composes the letters of a text with their marks. -/
def composed : Option Open → List Char → List Char
  | none, [] => []
  | some o, [] => o.close
  | none, c :: rest =>
    if classOf c = 0 then composed (some ⟨c, []⟩) rest else c :: composed none rest
  | some o, c :: rest =>
    let level := classOf c
    match (if o.lets level then compose? o.letter c else none) with
    | some letter => composed (some { o with letter }) rest
    | none =>
      if level = 0 then o.close ++ composed (some ⟨c, []⟩) rest
      else composed (some { o with marks := c :: o.marks }) rest

def normal (cs : List Char) : List Char :=
  composed none (ordered (takenApart cs))

end WalletWatch.Host.Composition
