import WalletWatch.Host.Label
import WalletWatch.Host.Punycode
import WalletWatch.Http.Percent
/-!
# Names of hosts

A name is percent-decoded, its characters are mapped, and each label with other characters than
those of ASCII is put into its form in ASCII, behind a mark. A label that was given in that form has
to be the form of a label. Some characters of ASCII cannot stand in a name, however they got there.
-/

namespace WalletWatch.Host.Name

/-- Whether a character cannot stand in a name: control characters, the space, and what separates
the parts of an address. -/
def isForbidden (c : Char) : Bool :=
  c ≤ ' ' || c == '\x7f'
    || ['%', '#', '/', ':', '<', '>', '?', '@', '[', '\\', ']', '^', '|'].contains c

def isAscii (cs : List Char) : Bool :=
  cs.all (·.toNat < 0x80)

/-- The mark before a label in its form in ASCII. -/
def codedMark : List Char := ['x', 'n', '-', '-']

/-- A label as it is written and as it is meant. -/
structure Labelled where
  written : List Char
  meant : List Char

/-- The greatest length of a label that has a form in ASCII. -/
def greatestLabel : Nat := 1000

def greatestForm : Nat := 2000

/-- Reads a label that is given in its form in ASCII, without the mark. -/
def ofCoded? (form : List Char) : Option Labelled :=
  if !isAscii form || greatestForm < form.length then none
  else
    match Punycode.decode? form with
    | none => none
    | some label =>
      if isAscii label || greatestLabel < label.length || !Label.isValid label then none
      else some ⟨codedMark ++ form, label⟩

def ofLabel? (label : List Char) : Option Labelled :=
  if codedMark.isPrefixOf label then ofCoded? (label.drop codedMark.length)
  else if isAscii label then some ⟨label, label⟩
  else if greatestLabel < label.length || !Label.isValid label then none
  else some ⟨codedMark ++ Punycode.encode label, label⟩

def ofMapped? (cs : List Char) : Option (List Char) := do
  let labels ← (Text.pieces (· == '.') cs).mapM ofLabel?
  if labels.any (Label.turnsName ·.meant) && !labels.all (Label.keepsDirection ·.meant) then none
  else return List.intercalate ['.'] (labels.map (·.written))

/-- Whether a name is one that only lower case is to be brought to. -/
def isSimple (cs : List Char) : Bool :=
  isAscii cs && (Text.pieces (· == '.') (cs.map Char.toLower)).all (! codedMark.isPrefixOf ·)

def read? (cs : List Char) : Option (List Char) := do
  let decoded ← String.fromUTF8? ⟨(Http.percentDecode cs).toArray⟩
  let name ← if isSimple decoded.toList then some (decoded.toList.map Char.toLower)
    else (Mapping.ofText? decoded.toList).bind fun mapped =>
      ofMapped? (Composition.normal mapped)
  if name.any isForbidden then none else return name

end WalletWatch.Host.Name
