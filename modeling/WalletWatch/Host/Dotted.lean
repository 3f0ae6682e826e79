import WalletWatch.Text.Cut
import WalletWatch.Text.Hex
/-!
# Dotted numbers

A host can be given by a number of thirty-two bits. It is written in up to four parts: each part but
the last gives one byte, and the last one gives all bytes that are left. A part is decimal, or octal
after a zero, or hexadecimal after `0x`. However it was written, such a number is shown as four
bytes in decimal.
-/

namespace WalletWatch.Host.Dotted

/-- The parts between the dots of a name. A dot at the end of a name separates nothing. -/
def parts (cs : List Char) : List (List Char) :=
  match (Text.pieces (· == '.') cs).reverse with
  | [] :: last :: before => (last :: before).reverse
  | pieces => pieces.reverse

def part? : List Char → Option Nat
  | [] => none
  | '0' :: 'x' :: digits => Text.numberIn? 16 digits
  | '0' :: 'X' :: digits => Text.numberIn? 16 digits
  | '0' :: digit :: digits => Text.numberIn? 8 (digit :: digits)
  | digits => Text.numberIn? 10 digits

/-- Whether the last part of a name is a number, so that all of it has to be one. -/
def isNumeric (cs : List Char) : Bool :=
  (parts cs).getLast?.any fun last =>
    (!last.isEmpty && last.all Char.isDigit) || (part? last).isSome

/-- How many numbers some bytes can give. -/
def capacity : (bytes : Nat) → Nat
  | 0 => 1
  | bytes + 1 => 256 * capacity bytes

def ofParts? (numbers : List Nat) : Option Nat :=
  match numbers.reverse with
  | [] => none
  | last :: before =>
    let room := capacity (4 - before.length)
    if before.length < 4 && before.all (· < 256) && last < room then
      some (before.reverse.foldl (fun n byte => 256 * n + byte) 0 * room + last)
    else none

def read? (cs : List Char) : Option Nat :=
  ((parts cs).mapM part?).bind ofParts?

/-- The four bytes of a number, the highest first. -/
def bytes (n : Nat) : List Nat :=
  [n / 16777216 % 256, n / 65536 % 256, n / 256 % 256, n % 256]

def text (n : Nat) : String :=
  ".".intercalate ((bytes n).map toString)

end WalletWatch.Host.Dotted
