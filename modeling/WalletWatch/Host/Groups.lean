import WalletWatch.Text.Cut
import WalletWatch.Text.Hex
/-!
# Groups of sixteen bits

A host can be given by eight groups of sixteen bits, which are written in up to four hexadecimal
digits and separated by colons. Two colons in a row stand, once, for groups that are zero; the last
two groups can be written as four decimal bytes with dots between them. The longest row of two or
more zeros, the first one of equally long ones, is shown as two colons.
-/

namespace WalletWatch.Host.Groups

/-! ## Reading -/

def group? (digits : List Char) : Option Nat :=
  if digits.isEmpty || 4 < digits.length then none else Text.numberIn? 16 digits

/-- A byte in decimal digits without zeros before it. -/
def byte? : List Char → Option Nat
  | [] => none
  | ['0'] => some 0
  | '0' :: _ => none
  | digits => (Text.numberIn? 10 digits).filter (· < 256)

def ofBytes? (cs : List Char) : Option (List Nat) :=
  match (Text.pieces (· == '.') cs).mapM byte? with
  | some [a, b, c, d] => some [256 * a + b, 256 * c + d]
  | _ => none

/-- The groups of a row; only at the end of the whole text can the last of them be bytes. -/
def row? (atEnd : Bool) : List (List Char) → Option (List Nat)
  | [] => some []
  | [last] =>
    match group? last with
    | some group => some [group]
    | none => if atEnd then ofBytes? last else none
  | piece :: others =>
    match group? piece, row? atEnd others with
    | some group, some groups => some (group :: groups)
    | _, _ => none

/-- The pieces with one empty piece where two colons stand at the start. A single colon cannot stand
there. -/
def mendStart? : List (List Char) → Option (List (List Char))
  | [] :: [] :: others => some ([] :: others)
  | [] :: _ => none
  | pieces => some pieces

/-- The same for the end. -/
def mendEnd? (pieces : List (List Char)) : Option (List (List Char)) :=
  (mendStart? pieces.reverse).map List.reverse

/-- Eight groups from the ones before and after two colons, or from all of them. -/
def ofRows? (before : List Nat) : Option (List Nat) → Option (List Nat)
  | none => if before.length = 8 then some before else none
  | some after =>
    if before.length + after.length < 8 then
      some (before ++ List.replicate (8 - before.length - after.length) 0 ++ after)
    else none

def read? (cs : List Char) : Option (List Nat) := do
  let pieces ← mendStart? (Text.pieces (· == ':') cs)
  let pieces ← mendEnd? pieces
  match pieces.span (! ·.isEmpty) with
  | (all, []) => ofRows? (← row? true all) none
  | (before, _ :: after) => ofRows? (← row? false before) (some (← row? true after))

/-! ## Writing -/

/-- A group in lower-case digits, without zeros before it. -/
def digits (group : Nat) : String :=
  String.ofList (Nat.toDigits 16 group)

/-- How many zeros stand in a row from a place on. -/
def zerosFrom (groups : List Nat) (place : Nat) : Nat :=
  ((groups.drop place).takeWhile (· == 0)).length

def longestZeros (groups : List Nat) : Nat :=
  (List.range groups.length).foldl
    (fun best place => if zerosFrom groups best < zerosFrom groups place then place else best) 0

def joined (groups : List Nat) : String :=
  ":".intercalate (groups.map digits)

def text (groups : List Nat) : String :=
  let start := longestZeros groups
  let count := zerosFrom groups start
  if count < 2 then joined groups
  else joined (groups.take start) ++ "::" ++ joined (groups.drop (start + count))

end WalletWatch.Host.Groups
