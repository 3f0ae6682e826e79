import WalletWatch.Text.Cut
/-!
# Labels in ASCII

A label with other characters than those of ASCII has a form in ASCII: its ASCII characters, a
hyphen, and a number for each other character in the order of their codes. A number counts the
places that are passed over since the last insertion, where a round through all places raises the
code by one. Its digits are in base 36, the lowest first; the digit that ends a number is below a
threshold, and the thresholds follow the numbers that came before.
-/

namespace WalletWatch.Host.Punycode

/-! ## Digits -/

def digitChar (digit : Nat) : Char :=
  if digit < 26 then Char.ofNat (97 + digit) else Char.ofNat (22 + digit)

def digit? (c : Char) : Option Nat :=
  if c.isLower then some (c.toNat - 97)
  else if c.isUpper then some (c.toNat - 65)
  else if c.isDigit then some (c.toNat - 22)
  else none

/-- The threshold for a digit of a number. -/
def threshold (bias place : Nat) : Nat :=
  max 1 (min 26 (36 * (place + 1) - bias))

/-- Divides until a number is small, and counts the divisions. -/
def scaleDown (n : Nat) : Nat × Nat :=
  if n ≤ 455 then (n, 0)
  else
    let scaled := scaleDown (n / 35)
    (scaled.1, scaled.2 + 1)
termination_by n
decreasing_by exact Nat.div_lt_self (by omega) (by decide)

/-- The bias for the next number, after one that made a label longer. -/
def biasAfter (number length : Nat) (first : Bool) : Nat :=
  let damped := if first then number / 700 else number / 2
  let scaled := scaleDown (damped + damped / length)
  36 * scaled.2 + 36 * scaled.1 / (scaled.1 + 38)

/-- The code before which all characters are ASCII. -/
def firstCode : Nat := 128

def firstBias : Nat := 72

/-! ## Writing -/

theorem threshold_pos (bias place : Nat) : 0 < threshold bias place := by
  unfold threshold
  omega

theorem threshold_le (bias place : Nat) : threshold bias place ≤ 26 := by
  unfold threshold
  omega

/-- The digits of a number from some place on. -/
def numberFrom (bias place n : Nat) : List Char :=
  let t := threshold bias place
  if n < t then [digitChar n]
  else digitChar (t + (n - t) % (36 - t)) :: numberFrom bias (place + 1) ((n - t) / (36 - t))
termination_by n
decreasing_by
  have := threshold_pos bias place
  have := Nat.div_le_self (n - threshold bias place) (36 - threshold bias place)
  omega

/-- What is known while a label is written: the text so far, the places passed over, the bias, and
how many characters are done. -/
structure Writing where
  text : List Char
  passed : Nat
  bias : Nat
  done : Nat

/-- Passes a character of the label, or writes it if it is the one with the code at hand. -/
def Writing.step (start code : Nat) (w : Writing) (c : Char) : Writing :=
  if c.toNat < code then { w with passed := w.passed + 1 }
  else if c.toNat = code then
    { text := w.text ++ numberFrom w.bias 0 w.passed
      passed := 0
      bias := biasAfter w.passed (w.done + 1) (w.done == start)
      done := w.done + 1 }
  else w

/-- Writes the characters of some codes, which are given in order. -/
def writeCodes (label : List Char) (start : Nat) : (before : Nat) → List Nat → Writing → Writing
  | _, [], w => w
  | before, code :: codes, w =>
    let moved := { w with passed := w.passed + (code - before) * (w.done + 1) }
    let written := label.foldl (Writing.step start code) moved
    writeCodes label start (code + 1) codes { written with passed := written.passed + 1 }

/-- Puts a code into its place among some in order, unless it is there. -/
def insertCode (code : Nat) : List Nat → List Nat
  | [] => [code]
  | first :: rest =>
    if code < first then code :: first :: rest
    else if code = first then first :: rest
    else first :: insertCode code rest

def encode (label : List Char) : List Char :=
  let plain := label.filter (·.toNat < firstCode)
  let codes := ((label.map Char.toNat).filter (firstCode ≤ ·)).foldr insertCode []
  let written := writeCodes label plain.length firstCode codes ⟨[], 0, firstBias, plain.length⟩
  plain ++ (if plain.isEmpty then [] else ['-']) ++ written.text

/-! ## Reading -/

/-- The greatest weight that a digit can have. -/
def greatestWeight : Nat := 4294967295

/-- Reads a number from some place on. -/
def readNumber (bias : Nat) : (place weight : Nat) → List Char → Option (Nat × List Char)
  | _, _, [] => none
  | place, weight, c :: rest =>
    match digit? c with
    | none => none
    | some digit =>
      let t := threshold bias place
      if digit < t then some (digit * weight, rest)
      else if greatestWeight < weight * (36 - t) then none
      else (readNumber bias (place + 1) (weight * (36 - t)) rest).map fun (n, rest) =>
        (digit * weight + n, rest)

theorem readNumber_shorter {bias place weight n : Nat} {cs rest : List Char}
    (h : readNumber bias place weight cs = some (n, rest)) : rest.length < cs.length := by
  induction cs generalizing place weight n with
  | nil => simp [readNumber] at h
  | cons c cs ih =>
    simp only [readNumber] at h
    split at h
    · simp at h
    · split at h
      · simp only [Option.some.injEq, Prod.mk.injEq] at h
        simp [← h.2]
      split at h
      · simp at h
      · obtain ⟨⟨m, left⟩, hm, he⟩ := Option.map_eq_some_iff.1 h
        simp only [Prod.mk.injEq] at he
        rw [he.2] at hm
        have := ih hm
        simp only [List.length_cons]
        omega

/-- Reads the numbers of a label, and puts the characters that they stand for into their places. -/
def readCodes (code place bias : Nat) (first : Bool) (label : List Char) (cs : List Char) :
    Option (List Char) :=
  match cs with
  | [] => some label
  | c :: rest =>
    match _ : readNumber bias 0 1 (c :: rest) with
    | none => none
    | some (n, left) =>
      let length := label.length + 1
      let next := code + (place + n) / length
      let here := (place + n) % length
      if next.isValidChar then
        readCodes next (here + 1) (biasAfter n length first) false
          (label.take here ++ Char.ofNat next :: label.drop here) left
      else none
termination_by cs.length
decreasing_by exact readNumber_shorter (by assumption)

/-- The label that has a form in ASCII. -/
def decode? (cs : List Char) : Option (List Char) :=
  let numbers := (cs.reverse.takeWhile (· != '-')).reverse
  let plain := cs.take (cs.length - numbers.length - 1)
  if plain.isEmpty then readCodes firstCode 0 firstBias true [] cs
  else readCodes firstCode 0 firstBias true plain numbers

end WalletWatch.Host.Punycode
