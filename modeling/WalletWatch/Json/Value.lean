import WalletWatch.Numeral.Basic
/-!
# JSON values

A JSON document as a tree. Two things are kept that a tree of plain values would lose, since what a
document means can depend on them: a number stays the numeral it was written as, and a string
literal whose escapes name half of a surrogate pair stays in the tree as a literal without text. An
object keeps its members in order, repetitions included.
-/

namespace WalletWatch

inductive Json
  | null
  | bool (value : Bool)
  | number (value : Numeral)
  /-- A string literal, with its text unless an escape in it names half of a surrogate pair. -/
  | string (text : Option String)
  | array (items : List Json)
  | object (members : List (Option String × Json))
deriving Repr

namespace Json

def ofText (s : String) : Json := .string (some s)

def text? : Json → Option String
  | .string text => text
  | _ => none

theorem text?_eq_some_iff {v : Json} {s : String} : v.text? = some s ↔ v = ofText s := by
  cases v <;> simp [text?, ofText]

def bool? : Json → Option Bool
  | .bool value => some value
  | _ => none

theorem bool?_eq_some_iff {v : Json} {b : Bool} : v.bool? = some b ↔ v = .bool b := by
  cases v <;> simp [bool?]

/-- The texts of an array that holds string literals only. -/
def texts? : Json → Option (List String)
  | .array items => items.mapM text?
  | _ => none

/-- The value of the first member with a key. -/
def member? (key : String) : Json → Option Json
  | .object members => (members.find? (·.1 == some key)).map (·.2)
  | _ => none

end Json

end WalletWatch
