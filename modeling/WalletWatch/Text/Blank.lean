/-!
# White space

The characters that separate words and that are cut from the ends of a text: the code points with
the Unicode property `White_Space`. A zero-width space, a byte-order mark and the separators below
the space (U+001C to U+001F) do not have it.
-/

namespace WalletWatch.Text

/-- The code points with the property `White_Space`, as inclusive ranges. -/
def blankRanges : List (Nat × Nat) :=
  [(0x0009, 0x000D), (0x0020, 0x0020), (0x0085, 0x0085), (0x00A0, 0x00A0), (0x1680, 0x1680),
    (0x2000, 0x200A), (0x2028, 0x2029), (0x202F, 0x202F), (0x205F, 0x205F), (0x3000, 0x3000)]

def isBlank (c : Char) : Bool :=
  blankRanges.any fun range => range.1 ≤ c.toNat && c.toNat ≤ range.2

/-- The ranges hold twenty-five code points. -/
example : (blankRanges.map fun range => range.2 + 1 - range.1).sum = 25 := by decide

theorem isBlank_space : isBlank ' ' = true := by decide

end WalletWatch.Text
