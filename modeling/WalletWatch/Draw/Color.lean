import WalletWatch.Text.Hex
/-!
# Colours

The colours that texts are drawn in, and the colour that a tag of the server stands for.
-/

namespace WalletWatch

/-- A colour, by its three parts and its opacity. -/
structure Color where
  red : UInt8
  green : UInt8
  blue : UInt8
  alpha : UInt8
deriving DecidableEq, Repr

namespace Color

def rgb (red green blue : UInt8) : Color := ⟨red, green, blue, 255⟩

def hexByte (b : UInt8) : List Char :=
  [Text.hexLower (b.toNat / 16), Text.hexLower (b.toNat % 16)]

def hex (c : Color) : String :=
  String.ofList ('#' :: [c.red, c.green, c.blue, c.alpha].flatMap hexByte)

/-- What stands out. -/
def primary : Color := rgb 0xff 0xff 0xff
/-- Ordinary text. -/
def secondary : Color := rgb 0xe4 0xe4 0xe7
/-- Labels. -/
def muted : Color := rgb 0xa1 0xa1 0xaa
/-- What stays in the background. -/
def dim : Color := rgb 0x71 0x71 0x7a
/-- The title of the screen. -/
def accent : Color := rgb 0x3b 0x82 0xf6

/-- The colour that a tag of the server stands for; that of ordinary text for any other tag, and for
none. -/
def ofTag : Option String → Color
  | some "blue" => rgb 0x60 0xa5 0xfa
  | some "yellow" => rgb 0xfb 0xbf 0x24
  | some "cyan" => rgb 0x22 0xd3 0xee
  | some "red" => rgb 0xf8 0x71 0x71
  | some "green" => rgb 0x34 0xd3 0x99
  | _ => secondary

end Color

end WalletWatch
