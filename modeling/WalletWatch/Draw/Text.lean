import WalletWatch.Draw.Color
/-!
# Drawn texts

What a frame is made of here: texts, each with a size, a colour and a family of fonts.
-/

namespace WalletWatch

inductive FontFamily
  | proportional
  | monospace
deriving DecidableEq, Repr

inductive FontSize
  | icon
  | title
  | heading
  | body
  | button
  | small
deriving DecidableEq, Repr

namespace FontFamily

def name : FontFamily → String
  | proportional => "proportional"
  | monospace => "monospace"

end FontFamily

namespace FontSize

def tenths : FontSize → Nat
  | icon => 320
  | title => 180
  | heading => 160
  | body => 140
  | button => 125
  | small => 110

end FontSize

structure Drawn where
  text : String
  size : FontSize
  color : Color
  family : FontFamily
deriving DecidableEq, Repr

namespace Drawn

def plain (text : String) (size : FontSize) (color : Color) : Drawn :=
  ⟨text, size, color, .proportional⟩

def fixed (text : String) (size : FontSize) (color : Color) : Drawn :=
  ⟨text, size, color, .monospace⟩

/-- What is visible of some texts: an empty text is not drawn. -/
def visible (texts : List Drawn) : List Drawn :=
  texts.filter (! ·.text.isEmpty)

end Drawn

end WalletWatch
