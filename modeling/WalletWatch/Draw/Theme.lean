import WalletWatch.Draw.Color
/-!
# The theme

The dark theme of the window: the fills and strokes of its parts, the look of a control in each of
its states, and the two frames that hold the elements of a page and the notice of a shutdown.
Lengths are in tenths of a point where they can be fractions.
-/

namespace WalletWatch

structure Stroke where
  tenths : Nat
  color : Color
deriving DecidableEq, Repr

/-- The look of a control in one of its states. -/
structure ControlStyle where
  fill : Color
  weakFill : Color
  border : Stroke
  text : Stroke
  radius : Nat
  /-- How far the control grows, in tenths of a point. -/
  growth : Int
deriving DecidableEq, Repr

/-- A frame around a part of the window. -/
structure FrameStyle where
  fill : Color
  border : Stroke
  radius : Nat
  margin : Nat
deriving DecidableEq, Repr

namespace Color

def base : Color := rgb 0x0b 0x0d 0x12
def elevated : Color := rgb 0x16 0x19 0x21
def surface : Color := rgb 0x22 0x26 0x30
def hover : Color := rgb 0x12 0x1c 0x2b
def button : Color := rgb 0x2b 0x30 0x3b
def subtleBorder : Color := rgb 0x26 0x2a 0x33
def border : Color := rgb 0x3f 0x44 0x4f
def noticeFill : Color := rgb 0x10 0x12 0x18
def transparent : Color := ⟨0, 0, 0, 0⟩

end Color

namespace Stroke

def none : Stroke := ⟨0, .transparent⟩

def usual (color : Color) : Stroke := ⟨10, color⟩

def medium (color : Color) : Stroke := ⟨15, color⟩

end Stroke

namespace Theme

def radius : Nat := 4

/-- The radius of a frame, and of a window. -/
def largeRadius : Nat := 8

def still : ControlStyle :=
  ⟨.elevated, .surface, .usual .subtleBorder, .usual .primary, radius, 0⟩

def inactive : ControlStyle :=
  ⟨.transparent, .button, .usual .subtleBorder, .usual .secondary, radius, 0⟩

def hovered : ControlStyle :=
  ⟨.hover, .surface, .none, .medium .primary, radius, 0⟩

def active : ControlStyle :=
  ⟨.surface, .surface, .none, .usual .primary, radius, -20⟩

def opened : ControlStyle :=
  ⟨.surface, .elevated, .usual .subtleBorder, .usual .primary, radius, 0⟩

def windowBorder : Stroke := .usual .border

/-- The space between two parts, across and down. -/
def itemSpacing : Nat × Nat := (80, 60)

/-- The space inside a button, across and down. -/
def buttonPadding : Nat × Nat := (120, 60)

/-- The frame around the elements of a page. -/
def card : FrameStyle := ⟨.elevated, .usual .subtleBorder, largeRadius, 12⟩

/-- The frame around the notice of a shutdown. -/
def modal : FrameStyle := ⟨.noticeFill, .usual .subtleBorder, largeRadius, 16⟩

end Theme

end WalletWatch
