import WalletWatch.Binary.Arithmetic
import WalletWatch.Settings.Basic
/-!
# The window

Where the window is and how large it is. A frame may know the rectangle around the window, the
rectangle inside its borders, and the size of the display; what it knows is kept for the settings of
the next run, and lets the window be put into the middle of the display once.
-/

namespace WalletWatch

open Binary

/-- A pair of coordinates, or of sizes. -/
structure Pair where
  x : Single
  y : Single
deriving DecidableEq

namespace Pair

def sub (a b : Pair) : Pair := ⟨a.x.sub b.x, a.y.sub b.y⟩

def add (a b : Pair) : Pair := ⟨a.x.add b.x, a.y.add b.y⟩

def half (a : Pair) : Pair := ⟨a.x.half, a.y.half⟩

/-- A pair, if both of its parts are known. -/
def both? (x y : Option Single) : Option Pair := do
  return ⟨← x, ← y⟩

def ofNats (x y : Nat) : Pair := ⟨.ofRatio single false x 1, .ofRatio single false y 1⟩

end Pair

/-- A rectangle, by two opposite corners. -/
structure Rect where
  min : Pair
  max : Pair
deriving DecidableEq

def Rect.size (r : Rect) : Pair := r.max.sub r.min

/-- What a frame knows of its surroundings. -/
structure View where
  outer : Option Rect
  inner : Option Rect
  display : Option Pair
deriving DecidableEq

namespace View

/-- Where the window has to be to stand in the middle of the display, if that can be known. A
display without a size does not count. -/
def centre? (v : View) : Option Pair := do
  let outer ← v.outer
  let display ← v.display
  if display.x.exceedsOne && display.y.exceedsOne then
    return (display.sub outer.size).half
  else none

end View

/-- What is known of the window: its corner and its inner size. -/
structure Window where
  corner : Option Pair
  size : Option Pair
deriving DecidableEq

namespace Window

def unseen : Window := ⟨none, none⟩

/-- What is known after a frame; what the frame does not know stays as it was. -/
def track (w : Window) (v : View) : Window where
  corner := (v.outer.map Rect.min).or w.corner
  size := (v.inner.map Rect.size).or w.size

/-- Settings with the geometry of the window; what is not known is missing, whatever the settings
held before. -/
def keepIn (w : Window) (s : Settings) : Settings :=
  { s with
    windowX := w.corner.map Pair.x
    windowY := w.corner.map Pair.y
    windowW := w.size.map Pair.x
    windowH := w.size.map Pair.y }

end Window

namespace Settings

/-- Where the window was, if both coordinates are known. -/
def corner? (s : Settings) : Option Pair := Pair.both? s.windowX s.windowY

/-- How large the window was, if both sizes are known. -/
def size? (s : Settings) : Option Pair := Pair.both? s.windowW s.windowH

end Settings

end WalletWatch
