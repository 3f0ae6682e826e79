import WalletWatch.Draw.Page
import WalletWatch.Watch.Basic
/-!
# Frames

What one frame of the window does, in this order: it notes where the window is, starts the loops if
they were not, puts the window into the middle of the display if that is still to be done, follows
the submitted forms, and draws the page.
-/

namespace WalletWatch

/-- What a frame shows: where it moves the window, and the texts it draws. -/
structure Drawing where
  centredTo : Option Pair
  texts : List Drawn
deriving DecidableEq

namespace Watch

/-- The place for the window in the middle of the display, if it is still to be put there. -/
def centring (w : Watch) (v : View) : Option Pair :=
  if w.wantsCentre then v.centre? else none

/-- What a frame does before it follows the submitted forms. The wish for the middle is spent even if
the middle is not known. -/
def openFrame (w : Watch) (v : View) : Watch :=
  { { w with window := w.window.track v }.startPolling with wantsCentre := false }

def frame (w : Watch) (v : View) : Watch :=
  (w.openFrame v).followForms

/-- The texts of the page as it is. -/
def texts (w : Watch) : List Drawn :=
  w.session.page.draw w.session.settings.serverUrl w.now

def drawing (w : Watch) (v : View) : Drawing where
  centredTo := w.centring v
  texts := (w.frame v).texts

end Watch

end WalletWatch
