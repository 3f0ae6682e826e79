import WalletWatch.Watch.Frame
/-!
# Launching

How the program opens: the directory is made ready, and the window is asked for with the size and at
the place that the settings name. A window without a place is put into the middle of the display by
the first frame.
-/

namespace WalletWatch

/-- What a window is asked for with. -/
structure WindowOptions where
  title : String
  innerSize : Pair
  minInnerSize : Pair
  position : Option Pair
deriving DecidableEq

namespace WindowOptions

/-- The size of a window whose size is not known. -/
def usualSize : Pair := .ofNats 520 420

def leastSize : Pair := .ofNats 420 320

/-- What the window of some settings is asked for with. -/
def ofSettings (s : Settings) : WindowOptions where
  title := Directory.programName
  innerSize := s.size?.getD usualSize
  minInnerSize := leastSize
  position := s.corner?

/-- What a frame knows of a window that stands as it was asked for. Without a position only its
size is known. -/
def view (o : WindowOptions) : View where
  outer := o.position.map fun corner => ⟨corner, corner.add o.innerSize⟩
  inner := some ⟨.ofNats 0 0, o.innerSize⟩
  display := none

end WindowOptions

namespace Watch

def launch (store : Store) (script : Script) (now : Int) : Watch :=
  let started := start store.prepare script now
  { started with
    wantsCentre := (WindowOptions.ofSettings started.session.settings).position.isNone }

end Watch

end WalletWatch
