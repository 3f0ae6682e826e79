import WalletWatch.Watch.Clock
import WalletWatch.Watch.Frame
/-!
# Runs

A run is a watch that is acted on from outside: frames are drawn, time goes on, loops are started
and cancelled, and in the end the program is closed.
-/

namespace WalletWatch

/-- What is done to a watch from outside. -/
inductive Action
  | frame (view : View)
  | advance (millis : Nat)
  | followForms
  | startPolling
  | stopPolling
  | close
deriving DecidableEq

namespace Watch

def perform (w : Watch) : Action → Watch
  | .frame view => w.frame view
  | .advance millis => w.advance millis
  | .followForms => w.followForms
  | .startPolling => w.startPolling
  | .stopPolling => w.stopPolling
  | .close => w.close

def run (w : Watch) (actions : List Action) : Watch :=
  actions.foldl perform w

@[simp] theorem run_nil (w : Watch) : w.run [] = w := rfl

@[simp] theorem run_cons (w : Watch) (a : Action) (actions : List Action) :
    w.run (a :: actions) = (w.perform a).run actions := rfl

theorem run_append (w : Watch) (first second : List Action) :
    w.run (first ++ second) = (w.run first).run second :=
  List.foldl_append

end Watch

end WalletWatch
