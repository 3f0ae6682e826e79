import WalletWatch.Session
import WalletWatch.Settings.Store
import WalletWatch.Watch.Script
import WalletWatch.Window
/-!
# A running watch

Everything a run consists of: the session that loops and frames share, what each loop is doing, the
forms on their way to the server, the window, and the clock. Loops are started once. After they were
cancelled none of them does anything any more.
-/

namespace WalletWatch

/-- What a loop is doing. -/
inductive Activity
  /-- It was not started. -/
  | idle
  /-- It was started, and has not run yet. -/
  | starting
  | resting (wake : Nat)
  | awaiting (answer : Answer) (arrival : Nat)
  | ended

namespace Activity

/-- When a loop has something to do. -/
def due? : Activity → Option Nat
  | resting wake => some wake
  | awaiting _ arrival => some arrival
  | _ => none

/-- Whether a loop was started and has not ended. -/
def isAlive : Activity → Bool
  | idle | ended => false
  | _ => true

end Activity

/-- A running watch. -/
structure Watch where
  session : Session
  store : Store
  window : Window
  /-- Whether the window is still to be put into the middle of the display. -/
  wantsCentre : Bool
  script : Script
  loops : PerFeed Activity
  polling : Bool
  /-- Whether the loops were told to end. -/
  cancelled : Bool
  /-- The milliseconds of the run. -/
  clock : Nat
  /-- The seconds of the day, which tell how old a page is. -/
  now : Int
  /-- Forms that were taken and not posted yet. -/
  posts : List Submission
  posted : Nat
  /-- Failures of posted forms that are not known yet. -/
  failing : List Entry
  journal : List Entry

namespace Watch

def log (w : Watch) (events : List Event) : Watch :=
  { w with journal := w.journal ++ events.map (⟨w.clock, ·⟩) }

/-- A watch with some settings, on the screen that they name. -/
def ofSettings (settings : Settings) (store : Store) (script : Script) (now : Int) : Watch where
  session := .start settings
  store
  window := .unseen
  wantsCentre := false
  script
  loops := .const .idle
  polling := false
  cancelled := false
  clock := 0
  now
  posts := []
  posted := 0
  failing := []
  journal := [
    ⟨0, .connecting settings.serverUrl settings.sessionId.isSome settings.startScreen⟩]

/-- A watch begins with the settings that are stored, and notes first how they were found. -/
def start (store : Store) (script : Script) (now : Int) : Watch :=
  let (settings, found) := store.load
  let opened := ofSettings settings store script now
  { opened with journal := ⟨0, found⟩ :: opened.journal }

/-! ## Starting and ending the loops -/

/-- Starts the loops, unless that was done before. They run when time goes on. -/
def startPolling (w : Watch) : Watch :=
  if w.polling then w
  else { w with polling := true, loops := .const .starting }.log [.pollingStarted]

/-- Tells the loops to end. They do when time goes on. -/
def stopPolling (w : Watch) : Watch :=
  { w with cancelled := true }

/-! ## Submitted forms -/

/-- Takes the submitted forms, which settles the screen that follows. -/
def drain (w : Watch) : Watch :=
  { w with
    session := w.session.drain
    posts := w.posts ++ w.session.page.outbox }.log w.session.drainEvents

/-- Loads the screen that follows the forms which were taken. -/
def reload (w : Watch) : Watch :=
  { w with session := w.session.reload }

/-- Follows the submitted forms: they are taken, and the next screen is loaded. -/
def followForms (w : Watch) : Watch :=
  w.drain.reload

/-! ## The end -/

/-- Saves the settings, with the geometry of the window. -/
def saveSettings (w : Watch) : Watch :=
  let saved := w.store.save (w.window.keepIn w.session.settings)
  { w with store := saved.1 }.log saved.2

/-- Ends the watch: the loops are cancelled and the settings are saved. -/
def close (w : Watch) : Watch :=
  (w.log [.closing]).stopPolling.saveSettings

end Watch

end WalletWatch
