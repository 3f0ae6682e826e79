import WalletWatch.Failure
import WalletWatch.Feed
import WalletWatch.Page.Basic
/-!
# The journal

What a run leaves behind besides its pages: the requests it made and what it logged, each with the
millisecond of the run at which it happened. `Event.line` is the one place where events get their
wording.
-/

namespace WalletWatch

/-- How much an event matters. -/
inductive Level
  | debug
  | info
  | warn
  | error
deriving DecidableEq, Repr

/-- Something that happened in a run. -/
inductive Event
  | fetched (feed : Feed)
  | posted (submission : Submission)
  | settingsLoaded
  | settingsUnreadable
  | settingsMissing
  | settingsNotSaved
  | connecting (server : String) (session : Bool) (screen : Screen)
  | pollingStarted
  | loopStarted (feed : Feed)
  | loopEnded (feed : Feed)
  | synchronized (height : String)
  | unconfirmedChanged (unconfirmed : String)
  | progressComplete (feed : Feed)
  | pollFailed (feed : Feed) (failure : Failure)
  | shutdownReported
  | heartbeatLost (failure : Failure)
  | reloading (form : String) (before : Option Screen) (after : Screen)
  | submissionFailed (form : String) (failure : Failure)
  | closing
deriving DecidableEq, Repr

namespace Level

def name : Level → String
  | debug => "DEBUG"
  | info => "INFO"
  | warn => "WARN"
  | error => "ERROR"

end Level

namespace Event

def pollName : Feed → String
  | .blockHeight => "Block height"
  | .balance => "Balance"
  | .bootstrapper | .consensusBuilder => "Progress"
  | .heartbeat => "Heartbeat"

def describeScreen : Option Screen → String
  | none => "None"
  | some s => "Some(" ++ s.describe ++ ")"

/-- A logged line: its level, its message, and the values that belong to it. -/
def logLine (level : Level) (message : String) (values : List (String × String)) : String :=
  "log " ++ level.name ++ " " ++ message
    ++ String.join (values.map fun (key, value) => " " ++ key ++ "=" ++ value)

def line : Event → String
  | fetched feed => "fetch " ++ feed.key
  | posted s => "submit " ++ s.form ++ " " ++ s.action
  | settingsLoaded => logLine .debug "Settings loaded" []
  | settingsUnreadable => logLine .warn "Failed to parse settings, using defaults" []
  | settingsMissing => logLine .debug "No settings file found, using defaults" []
  | settingsNotSaved => logLine .warn "Failed to save settings" []
  | connecting server session screen =>
    logLine .info "Connecting to wallet server"
      [("server", server), ("session", if session then "true" else "false"),
        ("screen", screen.describe)]
  | pollingStarted => logLine .info "Poll loops started" []
  | loopStarted feed => logLine .debug "Poll loop started" [("poll_loop", feed.loopName)]
  | loopEnded feed => logLine .debug "Poll loop ended" [("poll_loop", feed.loopName)]
  | synchronized height =>
    logLine .info "Wallet synchronized, refreshing page" [("height", height)]
  | unconfirmedChanged unconfirmed =>
    logLine .info "Unconfirmed balance changed, refreshing transactions"
      [("unconfirmed", unconfirmed)]
  | progressComplete feed =>
    logLine .info "Progress complete, refreshing page" [("endpoint", feed.path)]
  | pollFailed feed failure =>
    logLine .warn (pollName feed ++ " poll failed")
      [("endpoint", feed.path), ("error", failure.message)]
  | shutdownReported => logLine .error "Wallet server reported shutdown" []
  | heartbeatLost failure => logLine .error "Heartbeat lost" [("error", failure.message)]
  | reloading form before after =>
    logLine .info "Reloading page"
      [("form", form), ("from", describeScreen before), ("to", after.describe)]
  | submissionFailed form failure =>
    logLine .warn "Form submission failed" [("form", form), ("error", failure.message)]
  | closing => logLine .info "Application shutting down" []

end Event

/-! ## Entries -/

/-- An event, and the millisecond of the run at which it happened. -/
structure Entry where
  time : Nat
  event : Event
deriving DecidableEq, Repr

namespace Entry

/-- Entries are ordered by their time, and at one time by their wording. -/
def before (a b : Entry) : Bool :=
  a.time < b.time || (a.time == b.time && a.event.line ≤ b.event.line)

def sorted (entries : List Entry) : List Entry :=
  entries.mergeSort before

end Entry

end WalletWatch
