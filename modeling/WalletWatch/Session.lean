import WalletWatch.Poll.Landing
import WalletWatch.Settings.Basic
/-!
# Sessions

What the loops and the frames share: the page, what each loop remembers, and the screen that is
about to be loaded. A frame follows the submitted forms in two steps: `drain` takes them and settles
which screen comes next, and `reload` loads that screen. Between the two the loops may write on the
page and submit further forms, which the next frame will find.
-/

namespace WalletWatch

/-- The state that loops and frames share. -/
structure Session where
  settings : Settings
  page : Page
  memory : PerFeed (Option String)
  /-- The screen that follows the forms which were taken, until it is loaded. -/
  pending : Option Screen
deriving DecidableEq

namespace Session

/-- A session begins on the screen that its settings name. -/
def start (settings : Settings) : Session where
  settings
  page := .ofScreen settings.startScreen
  memory := .const none
  pending := none

def shows (s : Session) (feed : Feed) : Bool :=
  feed.isShown s.page

def landing (s : Session) (feed : Feed) (now : Int) (answer : Answer) : Landing :=
  .ofAnswer feed now (s.memory.get feed) s.page answer

/-- The session after an answer has landed. -/
def land (s : Session) (feed : Feed) (now : Int) (answer : Answer) : Session :=
  let l := s.landing feed now answer
  { s with page := l.page, memory := s.memory.set feed l.memory }

/-- The screen that follows the forms in the outbox: the last of them decides. -/
def screenAfterOutbox (s : Session) : Option (Submission × Screen) :=
  s.page.outbox.getLast?.map fun last =>
    (last, s.settings.screenAfter last.form s.page.screen)

/-- Takes the submitted forms, and settles the screen that follows them. -/
def drain (s : Session) : Session :=
  match s.screenAfterOutbox with
  | none => s
  | some (_, next) => { s with page := s.page.takeOutbox.2, pending := some next }

/-- What is logged when the submitted forms are taken. -/
def drainEvents (s : Session) : List Event :=
  match s.screenAfterOutbox with
  | none => []
  | some (last, next) => [.reloading last.form s.page.screen next]

def reload (s : Session) : Session :=
  match s.pending with
  | none => s
  | some next => { s with page := s.page.load next, pending := none }

end Session

end WalletWatch
