import WalletWatch.Journal
import WalletWatch.Page.Template
import WalletWatch.Poll.Pause
import WalletWatch.Report
/-!
# Ticks and landings

A tick of a loop begins with a look at the page: only a feed that the page shows is polled. When the
answer to the poll arrives it lands on the page as the page is then. A report is written into the
elements of its feed, and may submit a form first. An answer that is no report changes nothing; only
for the heartbeat it is the end.

A loop remembers the last status it read. A form for a status is submitted when that status comes
after another one, or first of all, and not while it lasts.
-/

namespace WalletWatch

/-- What the poll of a feed comes to: the fields of the answer, or why there is none. -/
abbrev Answer := Except Failure (List String)

/-- What a tick leaves behind. -/
structure Landing where
  page : Page
  /-- The last status that the loop read. -/
  memory : Option String
  next : Next
  events : List Event
deriving DecidableEq, Repr

/-- Whether the page shows what a feed reports on. The heartbeat needs no page. -/
def Feed.isShown (feed : Feed) (page : Page) : Bool :=
  match feed with
  | .bootstrapper => page.hasClass ClassName.bootstrapperProgress
  | .consensusBuilder => page.hasClass ClassName.consensusBuilderProgress
  | .blockHeight => page.hasClass ClassName.blockHeight
  | .balance => (page.element? ElementId.balance).isSome
  | .heartbeat => true

namespace Page

/-! ## Writing reports -/

/-- The class name of the status element for a colour. -/
def statusClass (tag : String) : String :=
  ClassName.status ++ " " ++ tag

def showHeight (p : Page) (r : HeightReport) : Page :=
  ((p.writeText ClassName.blockHeight r.height).writeText ClassName.status r.status).writeClassName
    ClassName.status (statusClass r.tag)

/-- What is shown of the size of a wallet. -/
def whaleText (size : String) : String :=
  "Whale Size: " ++ size

/-- Writes the part of a balance report that follows the confirmed balance. -/
def showUnconfirmed (p : Page) (r : BalanceReport) : Page :=
  (((p.writeText ClassName.unconfirmed r.unconfirmed).writeText ClassName.spfFunds
    r.spfFunds).writeTextOf ElementId.whaleSize (whaleText r.whaleSize)).writeValueOf
    ElementId.whaleSizeButton (whaleText r.whaleSize)

/-- Whether some unconfirmed balance is shown that differs from another one. Blanks at the ends do
not count, and a text of blanks shows no balance. -/
def showsOtherUnconfirmed (p : Page) (unconfirmed : String) : Bool :=
  (p.elementsOf ClassName.unconfirmed).any fun e =>
    !Text.isBlankText e.text && Text.trim e.text != Text.trim unconfirmed

/-- Submits a form if there is reason to and the page has the form, and logs that it did. -/
def submitIf (p : Page) (reason : Bool) (form : String) (event : Event) : Page × List Event :=
  if reason then
    match p.submit? form with
    | some p => (p, [event])
    | none => (p, [])
  else (p, [])

end Page

namespace Landing

/-- The status of a wallet that has caught up with its chain. -/
def synchronized : String := "Synchronized"

/-- The status of a step of onboarding that is done. -/
def complete : String := "100%"

/-- Whether a status has just become a certain one. -/
def entered (mark status : String) (memory : Option String) : Bool :=
  status == mark && memory != some mark

def ofHeight (now : Int) (memory : Option String) (page : Page) (r : HeightReport) : Landing :=
  let submitted := page.submitIf (entered synchronized r.status memory) FormName.refresh
    (.synchronized r.height)
  ⟨(submitted.1.showHeight r).touch now, some r.status, .after .data, submitted.2⟩

def ofBalance (now : Int) (memory : Option String) (page : Page) (r : BalanceReport) : Landing :=
  let confirmed := page.writeText ClassName.confirmed r.confirmed
  let changed := confirmed.showsOtherUnconfirmed r.unconfirmed && confirmed.isLastPage
  let submitted := confirmed.submitIf changed FormName.refreshTransactions
    (.unconfirmedChanged (Text.trim r.unconfirmed))
  ⟨(submitted.1.showUnconfirmed r).touch now, memory, .after .data, submitted.2⟩

/-- The status of a step of onboarding lands. -/
def ofProgress (feed : Feed) (className form : String) (now : Int) (memory : Option String)
    (page : Page) (status : String) : Landing :=
  let submitted := page.submitIf (entered complete status memory) form (.progressComplete feed)
  ⟨(submitted.1.writeText className status).touch now, some status, .after .data, submitted.2⟩

/-- The page is shut down, and its loop ends. -/
def ofEnd (now : Int) (memory : Option String) (page : Page) (event : Event) : Landing :=
  ⟨page.shutDown.touch now, memory, .stop, [event]⟩

def ofReport (now : Int) (memory : Option String) (page : Page) : Report → Landing
  | .bootstrapper status =>
    ofProgress .bootstrapper ClassName.bootstrapperProgress FormName.refreshBootstrapper
      now memory page status
  | .consensusBuilder status =>
    ofProgress .consensusBuilder ClassName.consensusBuilderProgress
      FormName.refreshConsensusBuilder now memory page status
  | .blockHeight r => ofHeight now memory page r
  | .balance r => ofBalance now memory page r
  | .heartbeat true => ⟨page, memory, .after .heartbeat, []⟩
  | .heartbeat false => ofEnd now memory page .shutdownReported

def ofFailure (feed : Feed) (now : Int) (memory : Option String) (page : Page)
    (failure : Failure) : Landing :=
  match feed with
  | .heartbeat => ofEnd now memory page (.heartbeatLost failure)
  | _ => ⟨page, memory, .after .data, [.pollFailed feed failure]⟩

/-- The answer to the poll of a feed lands. -/
def ofAnswer (feed : Feed) (now : Int) (memory : Option String) (page : Page)
    (answer : Answer) : Landing :=
  match answer.bind (Report.ofFields feed) with
  | .ok report => ofReport now memory page report
  | .error failure => ofFailure feed now memory page failure

/-- The tick of a loop whose feed is not shown. -/
def ofHidden (memory : Option String) (page : Page) : Landing :=
  ⟨page, memory, .after .hidden, []⟩

/-- A whole tick, with the answer that a poll would get at once. -/
def ofTick (feed : Feed) (now : Int) (memory : Option String) (page : Page)
    (answer : Answer) : Landing :=
  if feed.isShown page then
    let landing := ofAnswer feed now memory page answer
    { landing with events := .fetched feed :: landing.events }
  else ofHidden memory page

end Landing

end WalletWatch
