import WalletWatch.Failure
import WalletWatch.Feed
/-!
# Reports

What the server sends for a feed is a list of texts. Each feed needs a number of leading fields of
it and ignores the rest; a shorter list is malformed.
-/

namespace WalletWatch

/-- The height of the chain, the state of synchronisation and the colour it is shown in. -/
structure HeightReport where
  height : String
  status : String
  tag : String
deriving DecidableEq, Repr

/-- The balance of the wallet. The reserved amount is sent and never shown. -/
structure BalanceReport where
  confirmed : String
  unconfirmed : String
  spfFunds : String
  reserved : String
  whaleSize : String
deriving DecidableEq, Repr

/-- What is read from the answer to a poll. -/
inductive Report
  | bootstrapper (status : String)
  | consensusBuilder (status : String)
  | blockHeight (report : HeightReport)
  | balance (report : BalanceReport)
  | heartbeat (alive : Bool)
deriving DecidableEq, Repr

namespace HeightReport

def ofFields : List String → Except Failure HeightReport
  | height :: status :: tag :: _ => .ok ⟨height, status, tag⟩
  | fields => .error (.malformed Feed.blockHeight.path 3 fields.length)

end HeightReport

namespace BalanceReport

def ofFields : List String → Except Failure BalanceReport
  | confirmed :: unconfirmed :: spfFunds :: reserved :: whaleSize :: _ =>
    .ok ⟨confirmed, unconfirmed, spfFunds, reserved, whaleSize⟩
  | fields => .error (.malformed Feed.balance.path 5 fields.length)

end BalanceReport

namespace Report

def feed : Report → Feed
  | bootstrapper _ => .bootstrapper
  | consensusBuilder _ => .consensusBuilder
  | blockHeight _ => .blockHeight
  | balance _ => .balance
  | heartbeat _ => .heartbeat

/-- Reads the status that a feed reports as its only field. -/
def statusOfFields (feed : Feed) : List String → Except Failure String
  | status :: _ => .ok status
  | [] => .error (.malformed feed.path 1 0)

/-- The one text by which the server says that it is alive. -/
def aliveMark : String := "true"

def aliveOfFields (fields : List String) : Except Failure Bool :=
  (statusOfFields .heartbeat fields).map (· == aliveMark)

def ofFields (feed : Feed) (fields : List String) : Except Failure Report :=
  match feed with
  | .bootstrapper => (statusOfFields .bootstrapper fields).map bootstrapper
  | .consensusBuilder => (statusOfFields .consensusBuilder fields).map consensusBuilder
  | .blockHeight => (HeightReport.ofFields fields).map blockHeight
  | .balance => (BalanceReport.ofFields fields).map balance
  | .heartbeat => (aliveOfFields fields).map heartbeat

end Report

end WalletWatch
