/-!
# Pauses between ticks

How long a loop waits before it looks again: a second after the answer to a poll, a fifth of a
second after a heartbeat, and a twentieth if the page does not show what the loop feeds.
-/

namespace WalletWatch

/-- Why a loop waits. -/
inductive Pause
  | data
  | heartbeat
  | hidden
deriving DecidableEq, Repr

namespace Pause

def millis : Pause → Nat
  | data => 1000
  | heartbeat => 200
  | hidden => 50

theorem millis_pos (p : Pause) : 0 < p.millis := by
  cases p <;> decide

end Pause

/-- What a loop does after a tick. -/
inductive Next
  | after (pause : Pause)
  | stop
deriving DecidableEq, Repr

end WalletWatch
