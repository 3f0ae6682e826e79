import WalletWatch.Poll.Landing
/-!
# Scripts

What the server will answer in a run, laid down beforehand: for each feed the answers to its polls
in turn, and for each submitted form what becomes of it. Every answer takes its time. When the
answers for a feed are used up, the server fails.
-/

namespace WalletWatch

/-- The answer to a poll, and how many milliseconds it takes. -/
structure PollReply where
  answer : Answer
  delay : Nat

/-- What becomes of a submitted form, and how many milliseconds that takes. -/
structure PostReply where
  failure : Option Failure
  delay : Nat
deriving DecidableEq, Repr

structure Script where
  polls : PerFeed (List PollReply)
  /-- What becomes of a form, by how many forms were posted before it. -/
  posts : Nat → Submission → PostReply

namespace PollReply

/-- The answer of a server that fails. -/
def outOfOrder (feed : Feed) : PollReply :=
  ⟨.error (.status 500 feed.path), 0⟩

end PollReply

namespace Script

def next (s : Script) (feed : Feed) : PollReply :=
  (s.polls.get feed).head?.getD (.outOfOrder feed)

def advance (s : Script) (feed : Feed) : Script :=
  { s with polls := s.polls.set feed (s.polls.get feed).tail }

end Script

end WalletWatch
