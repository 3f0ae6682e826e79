import WalletWatch.Watch.Clock
/-!
# Probes

A tick that is made from outside, beside the loops: it polls a feed once and says what a loop would
do next. What was remembered of the feed is handed in and handed back. While the answer is on its
way time goes on, and the loops with it; an answer that comes at once finds the page as it was
(`probe_at_once`).
-/

namespace WalletWatch

/-- What a probe leaves behind. -/
structure Probed where
  watch : Watch
  memory : Option String
  next : Next

namespace Watch

/-- Lets time go on until an answer arrives. What falls due at the moment of its arrival comes after
it. -/
def await (w : Watch) (millis : Nat) : Watch :=
  if millis = 0 then w else { w.advance (millis - 1) with clock := w.clock + millis }

/-- Polls a feed once, if the page shows it. -/
def probe (w : Watch) (feed : Feed) (memory : Option String) (reply : PollReply) : Probed :=
  if w.session.shows feed then
    let w := (w.log [.fetched feed]).await reply.delay
    let landing := Landing.ofAnswer feed w.now memory w.session.page reply.answer
    ⟨{ w with session.page := landing.page }.log landing.events, landing.memory, landing.next⟩
  else ⟨w, memory, .after .hidden⟩

/-- With an answer that comes at once, a probe does to the page what a whole tick does. -/
theorem probe_at_once (w : Watch) (feed : Feed) (memory : Option String) (answer : Answer) :
    let tick := Landing.ofTick feed w.now memory w.session.page answer
    let probed := w.probe feed memory ⟨answer, 0⟩
    probed.watch.session.page = tick.page ∧ probed.memory = tick.memory
      ∧ probed.next = tick.next := by
  simp only [probe, Landing.ofTick, Session.shows, await, if_true]
  split <;> exact ⟨rfl, rfl, rfl⟩

end Watch

end WalletWatch
