import WalletWatch.Proofs.Course.Loops
/-!
# What a move writes into the journal

Every move but one notes events at the moment at which it happens (`Course.told`), and puts them
behind what the journal had before (`journal_perform`). The exception is the move by which failures
of posted forms become known: they are noted with the moments at which the posts failed. So what a
journal has of some kind of event is settled by the few moves that note such events.
-/

namespace WalletWatch

/-- Whether an event is noted by an answer as it lands. -/
def Event.isLanding : Event → Bool
  | synchronized _ | unconfirmedChanged _ | progressComplete _ | pollFailed .. | shutdownReported
  | heartbeatLost _ => true
  | _ => false

theorem Page.isLanding_of_submitIf {p : Page} {reason : Bool} {form : String} {event : Event}
    (own : event.isLanding = true) : ∀ e ∈ (p.submitIf reason form event).2, e.isLanding = true := by
  intro e he
  unfold submitIf at he
  split at he
  · split at he
    · rwa [List.mem_singleton.1 he]
    · cases he
  · cases he

/-- An answer notes what it brings and nothing else. -/
theorem Landing.isLanding_of_mem (feed : Feed) (now : Int) (memory : Option String) (page : Page)
    (answer : Answer) :
    ∀ e ∈ (ofAnswer feed now memory page answer).events, e.isLanding = true := by
  have single : ∀ event : Event, event.isLanding = true → ∀ e ∈ [event], e.isLanding = true :=
    fun event own e he => List.mem_singleton.1 he ▸ own
  unfold ofAnswer
  split
  · next report _ =>
    cases report with
    | bootstrapper status => exact Page.isLanding_of_submitIf rfl
    | consensusBuilder status => exact Page.isLanding_of_submitIf rfl
    | blockHeight r => exact Page.isLanding_of_submitIf rfl
    | balance r => exact Page.isLanding_of_submitIf rfl
    | heartbeat alive =>
      cases alive with
      | true => exact fun e he => absurd he List.not_mem_nil
      | false => exact single .shutdownReported rfl
  · next failure _ =>
    cases feed with
    | heartbeat => exact single (.heartbeatLost failure) rfl
    | _ => exact single (.pollFailed _ failure) rfl

namespace Course

/-- The events that a move notes at the moment at which it happens. -/
def told (c : Course) : Move → List Event
  | .chore .startPolling | .chore (.openFrame _) =>
    if c.watch.polling then [] else [.pollingStarted]
  | .chore .close =>
    .closing :: (c.watch.store.save (c.watch.window.keepIn c.session.settings)).2
  | .chore (.beginLoop feed) =>
    match c.watch.loops.get feed with
    | .starting => [.loopStarted feed]
    | _ => []
  | .chore (.endLoop feed) =>
    if c.watch.cancelled && (c.watch.loops.get feed).isAlive then [.loopEnded feed] else []
  | .post index => (c.watch.posts[index]?.map Event.posted).toList
  | .tick feed =>
    match c.watch.loops.get feed with
    | .resting _ => if c.session.shows feed then [.fetched feed] else []
    | _ => []
  | .land feed =>
    match c.watch.loops.get feed with
    | .awaiting answer _ =>
      let landing := c.session.landing feed c.watch.now answer
      landing.events ++ if landing.next = .stop then [.loopEnded feed] else []
    | _ => []
  | .drain => if c.stage = .apart then c.session.drainEvents else []
  | .chore (.pass ..) | .chore .stopPolling | .chore .noteFailures | .reload | .draw => []

variable {c : Course} {m : Move}

theorem journal_startPolling (w : Watch) : w.startPolling.journal =
    w.journal ++ (if w.polling then [] else [Event.pollingStarted]).map (⟨w.clock, ·⟩) := by
  unfold Watch.startPolling
  split
  · exact (List.append_nil _).symm
  · rfl

/-- A move puts what it notes behind what was noted before. -/
theorem journal_perform (hm : m ≠ .chore .noteFailures) :
    (c.perform m).watch.journal = c.watch.journal ++ (c.told m).map (⟨c.watch.clock, ·⟩) := by
  cases m with
  | chore chore =>
    cases chore with
    | noteFailures => exact absurd rfl hm
    | startPolling => exact journal_startPolling c.watch
    | openFrame view =>
      exact journal_startPolling { c.watch with window := c.watch.window.track view }
    | close => exact List.append_assoc ..
    | beginLoop feed =>
      cases loop : c.watch.loops.get feed <;>
        simp [perform, Watch.attend, Watch.beginLoop, told, loop, Watch.log]
    | endLoop feed =>
      simp only [perform, Watch.attend, Watch.endLoop, told]
      split
      · rfl
      · exact (List.append_nil _).symm
    | pass clock now => exact (List.append_nil _).symm
    | stopPolling => exact (List.append_nil _).symm
  | post index =>
    simp only [perform, Watch.postAt, told]
    cases c.watch.posts[index]? with
    | none => exact (List.append_nil _).symm
    | some s => rfl
  | tick feed =>
    cases loop : c.watch.loops.get feed with
    | resting wake =>
      rw [perform_tick_of_resting loop]
      cases shown : c.watch.session.shows feed <;>
        simp [Watch.tick, told, loop, session, shown, Watch.log]
    | _ => simp [perform, told, loop]
  | land feed =>
    cases loop : c.watch.loops.get feed with
    | awaiting answer arrival =>
      simp only [perform_land_of_awaiting loop, Watch.land, told, loop, session]
      split
      · next pause next => simp [next, Watch.log]
      · next next => simp [next, Watch.log]
    | _ => simp [perform, told, loop]
  | drain =>
    simp only [perform, told]
    split
    · rfl
    · exact (List.append_nil _).symm
  | reload =>
    simp only [perform]
    split <;> exact (List.append_nil _).symm
  | draw =>
    simp only [perform]
    split <;> exact (List.append_nil _).symm

end Course

end WalletWatch
