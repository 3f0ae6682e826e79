import WalletWatch.Proofs.Course.Basic
/-!
# What a watch does to the server and to its outbox

Of what a journal holds, three kinds of events are deeds: a feed is asked for, a form is taken into
the outbox, a form is posted. A loop notes an event of its own right when the page takes the form it
submits, and no event when the page does not; so the journal tells which submissions were accepted.

For each thing that can happen there is an equation for the deeds it adds. What happens beside the
page adds none (`deeds_attend`), as long as the failures that are still to be noted are failures.
-/

namespace WalletWatch

/-- Something that concerns the server or the outbox. -/
inductive Deed
  /-- A feed was asked for. -/
  | request (feed : Feed)
  /-- A page took a form into its outbox. -/
  | accept (submission : Submission)
  /-- A form was posted. -/
  | post (submission : Submission)
deriving DecidableEq, Repr

namespace Deed

def request? : Deed → Option Feed
  | request feed => some feed
  | _ => none

def accept? : Deed → Option Submission
  | accept s => some s
  | _ => none

def post? : Deed → Option Submission
  | post s => some s
  | _ => none

@[simp] theorem accept?_accepts (taken : List Submission) :
    (taken.map accept).filterMap accept? = taken := by
  rw [List.filterMap_map]
  exact List.filterMap_some

@[simp] theorem request?_accepts (taken : List Submission) :
    (taken.map accept).filterMap request? = [] := by
  simp [List.filterMap_map, Function.comp_def, request?]

@[simp] theorem post?_accepts (taken : List Submission) :
    (taken.map accept).filterMap post? = [] := by
  simp [List.filterMap_map, Function.comp_def, post?]

end Deed

namespace Event

/-- The deed that an event tells of. -/
def deed? : Event → Option Deed
  | fetched feed => some (.request feed)
  | posted s => some (.post s)
  | synchronized _ => some (.accept ⟨FormName.refresh, Screen.formAction⟩)
  | unconfirmedChanged _ => some (.accept ⟨FormName.refreshTransactions, Screen.formAction⟩)
  | progressComplete .bootstrapper =>
    some (.accept ⟨FormName.refreshBootstrapper, Screen.formAction⟩)
  | progressComplete .consensusBuilder =>
    some (.accept ⟨FormName.refreshConsensusBuilder, Screen.formAction⟩)
  | _ => none

@[simp] theorem deed?_pollingStarted : deed? .pollingStarted = none := rfl

@[simp] theorem deed?_loopStarted (feed : Feed) : deed? (.loopStarted feed) = none := rfl

@[simp] theorem deed?_loopEnded (feed : Feed) : deed? (.loopEnded feed) = none := rfl

@[simp] theorem deed?_closing : deed? .closing = none := rfl

@[simp] theorem deed?_fetched (feed : Feed) : deed? (.fetched feed) = some (.request feed) := rfl

@[simp] theorem deed?_posted (s : Submission) : deed? (.posted s) = some (.post s) := rfl

end Event

theorem Store.deeds_save (s : Store) (settings : Settings) :
    (s.save settings).2.filterMap Event.deed? = [] := by
  unfold save
  split <;> rfl

/-- Saving tells that it was not possible, or nothing. -/
theorem Store.eq_of_mem_save {s : Store} {settings : Settings} {e : Event}
    (h : e ∈ (s.save settings).2) : e = .settingsNotSaved := by
  unfold save at h
  split at h
  · cases h
  · exact List.mem_singleton.1 h

/-- Taking forms tells of the screen that follows, or nothing. -/
theorem Session.exists_of_mem_drainEvents {s : Session} {e : Event} (h : e ∈ s.drainEvents) :
    ∃ form before after, e = .reloading form before after := by
  unfold drainEvents at h
  split at h
  · cases h
  · exact ⟨_, _, _, List.mem_singleton.1 h⟩

namespace Watch

/-- The deeds of a watch, in order. -/
def deeds (w : Watch) : List Deed :=
  w.journal.filterMap (·.event.deed?)

@[simp] theorem deeds_log (w : Watch) (events : List Event) :
    (w.log events).deeds = w.deeds ++ events.filterMap Event.deed? := by
  simp only [deeds, log, List.filterMap_append, List.filterMap_map]
  rfl

@[simp] theorem failing_log (w : Watch) (events : List Event) :
    (w.log events).failing = w.failing := rfl

/-! ## What happens beside the page -/

/-- What happens beside the page leaves alone what loops and frames share, and the forms that were
taken. -/
theorem session_posts_attend (w : Watch) (chore : Chore) :
    (w.attend chore).session = w.session ∧ (w.attend chore).posts = w.posts := by
  cases chore with
  | pass clock now => exact ⟨rfl, rfl⟩
  | startPolling => simp only [attend, startPolling]; split <;> exact ⟨rfl, rfl⟩
  | stopPolling => exact ⟨rfl, rfl⟩
  | close => exact ⟨rfl, rfl⟩
  | beginLoop feed => simp only [attend, beginLoop]; split <;> exact ⟨rfl, rfl⟩
  | endLoop feed => simp only [attend, endLoop]; split <;> exact ⟨rfl, rfl⟩
  | openFrame view => simp only [attend, openFrame, startPolling]; split <;> exact ⟨rfl, rfl⟩
  | noteFailures => exact ⟨rfl, rfl⟩

@[simp] theorem session_attend (w : Watch) (chore : Chore) :
    (w.attend chore).session = w.session := (session_posts_attend w chore).1

@[simp] theorem posts_attend (w : Watch) (chore : Chore) :
    (w.attend chore).posts = w.posts := (session_posts_attend w chore).2

theorem deeds_saveSettings (w : Watch) : w.saveSettings.deeds = w.deeds := by
  simp only [saveSettings, deeds_log, Store.deeds_save, List.append_nil]
  rfl

theorem deeds_startPolling (w : Watch) : w.startPolling.deeds = w.deeds := by
  unfold startPolling
  split
  · rfl
  · simp [deeds, log]

theorem deeds_attend {w : Watch} (quiet : ∀ e ∈ w.failing, e.event.deed? = none)
    (chore : Chore) :
    (w.attend chore).deeds = w.deeds := by
  cases chore with
  | pass clock now => rfl
  | startPolling => exact deeds_startPolling w
  | stopPolling => rfl
  | close =>
    calc ((w.log [.closing]).stopPolling.saveSettings).deeds
        = (w.log [.closing]).deeds := deeds_saveSettings _
      _ = w.deeds := by simp
  | beginLoop feed =>
    simp only [attend, beginLoop]
    split
    · simp [deeds, log]
    · rfl
  | endLoop feed =>
    simp only [attend, endLoop]
    split
    · simp [deeds, log]
    · rfl
  | openFrame view => exact deeds_startPolling { w with window := w.window.track view }
  | noteFailures =>
    have silent : (w.failing.filter (·.time ≤ w.clock)).filterMap (·.event.deed?) = [] := by
      rw [List.filterMap_eq_nil_iff]
      intro e he
      exact quiet e (List.mem_filter.1 he).1
    simp only [attend, noteFailures, deeds, List.filterMap_append, silent, List.append_nil]

/-! ## What the parts of a watch do -/

/-- A post is the deed it is named for, and concerns the forms that were taken and nothing else. -/
theorem postAt_eq_or (w : Watch) (index : Nat) :
    (∃ s, w.posts[index]? = some s ∧ (w.postAt index).posts = w.posts.eraseIdx index ∧
      (w.postAt index).deeds = w.deeds ++ [.post s]) ∨
    (w.posts[index]? = none ∧ w.postAt index = w) := by
  unfold postAt
  cases h : w.posts[index]? with
  | none => exact .inr ⟨rfl, rfl⟩
  | some s => exact .inl ⟨s, rfl, rfl, by simp [post, deeds, log]⟩

@[simp] theorem session_postAt (w : Watch) (index : Nat) :
    (w.postAt index).session = w.session := by
  unfold postAt
  split <;> rfl

@[simp] theorem loops_postAt (w : Watch) (index : Nat) : (w.postAt index).loops = w.loops := by
  unfold postAt
  split <;> rfl

@[simp] theorem polling_postAt (w : Watch) (index : Nat) :
    (w.postAt index).polling = w.polling := by
  unfold postAt
  split <;> rfl

@[simp] theorem session_tick (w : Watch) (feed : Feed) : (w.tick feed).session = w.session := by
  unfold tick
  split <;> rfl

@[simp] theorem posts_tick (w : Watch) (feed : Feed) : (w.tick feed).posts = w.posts := by
  unfold tick
  split <;> rfl

@[simp] theorem failing_tick (w : Watch) (feed : Feed) : (w.tick feed).failing = w.failing := by
  unfold tick
  split <;> rfl

@[simp] theorem polling_tick (w : Watch) (feed : Feed) : (w.tick feed).polling = w.polling := by
  unfold tick
  split <;> rfl

/-- A tick asks for its feed if the page shows it. -/
theorem deeds_tick (w : Watch) (feed : Feed) :
    (w.tick feed).deeds = w.deeds ++ if w.session.shows feed then [.request feed] else [] := by
  unfold tick
  split
  · simp [deeds, log]
  · simp [deeds]

@[simp] theorem session_land (w : Watch) (feed : Feed) (answer : Answer) :
    (w.land feed answer).session = w.session.land feed w.now answer := by
  simp only [land]
  split <;> rfl

@[simp] theorem posts_land (w : Watch) (feed : Feed) (answer : Answer) :
    (w.land feed answer).posts = w.posts := by
  simp only [land]
  split <;> rfl

@[simp] theorem failing_land (w : Watch) (feed : Feed) (answer : Answer) :
    (w.land feed answer).failing = w.failing := by
  simp only [land]
  split <;> rfl

@[simp] theorem polling_land (w : Watch) (feed : Feed) (answer : Answer) :
    (w.land feed answer).polling = w.polling := by
  simp only [land]
  split <;> rfl

/-- The deeds of a landing are those of its events. -/
theorem deeds_land (w : Watch) (feed : Feed) (answer : Answer) :
    (w.land feed answer).deeds =
      w.deeds ++ (w.session.landing feed w.now answer).events.filterMap Event.deed? := by
  have landed := deeds_log { w with session := w.session.land feed w.now answer }
    (w.session.landing feed w.now answer).events
  simp only [land]
  split
  · exact landed
  · have ended : [Event.loopEnded feed].filterMap Event.deed? = [] := rfl
    rw [deeds_log, ended, List.append_nil]
    exact landed

/-- Taking the forms is no deed; they are accepted before and posted later. -/
@[simp] theorem deeds_drain (w : Watch) : w.drain.deeds = w.deeds := by
  have quiet : w.session.drainEvents.filterMap Event.deed? = [] := by
    unfold Session.drainEvents
    split <;> rfl
  simp only [drain, deeds_log, quiet, List.append_nil]
  rfl

end Watch

end WalletWatch
