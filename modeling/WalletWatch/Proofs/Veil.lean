import WalletWatch.Proofs.Course.Timing
import WalletWatch.Proofs.Course.Told
/-!
# Watches under a veil

What a watch does not depend on can be hidden from view. A veil (`Veil`) replaces answers by ones that
land in the same way, replaces what becomes of posted forms, and drops failures of posts from the
journal. Everything that can happen to a watch does the same to what is seen of it
(`Watch.veiled_perform`, `Course.veiled_perform`); so two watches of which the same is seen at first
look the same under the veil for ever (`Watch.veiled_run`, `Course.veiled_run`).
-/

namespace WalletWatch

namespace PerFeed

variable {α β : Type}

def map (f : Feed → α → β) (p : PerFeed α) : PerFeed β where
  bootstrapper := f .bootstrapper p.bootstrapper
  consensusBuilder := f .consensusBuilder p.consensusBuilder
  blockHeight := f .blockHeight p.blockHeight
  balance := f .balance p.balance
  heartbeat := f .heartbeat p.heartbeat

@[simp] theorem get_map (f : Feed → α → β) (p : PerFeed α) (feed : Feed) :
    (p.map f).get feed = f feed (p.get feed) := by
  cases feed <;> rfl

@[simp] theorem map_set (f : Feed → α → β) (p : PerFeed α) (feed : Feed) (a : α) :
    (p.set feed a).map f = (p.map f).set feed (f feed a) := by
  cases feed <;> rfl

end PerFeed

/-- Whether an event tells that a posted form failed. -/
def Event.isPostFailure : Event → Bool
  | submissionFailed .. => true
  | _ => false

/-- What is noted, in time, of the failure of a form that was posted at some moment. -/
def PostReply.notes (reply : PostReply) (clock : Nat) (form : String) : List Entry :=
  reply.failure.toList.map fun failure => ⟨clock + reply.delay, .submissionFailed form failure⟩

/-- A view of watches that hides something of them. -/
structure Veil where
  answer : Feed → Answer → Answer
  post : PostReply → PostReply
  /-- Which entries of the journal are seen. -/
  keeps : Event → Bool
  /-- What is seen of an answer lands as the answer does. -/
  lands : ∀ feed now memory page a,
    Landing.ofAnswer feed now memory page (answer feed a) = .ofAnswer feed now memory page a
  error : ∀ feed failure, answer feed (.error failure) = .error failure
  /-- Only failures of posts can be hidden in the journal. -/
  shown : ∀ event : Event, event.isPostFailure = false → keeps event = true
  notes : ∀ reply clock form, (post reply).notes clock form =
    (reply.notes clock form).filter (keeps ·.event)

namespace Veil

def reply (v : Veil) (feed : Feed) (r : PollReply) : PollReply :=
  ⟨v.answer feed r.answer, r.delay⟩

def script (v : Veil) (s : Script) : Script where
  polls := s.polls.map fun feed replies => replies.map (v.reply feed)
  posts index submission := v.post (s.posts index submission)

def activity (v : Veil) (feed : Feed) : Activity → Activity
  | .awaiting answer arrival => .awaiting (v.answer feed answer) arrival
  | other => other

def entries (v : Veil) (journal : List Entry) : List Entry :=
  journal.filter (v.keeps ·.event)

variable (v : Veil) (s : Script) (feed : Feed) (activity : Activity)

@[simp] theorem next_script : (v.script s).next feed = v.reply feed (s.next feed) := by
  rw [Script.next, Script.next, script, PerFeed.get_map]
  cases s.polls.get feed with
  | nil => exact congrArg (PollReply.mk · 0) (v.error feed _).symm
  | cons reply replies => rfl

@[simp] theorem advance_script : (v.script s).advance feed = v.script (s.advance feed) := by
  simp [Script.advance, script]

@[simp] theorem due?_activity : (v.activity feed activity).due? = activity.due? := by
  cases activity <;> rfl

@[simp] theorem isAlive_activity : (v.activity feed activity).isAlive = activity.isAlive := by
  cases activity <;> rfl

@[simp] theorem lets_activity (moment : Nat) :
    (v.activity feed activity).Lets moment ↔ activity.Lets moment := by
  cases activity <;> rfl

theorem entries_append (first second : List Entry) :
    v.entries (first ++ second) = v.entries first ++ v.entries second :=
  List.filter_append ..

theorem entries_of_shown (events : List Event) (h : ∀ e ∈ events, e.isPostFailure = false)
    (clock : Nat) : v.entries (events.map (⟨clock, ·⟩)) = events.map (⟨clock, ·⟩) := by
  refine List.filter_eq_self.2 fun e he => ?_
  obtain ⟨event, member, rfl⟩ := List.mem_map.1 he
  exact v.shown event (h event member)

end Veil

namespace Watch

/-- What is seen of a watch. -/
def veiled (v : Veil) (w : Watch) : Watch :=
  { w with
    script := v.script w.script
    loops := w.loops.map v.activity
    failing := v.entries w.failing
    journal := v.entries w.journal }

variable (v : Veil) (w : Watch)

/-! ## What happens at one moment -/

theorem veiled_log {events : List Event} (h : ∀ e ∈ events, e.isPostFailure = false) :
    (w.log events).veiled v = (w.veiled v).log events := by
  simp only [veiled, log, v.entries_append, v.entries_of_shown events h]

/-- What is seen of a watch that notes one event is the event, unless a post failed. -/
theorem veiled_log_one {event : Event} (h : event.isPostFailure = false) :
    (w.log [event]).veiled v = (w.veiled v).log [event] :=
  veiled_log v w fun e he => by rwa [List.mem_singleton.1 he]

/-- What is seen of a loop that goes over to something is what it goes over to. -/
theorem veiled_set (feed : Feed) (activity : Activity) :
    ({ w with loops := w.loops.set feed activity } : Watch).veiled v =
      { w.veiled v with loops := (w.veiled v).loops.set feed (v.activity feed activity) } := by
  simp only [veiled, PerFeed.map_set]

theorem veiled_startPolling : w.startPolling.veiled v = (w.veiled v).startPolling := by
  unfold startPolling
  split
  · exact (if_pos ‹_›).symm
  · exact (veiled_log_one v _ rfl).trans (if_neg ‹_›).symm

theorem veiled_stopPolling : w.stopPolling.veiled v = (w.veiled v).stopPolling := rfl

theorem veiled_drain : w.drain.veiled v = (w.veiled v).drain := by
  refine veiled_log v _ fun e he => ?_
  obtain ⟨form, before, after, rfl⟩ := Session.exists_of_mem_drainEvents he
  rfl

theorem veiled_reload : w.reload.veiled v = (w.veiled v).reload := rfl

theorem veiled_saveSettings : w.saveSettings.veiled v = (w.veiled v).saveSettings := by
  refine veiled_log v _ fun e he => ?_
  rw [Store.eq_of_mem_save he]
  rfl

theorem veiled_close : w.close.veiled v = (w.veiled v).close := by
  unfold close
  rw [veiled_saveSettings, veiled_stopPolling, veiled_log_one v w rfl]

theorem veiled_openFrame (view : View) :
    (w.openFrame view).veiled v = (w.veiled v).openFrame view :=
  congrArg ({ · with wantsCentre := false })
    (veiled_startPolling v { w with window := w.window.track view })

theorem veiled_post (s : Submission) : (w.post s).veiled v = (w.veiled v).post s := by
  refine (veiled_log_one v _ rfl).trans (congrArg (log · [.posted s]) ?_)
  have notes : v.entries (w.failing ++ (w.script.posts w.posted s).notes w.clock s.form) =
      v.entries w.failing ++ (v.post (w.script.posts w.posted s)).notes w.clock s.form := by
    rw [v.entries_append, v.notes]
    rfl
  exact congrArg (fun failing => ({ w.veiled v with posted := w.posted + 1, failing } : Watch))
    notes

theorem veiled_postAll : w.postAll.veiled v = (w.veiled v).postAll := by
  have posted : ∀ (waiting : List Submission) (u : Watch),
      (waiting.foldl post u).veiled v = waiting.foldl post (u.veiled v) := by
    intro waiting
    induction waiting with
    | nil => exact fun u => rfl
    | cons s waiting ih => exact fun u => (ih (u.post s)).trans (by rw [veiled_post]; rfl)
  exact posted w.posts { w with posts := [] }

theorem veiled_beginLoop (feed : Feed) :
    (w.beginLoop feed).veiled v = (w.veiled v).beginLoop feed := by
  have seen : (w.veiled v).loops.get feed = v.activity feed (w.loops.get feed) :=
    PerFeed.get_map ..
  unfold beginLoop
  rw [seen]
  cases w.loops.get feed with
  | starting =>
    exact (veiled_log_one v _ rfl).trans (congrArg (log · _) (veiled_set v w feed _))
  | _ => rfl

theorem veiled_endLoop (feed : Feed) : (w.endLoop feed).veiled v = (w.veiled v).endLoop feed := by
  have alive : ((w.veiled v).loops.get feed).isAlive = (w.loops.get feed).isAlive := by
    rw [veiled, PerFeed.get_map, v.isAlive_activity]
  unfold endLoop
  rw [alive]
  split
  · next ends =>
    refine (veiled_log_one v _ rfl).trans (Eq.trans ?_ (if_pos ends).symm)
    exact congrArg (log · _) (veiled_set v w feed .ended)
  · next goes => exact (if_neg goes).symm

theorem veiled_noteFailures : w.noteFailures.veiled v = (w.veiled v).noteFailures := by
  have apart (test : Entry → Bool) :
      v.entries (w.failing.filter test) = (v.entries w.failing).filter test :=
    List.filter_comm ..
  simp only [veiled, noteFailures, v.entries_append, apart]
  rfl

theorem veiled_settle : w.settle.veiled v = (w.veiled v).settle := by
  have each {act : Watch → Feed → Watch}
      (keep : ∀ u feed, (act u feed).veiled v = act (u.veiled v) feed) (feeds : List Feed) :
      ∀ u : Watch, (feeds.foldl act u).veiled v = feeds.foldl act (u.veiled v) := by
    induction feeds with
    | nil => exact fun u => rfl
    | cons feed feeds ih => exact fun u => (ih (act u feed)).trans (by rw [keep]; rfl)
  unfold settle
  rw [each (veiled_endLoop v), each (veiled_beginLoop v), veiled_postAll]

/-! ## What loops do -/

theorem veiled_tick (feed : Feed) : (w.tick feed).veiled v = (w.veiled v).tick feed := by
  unfold tick
  split
  · next shown =>
    refine (veiled_log_one v _ rfl).trans (Eq.trans ?_ (if_pos shown).symm)
    refine congrArg (log · _) ((veiled_set v { w with script := w.script.advance feed } feed
      _).trans ?_)
    simp only [veiled, v.next_script, v.advance_script]
    rfl
  · next hidden =>
    exact (veiled_set v w feed _).trans (if_neg hidden).symm

theorem veiled_land (feed : Feed) (answer : Answer) :
    (w.land feed answer).veiled v = (w.veiled v).land feed (v.answer feed answer) := by
  have landing : w.session.landing feed w.now (v.answer feed answer) =
      w.session.landing feed w.now answer := v.lands ..
  have landed : ({ w with session := w.session.land feed w.now answer }.log
        (w.session.landing feed w.now answer).events).veiled v =
      { w.veiled v with session := w.session.land feed w.now (v.answer feed answer) }.log
        (w.session.landing feed w.now answer).events := by
    rw [veiled_log, Session.land, Session.land, landing]
    · rfl
    · intro e he
      have lands := Landing.isLanding_of_mem _ _ _ _ _ e he
      cases e <;> first | rfl | cases lands
  have same : (w.veiled v).session.landing feed (w.veiled v).now (v.answer feed answer) =
      w.session.landing feed w.now answer := landing
  simp only [land, same]
  split
  · exact (veiled_set v _ feed _).trans (by rw [landed]; rfl)
  · refine (veiled_log_one v _ rfl).trans (congrArg (log · _) ?_)
    exact (veiled_set v _ feed _).trans (by rw [landed]; rfl)

theorem veiled_wake (feed : Feed) : (w.wake feed).veiled v = (w.veiled v).wake feed := by
  have seen : (w.veiled v).loops.get feed = v.activity feed (w.loops.get feed) :=
    PerFeed.get_map ..
  unfold wake
  rw [seen]
  cases w.loops.get feed with
  | resting moment => exact veiled_tick v { w with clock := moment } feed
  | awaiting answer arrival => exact veiled_land v { w with clock := arrival } feed answer
  | _ => rfl

theorem nextDue?_veiled (limit : Nat) : (w.veiled v).nextDue? limit = w.nextDue? limit := by
  have due (feed : Feed) : (w.veiled v).dueBy? limit feed = w.dueBy? limit feed := by
    rw [dueBy?, veiled, PerFeed.get_map, v.due?_activity, dueBy?]
  simp only [nextDue?, due]

/-- What is seen of a watch goes on as the watch does: the same loops wake in the same order. -/
theorem veiled_runUntil (limit : Nat) :
    (w.runUntil limit).veiled v = (w.veiled v).runUntil limit := by
  fun_induction runUntil limit w with
  | case1 w none =>
    rw [runUntil]
    split
    · rfl
    · next feed named =>
      rw [nextDue?_veiled, none] at named
      cases named
  | case2 w feed named ih =>
    rw [ih, runUntil.eq_def limit (w.veiled v)]
    split
    · next none =>
      rw [nextDue?_veiled, named] at none
      cases none
    · next other named' =>
      rw [nextDue?_veiled, named] at named'
      rw [veiled_wake, Option.some.inj named']

theorem veiled_advance (millis : Nat) :
    (w.advance millis).veiled v = (w.veiled v).advance millis := by
  unfold advance
  rw [veiled_noteFailures, veiled_runUntil, veiled_settle]
  rfl

/-! ## Runs and courses -/

theorem veiled_followForms : w.followForms.veiled v = (w.veiled v).followForms := by
  unfold followForms
  rw [veiled_reload, veiled_drain]

theorem veiled_frame (view : View) : (w.frame view).veiled v = (w.veiled v).frame view := by
  unfold frame
  rw [veiled_followForms, veiled_openFrame]

theorem drawing_veiled (view : View) : (w.veiled v).drawing view = w.drawing view := by
  unfold drawing
  rw [← veiled_frame]
  rfl

theorem veiled_perform (a : Action) : (w.perform a).veiled v = (w.veiled v).perform a := by
  cases a with
  | frame view => exact veiled_frame v w view
  | advance millis => exact veiled_advance v w millis
  | followForms => exact veiled_followForms v w
  | startPolling => exact veiled_startPolling v w
  | stopPolling => exact veiled_stopPolling v w
  | close => exact veiled_close v w

/-- What is seen of a run is the run of what is seen. -/
theorem veiled_run (actions : List Action) :
    (w.run actions).veiled v = (w.veiled v).run actions := by
  induction actions generalizing w with
  | nil => rfl
  | cons a actions ih => rw [run_cons, run_cons, ih, veiled_perform]

/-- A veil shows all of a watch that has just begun but what its script says. -/
theorem veiled_ofSettings (settings : Settings) (store : Store) (script : Script) (now : Int) :
    (ofSettings settings store script now).veiled v =
      ofSettings settings store (v.script script) now := by
  have connecting := v.entries_of_shown
    [.connecting settings.serverUrl settings.sessionId.isSome settings.startScreen]
    (fun e he => by rw [List.mem_singleton.1 he]; rfl) 0
  exact congrArg (fun journal =>
    ({ ofSettings settings store (v.script script) now with journal } : Watch)) connecting

theorem veiled_start (store : Store) (script : Script) (now : Int) :
    (start store script now).veiled v = start store (v.script script) now := by
  have found : store.load.2.isPostFailure = false := by
    unfold Store.load
    split
    · rfl
    · split <;> rfl
  have shown : ∀ e ∈ [store.load.2, .connecting store.load.1.serverUrl
      store.load.1.sessionId.isSome store.load.1.startScreen], e.isPostFailure = false := by
    intro e he
    rcases List.mem_cons.1 he with rfl | he
    · exact found
    · rw [List.mem_singleton.1 he]
      rfl
  have opening := v.entries_of_shown _ shown 0
  exact congrArg (fun journal =>
    ({ start store (v.script script) now with journal } : Watch)) opening

theorem veiled_attend (chore : Chore) :
    (w.attend chore).veiled v = (w.veiled v).attend chore := by
  cases chore with
  | pass clock now => rfl
  | startPolling => exact veiled_startPolling v w
  | stopPolling => exact veiled_stopPolling v w
  | close => exact veiled_close v w
  | beginLoop feed => exact veiled_beginLoop v w feed
  | endLoop feed => exact veiled_endLoop v w feed
  | openFrame view => exact veiled_openFrame v w view
  | noteFailures => exact veiled_noteFailures v w

theorem veiled_postAt (index : Nat) : (w.postAt index).veiled v = (w.veiled v).postAt index := by
  have same : (w.veiled v).posts = w.posts := rfl
  unfold postAt
  rw [same]
  cases w.posts[index]? with
  | none => rfl
  | some s => exact veiled_post v { w with posts := w.posts.eraseIdx index } s

end Watch

namespace Course

/-- What is seen of a course. -/
def veiled (v : Veil) (c : Course) : Course :=
  { c with
    watch := c.watch.veiled v
    landed := c.landed.map fun landed => (landed.1, v.answer landed.1 landed.2) }

variable (v : Veil) (c : Course)

theorem loop_veiled (feed : Feed) :
    (c.veiled v).watch.loops.get feed = v.activity feed (c.watch.loops.get feed) :=
  PerFeed.get_map ..

theorem veiled_perform (m : Move) : (c.perform m).veiled v = (c.veiled v).perform m := by
  cases m with
  | chore chore => exact congrArg ({ c.veiled v with watch := · }) (c.watch.veiled_attend v chore)
  | post index => exact congrArg ({ c.veiled v with watch := · }) (c.watch.veiled_postAt v index)
  | tick feed =>
    simp only [perform, loop_veiled]
    cases c.watch.loops.get feed with
    | resting wake =>
      exact congrArg ({ c.veiled v with watch := · }) (c.watch.veiled_tick v feed)
    | _ => rfl
  | land feed =>
    simp only [perform, loop_veiled]
    cases c.watch.loops.get feed with
    | awaiting answer arrival =>
      simp only [veiled, List.map_append, List.map_cons, List.map_nil, Watch.veiled_land]
      rfl
    | _ => rfl
  | drain =>
    simp only [perform]
    split
    · next stage =>
      refine Eq.trans ?_ (if_pos stage).symm
      simp only [veiled, Watch.veiled_drain]
      rfl
    · next stage => exact (if_neg stage).symm
  | reload =>
    simp only [perform]
    split
    · next stage => exact (if_pos stage).symm
    · next stage => exact (if_neg stage).symm
  | draw =>
    simp only [perform]
    split
    · next stage => exact (if_pos stage).symm
    · next stage => exact (if_neg stage).symm

/-- What is seen of a course is the course of what is seen. -/
theorem veiled_run (moves : List Move) : (c.run moves).veiled v = (c.veiled v).run moves := by
  induction moves generalizing c with
  | nil => rfl
  | cons m moves ih => rw [run_cons, run_cons, ih, veiled_perform]

theorem veiled_start (settings : Settings) (store : Store) (script : Script) (now : Int) :
    (start settings store script now).veiled v =
      start settings store (v.script script) now := by
  rw [start, veiled, ofWatch, Watch.veiled_ofSettings]
  rfl

theorem timely_veiled (m : Move) : (c.veiled v).Timely m ↔ c.Timely m := by
  cases m with
  | chore chore =>
    cases chore with
    | pass clock now =>
      simp only [Timely, loop_veiled, v.lets_activity]
      rfl
    | _ => rfl
  | tick feed =>
    simp only [Timely, loop_veiled, v.due?_activity]
    rfl
  | land feed =>
    simp only [Timely, loop_veiled, v.due?_activity]
    rfl
  | _ => rfl

/-- A course keeps to the clock if what is seen of it does. -/
theorem timed_veiled (moves : List Move) : (c.veiled v).Timed moves ↔ c.Timed moves := by
  induction moves generalizing c with
  | nil => rfl
  | cons m moves ih => rw [Timed, Timed, timely_veiled, ← veiled_perform, ih]

end Course

/-! ## Scripts of which the same is seen -/

variable {v : Veil} {script script' : Script}

/-- If the same is seen of two scripts, the same is seen of the courses that they lead to, and the
same moves keep to the clock. -/
theorem Course.veiled_run_of_script (h : v.script script = v.script script') (settings : Settings)
    (store : Store) (now : Int) (moves : List Move) :
    ((start settings store script now).Timed moves ↔
        (start settings store script' now).Timed moves) ∧
      ((start settings store script now).run moves).veiled v =
        ((start settings store script' now).run moves).veiled v := by
  rw [← timed_veiled v, ← timed_veiled v (start settings store script' now), veiled_run,
    veiled_run, veiled_start, veiled_start, h]
  exact ⟨Iff.rfl, rfl⟩

theorem Watch.veiled_run_of_script (h : v.script script = v.script script') (store : Store)
    (now : Int) (actions : List Action) :
    ((start store script now).run actions).veiled v =
      ((start store script' now).run actions).veiled v := by
  rw [veiled_run, veiled_run, veiled_start, veiled_start, h]

end WalletWatch
