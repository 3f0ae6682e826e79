import WalletWatch.Proofs.Course.Timing
/-!
# What the journal tells of a loop

The journal notes when a loop begins, each request that it makes, and that the heartbeat is lost
(`Event.mark?`). These marks of a feed are those of its diary (`Course.marks_run`), in every course:
nothing else that happens leaves such a mark, since all that is noted late are failures of posted
forms (`Watch.NotesPosts`).
-/

namespace WalletWatch

/-- What the journal notes of a loop. -/
inductive Mark
  | started
  | asked
  /-- The heartbeat is lost. -/
  | lost
deriving DecidableEq

/-- What an event tells of the loop of a feed. -/
def Event.mark? (feed : Feed) : Event → Option Mark
  | loopStarted other => if other = feed then some .started else none
  | fetched other => if other = feed then some .asked else none
  | shutdownReported | heartbeatLost _ => if .heartbeat = feed then some .lost else none
  | _ => none

namespace Event

/-- The notice of a lost heartbeat. -/
def isNotice : Event → Bool
  | shutdownReported | heartbeatLost _ => true
  | _ => false

variable {e : Event} {feed : Feed}

theorem mark?_eq_started_iff : e.mark? feed = some .started ↔ e = .loopStarted feed := by
  cases e <;> simp [mark?]

theorem mark?_eq_asked_iff : e.mark? feed = some .asked ↔ e = .fetched feed := by
  cases e <;> simp [mark?]

theorem mark?_eq_lost_iff : e.mark? .heartbeat = some .lost ↔ e.isNotice = true := by
  cases e <;> simp [mark?, isNotice]

end Event

/-- The mark that something leaves which the loop of a feed does. -/
def Stamp.mark? (feed : Feed) (s : Stamp) : Option (Nat × Mark) :=
  match s.beat with
  | .began => some (s.time, .started)
  | .asked _ => some (s.time, .asked)
  | .skipped => none
  | .answered answer => if Answer.next feed answer = .stop then some (s.time, .lost) else none

namespace Stamp

def begun? (s : Stamp) : Option Nat :=
  match s.beat with
  | .began => some s.time
  | _ => none

/-- The moments at which a loop began. -/
def begins (stamps : List Stamp) : List Nat :=
  stamps.filterMap begun?

/-- Marks of one kind tell the moments of the stamps that leave them. -/
theorem moments_of_marks {feed : Feed} {mark : Mark} {moment? : Stamp → Option Nat}
    (told : ∀ stamp, ((mark? feed stamp).filter (·.2 = mark)).map (·.1) = moment? stamp)
    (stamps : List Stamp) :
    ((stamps.filterMap (mark? feed)).filter (·.2 = mark)).map (·.1) =
      stamps.filterMap moment? := by
  rw [List.filter_filterMap, List.map_filterMap]
  exact congrArg (List.filterMap · stamps) (funext told)

theorem begun?_of_mark (feed : Feed) (stamp : Stamp) :
    ((mark? feed stamp).filter (·.2 = .started)).map (·.1) = stamp.begun? := by
  obtain ⟨time, beat⟩ := stamp
  cases beat with
  | answered answer =>
    by_cases stops : Answer.next feed answer = .stop <;> simp [mark?, begun?, stops]
  | _ => rfl

theorem request?_of_mark (feed : Feed) (stamp : Stamp) :
    ((mark? feed stamp).filter (·.2 = .asked)).map (·.1) = stamp.request? := by
  obtain ⟨time, beat⟩ := stamp
  cases beat with
  | answered answer =>
    by_cases stops : Answer.next feed answer = .stop <;> simp [mark?, request?, stops]
  | _ => rfl

theorem begins_eq_nil {stamps : List Stamp} (never : ∀ stamp ∈ stamps, stamp.beat ≠ .began) :
    begins stamps = [] := by
  refine List.filterMap_eq_nil_iff.2 fun stamp member => ?_
  unfold begun?
  split
  · next began => exact absurd began (never stamp member)
  · rfl

end Stamp

/-- The marks of a landing: one if it stops its loop. -/
theorem Landing.marks_ofAnswer (feed : Feed) (now : Int) (memory : Option String) (page : Page)
    (answer : Answer) (other : Feed) :
    (ofAnswer feed now memory page answer).events.filterMap (Event.mark? other) =
      if feed = other ∧ Answer.next feed answer = .stop then [.lost] else [] := by
  have taken : ∀ (p : Page) (reason : Bool) (form : String) (event : Event),
      event.mark? other = none → (p.submitIf reason form event).2.filterMap (Event.mark? other) =
        [] := by
    intro p reason form event quiet
    simp [Page.submitIf_eq, quiet]
  have goes : ∀ l : Landing, l.events.filterMap (Event.mark? other) = [] → l.next ≠ .stop →
      l.events.filterMap (Event.mark? other) =
        if feed = other ∧ l.next = .stop then [.lost] else [] := by
    intro l quiet goes
    rw [quiet, if_neg fun h => goes h.2]
  have ends : ∀ l : Landing, feed = .heartbeat → l.next = .stop →
      (∃ event, l.events = [event] ∧
        event.mark? other = if .heartbeat = other then some .lost else none) →
      l.events.filterMap (Event.mark? other) =
        if feed = other ∧ l.next = .stop then [.lost] else [] := by
    rintro l rfl stops ⟨event, events, mark⟩
    by_cases own : Feed.heartbeat = other <;> simp [events, mark, stops, own]
  rw [← next_ofAnswer feed now memory page answer]
  rcases ofAnswer_eq feed now memory page answer with ⟨report, read, e⟩ | ⟨-, failure, e⟩
  · have own := Answer.feed_of_report? read
    rw [e]
    cases report with
    | bootstrapper status => exact goes _ (taken _ _ _ _ rfl) (by simp [ofReport, ofProgress])
    | consensusBuilder status => exact goes _ (taken _ _ _ _ rfl) (by simp [ofReport, ofProgress])
    | blockHeight r => exact goes _ (taken _ _ _ _ rfl) (by simp [ofReport, ofHeight])
    | balance r => exact goes _ (taken _ _ _ _ rfl) (by simp [ofReport, ofBalance])
    | heartbeat alive =>
      cases alive with
      | true => exact goes _ rfl (by simp [ofReport])
      | false => exact ends _ own.symm rfl ⟨.shutdownReported, rfl, rfl⟩
  · rw [e]
    cases feed with
    | heartbeat => exact ends _ rfl rfl ⟨.heartbeatLost failure, rfl, rfl⟩
    | _ => exact goes _ rfl (by simp [ofFailure])

namespace Watch

/-- The marks that the journal has of the loop of a feed, with their moments. -/
def marks (w : Watch) (feed : Feed) : List (Nat × Mark) :=
  w.journal.filterMap fun e => (e.event.mark? feed).map (e.time, ·)

/-- What is still to be noted are failures of posted forms. -/
def NotesPosts (w : Watch) : Prop :=
  ∀ e ∈ w.failing, ∃ form failure, e.event = .submissionFailed form failure

variable {w : Watch} {feed : Feed}

theorem marks_log (w : Watch) (events : List Event) (feed : Feed) :
    (w.log events).marks feed =
      w.marks feed ++ (events.filterMap (Event.mark? feed)).map (w.clock, ·) := by
  simp only [marks, log, List.filterMap_append, List.filterMap_map, List.map_filterMap]
  rfl

theorem marks_log_quiet {events : List Event} (quiet : ∀ e ∈ events, e.mark? feed = none) :
    (w.log events).marks feed = w.marks feed := by
  rw [marks_log, List.filterMap_eq_nil_iff.2 quiet]
  exact List.append_nil _

theorem marks_startPolling (w : Watch) (feed : Feed) :
    w.startPolling.marks feed = w.marks feed := by
  unfold startPolling
  split
  · rfl
  · exact marks_log_quiet (by simp [Event.mark?])

theorem marks_saveSettings (w : Watch) (feed : Feed) :
    w.saveSettings.marks feed = w.marks feed := by
  refine marks_log_quiet fun e he => ?_
  rw [Store.eq_of_mem_save he]
  rfl

theorem marks_noteFailures (notes : w.NotesPosts) (feed : Feed) :
    w.noteFailures.marks feed = w.marks feed := by
  have quiet : (w.failing.filter (·.time ≤ w.clock)).filterMap
      (fun e => (e.event.mark? feed).map (e.time, ·)) = [] := by
    rw [List.filterMap_eq_nil_iff]
    intro e he
    obtain ⟨form, failure, posted⟩ := notes e (List.mem_filter.1 he).1
    rw [posted]
    rfl
  simp only [marks, noteFailures, List.filterMap_append, quiet, List.append_nil]

theorem marks_endLoop (w : Watch) (other feed : Feed) :
    (w.endLoop other).marks feed = w.marks feed := by
  unfold endLoop
  split
  · exact marks_log_quiet (by simp [Event.mark?])
  · rfl

theorem marks_postAt (w : Watch) (index : Nat) (feed : Feed) :
    (w.postAt index).marks feed = w.marks feed := by
  unfold postAt
  split
  · exact marks_log_quiet (by simp [Event.mark?])
  · rfl

theorem marks_drain (w : Watch) (feed : Feed) : w.drain.marks feed = w.marks feed := by
  refine marks_log_quiet fun e he => ?_
  obtain ⟨form, before, after, rfl⟩ := Session.exists_of_mem_drainEvents he
  rfl

theorem marks_tick (w : Watch) (other feed : Feed) :
    (w.tick other).marks feed = w.marks feed ++
      if w.session.shows other = true ∧ other = feed then [(w.clock, .asked)] else [] := by
  unfold tick
  split
  · next shown =>
    rw [marks_log, shown]
    by_cases own : other = feed <;> simp [Event.mark?, own, marks]
  · next hidden => simp [hidden, marks]

theorem marks_land (w : Watch) (other feed : Feed) (answer : Answer) :
    (w.land other answer).marks feed = w.marks feed ++
      if other = feed ∧ Answer.next other answer = .stop then [(w.clock, .lost)] else [] := by
  have landed : ({ w with session := w.session.land other w.now answer }.log
      (w.session.landing other w.now answer).events).marks feed = w.marks feed ++
        if other = feed ∧ Answer.next other answer = .stop then [(w.clock, .lost)] else [] := by
    rw [marks_log, Session.landing, Landing.marks_ofAnswer]
    split <;> rfl
  simp only [land]
  split
  · exact landed
  · exact (marks_log_quiet (by simp [Event.mark?])).trans landed

theorem NotesPosts.attend (h : w.NotesPosts) (chore : Chore) : (w.attend chore).NotesPosts := by
  cases chore with
  | startPolling => rwa [NotesPosts, Watch.attend, failing_startPolling]
  | openFrame view =>
    have same := failing_startPolling { w with window := w.window.track view }
    exact fun e he => h e ((congrArg (e ∈ ·) same).mp he)
  | beginLoop feed => rwa [NotesPosts, Watch.attend, failing_beginLoop]
  | endLoop feed => rwa [NotesPosts, Watch.attend, failing_endLoop]
  | noteFailures => exact fun e he => h e (List.mem_filter.1 he).1
  | pass clock now => exact h
  | stopPolling => exact h
  | close => exact h

theorem NotesPosts.postAt (h : w.NotesPosts) (index : Nat) : (w.postAt index).NotesPosts := by
  intro e he
  unfold Watch.postAt at he
  split at he
  · simp only [post, failing_log, List.mem_append, List.mem_map] at he
    rcases he with old | ⟨failure, -, rfl⟩
    · exact h e old
    · exact ⟨_, _, rfl⟩
  · exact h e he

end Watch

namespace Course

variable {c : Course} {feed : Feed} {m : Move}

theorem notesPosts_perform (h : c.watch.NotesPosts) (m : Move) :
    (c.perform m).watch.NotesPosts := by
  cases m with
  | chore chore => exact h.attend chore
  | post index => exact h.postAt index
  | tick feed =>
    rcases c.perform_tick feed with ⟨wake, -, e⟩ | e
    · rw [e]
      rwa [Watch.NotesPosts, Watch.failing_tick]
    · rwa [e]
  | land feed =>
    rcases c.perform_land feed with ⟨answer, -, e⟩ | ⟨-, e⟩
    · rw [e]
      rwa [Watch.NotesPosts, Watch.failing_land]
    · rwa [e]
  | drain => simp only [perform]; split <;> exact h
  | reload => simp only [perform]; split <;> exact h
  | draw => simp only [perform]; split <;> exact h

/-- A move marks in the journal what its loop does in it. -/
theorem marks_perform (h : c.watch.NotesPosts) (m : Move) (feed : Feed) :
    (c.perform m).watch.marks feed =
      c.watch.marks feed ++ (c.stamps feed m).filterMap (Stamp.mark? feed) := by
  have quiet : c.act? m = none → (c.perform m).watch.marks feed = c.watch.marks feed →
      (c.perform m).watch.marks feed =
        c.watch.marks feed ++ (c.stamps feed m).filterMap (Stamp.mark? feed) := by
    intro nobody same
    rw [same, stamps_of_nobody nobody]
    exact (List.append_nil _).symm
  have acts : ∀ (other : Feed) (beat : Beat), c.act? m = some (other, beat) →
      (c.perform m).watch.marks feed = c.watch.marks feed ++
        (if other = feed then (Stamp.mark? feed ⟨c.watch.clock, beat⟩).toList else []) →
      (c.perform m).watch.marks feed =
        c.watch.marks feed ++ (c.stamps feed m).filterMap (Stamp.mark? feed) := by
    intro other beat act marks
    rw [marks, stamps_of_act act]
    by_cases own : other = feed
    · simp only [own, if_true, List.filterMap_cons, List.filterMap_nil]
      cases Stamp.mark? feed ⟨c.watch.clock, beat⟩ <;> rfl
    · simp only [own, if_false, List.filterMap_nil]
  cases m with
  | chore chore =>
    cases chore with
    | beginLoop other =>
      cases loop : c.watch.loops.get other with
      | starting =>
        refine acts other .began (by simp only [act?, loop]) ?_
        simp only [perform, Watch.attend, Watch.beginLoop, loop, Watch.marks_log]
        by_cases own : other = feed <;> simp [Event.mark?, Stamp.mark?, own, Watch.marks]
      | _ =>
        refine quiet (by simp only [act?, loop]) ?_
        simp only [perform, Watch.attend, Watch.beginLoop, loop]
    | endLoop other => exact quiet rfl (Watch.marks_endLoop ..)
    | startPolling => exact quiet rfl (Watch.marks_startPolling ..)
    | openFrame view =>
      exact quiet rfl
        (Watch.marks_startPolling { c.watch with window := c.watch.window.track view } feed)
    | close =>
      refine quiet rfl ((Watch.marks_saveSettings _ feed).trans ?_)
      exact Watch.marks_log_quiet (w := c.watch) (by simp [Event.mark?])
    | noteFailures => exact quiet rfl (Watch.marks_noteFailures h feed)
    | pass clock now => exact quiet rfl rfl
    | stopPolling => exact quiet rfl rfl
  | post index => exact quiet rfl (Watch.marks_postAt ..)
  | tick other =>
    cases loop : c.watch.loops.get other with
    | resting wake =>
      refine acts other _ (act?_tick loop) ?_
      rw [perform_tick_of_resting loop, Watch.marks_tick, session]
      cases c.watch.session.shows other <;> by_cases own : other = feed <;> simp [own, Stamp.mark?]
    | _ => exact quiet (by simp only [act?, loop]) (by simp only [perform, loop])
  | land other =>
    cases loop : c.watch.loops.get other with
    | awaiting answer arrival =>
      refine acts other _ (act?_land loop) ?_
      rw [perform_land_of_awaiting loop, Watch.marks_land]
      by_cases own : other = feed
      · subst own
        by_cases stops : Answer.next other answer = .stop <;> simp [stops, Stamp.mark?]
      · simp [own]
    | _ => exact quiet (by simp only [act?, loop]) (by simp only [perform, loop])
  | drain =>
    refine quiet rfl ?_
    simp only [perform]
    split
    · exact Watch.marks_drain ..
    · rfl
  | reload =>
    refine quiet rfl ?_
    simp only [perform]
    split <;> rfl
  | draw =>
    refine quiet rfl ?_
    simp only [perform]
    split <;> rfl

/-- The journal has the marks of all that a loop does. -/
theorem marks_run (h : c.watch.NotesPosts) (moves : List Move) (feed : Feed) :
    (c.run moves).watch.marks feed =
      c.watch.marks feed ++ (c.diary feed moves).filterMap (Stamp.mark? feed) := by
  induction moves generalizing c with
  | nil => exact (List.append_nil _).symm
  | cons m moves ih =>
    rw [run_cons, ih (notesPosts_perform h m), marks_perform h, diary, List.filterMap_append,
      List.append_assoc]

theorem marks_start (settings : Settings) (store : Store) (script : Script) (now : Int)
    (moves : List Move) (feed : Feed) :
    ((start settings store script now).run moves).watch.marks feed =
      ((start settings store script now).diary feed moves).filterMap (Stamp.mark? feed) :=
  marks_run (fun _ he => by cases he) moves feed

/-- An event was noted at some moment. -/
def Notes (c : Course) (time : Nat) (event : Event) : Prop :=
  ⟨time, event⟩ ∈ c.watch.journal

/-- The moments at which something was noted. -/
def times (c : Course) (what : Event → Bool) : List Nat :=
  (c.watch.journal.filter (what ·.event)).map (·.time)

theorem times_of_marks {what : Event → Bool} {mark : Mark}
    (told : ∀ e : Event, e.mark? feed = some mark ↔ what e = true) :
    c.times what = ((c.watch.marks feed).filter (·.2 = mark)).map (·.1) := by
  rw [times, Watch.marks]
  induction c.watch.journal with
  | nil => rfl
  | cons e journal ih =>
    have own := told e.event
    cases marked : e.event.mark? feed with
    | none =>
      have silent : what e.event = false := by
        rw [marked] at own
        simpa using own
      simp [marked, silent, ih]
    | some m =>
      rw [marked, Option.some.injEq] at own
      by_cases same : m = mark
      · simp [marked, same, own.1 same, ih]
      · have silent : what e.event = false := by simpa [same] using own
        simp [marked, same, silent, ih]

theorem times_loopStarted (settings : Settings) (store : Store) (script : Script) (now : Int)
    (moves : List Move) (feed : Feed) :
    ((start settings store script now).run moves).times (· = .loopStarted feed) =
      Stamp.begins ((start settings store script now).diary feed moves) := by
  rw [times_of_marks fun e => by rw [Event.mark?_eq_started_iff, decide_eq_true_eq], marks_start,
    Stamp.moments_of_marks (Stamp.begun?_of_mark feed), Stamp.begins]

theorem times_fetched (settings : Settings) (store : Store) (script : Script) (now : Int)
    (moves : List Move) (feed : Feed) :
    ((start settings store script now).run moves).times (· = .fetched feed) =
      Stamp.requests ((start settings store script now).diary feed moves) := by
  rw [times_of_marks fun e => by rw [Event.mark?_eq_asked_iff, decide_eq_true_eq], marks_start,
    Stamp.moments_of_marks (Stamp.request?_of_mark feed), Stamp.requests]

end Course

end WalletWatch
