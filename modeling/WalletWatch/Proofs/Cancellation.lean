import WalletWatch.Proofs.Course.Ends
import WalletWatch.Proofs.Course.Traffic
/-!
# Cancellation is final

What a course can still do after its loops were told to end. Each of them ends once, when it is told
to or when an answer stops it, and the journal notes it then (`Course.NotesEnds`). If nothing was due
at the moment of the cancellation, no loop does anything between this moment and its end
(`Course.Ceased.nobody`): nothing is asked for, and what was on its way does not land. All that is
left to do to the page is what frames do with the forms and the screen that waited then
(`Session.remainder`).
-/

namespace WalletWatch

theorem Activity.eq_ended_of_begun {activity : Activity} (begun : activity.hasBegun = true)
    (dead : activity.isAlive = false) : activity = .ended := by
  cases activity with
  | idle => cases begun
  | starting => cases begun
  | resting wake => cases dead
  | awaiting answer arrival => cases dead
  | ended => rfl

namespace Session

/-- What frames can still make of the shared state when no answer lands any more: the screen that
was pending is loaded, the forms in the outbox are taken, and the screen that follows them is
loaded. -/
def remainder (s : Session) : List Session :=
  [s, s.reload, s.reload.drain, s.reload.drain.reload]

theorem outbox_drain (s : Session) : s.drain.page.outbox = [] := by
  rcases s.drain_cases with ⟨empty, e⟩ | ⟨last, -, e⟩ <;> rw [e]
  exact empty

theorem pending_reload (s : Session) : s.reload.pending = none := by
  rcases s.reload_cases with ⟨idle, e⟩ | ⟨next, -, e⟩ <;> rw [e]
  exact idle

theorem updated_drain (s : Session) : s.drain.page.updated = s.page.updated := by
  rcases s.drain_cases with ⟨-, e⟩ | ⟨last, -, e⟩ <;> rw [e]

theorem updated_reload (s : Session) : s.reload.page.updated = s.page.updated := by
  rcases s.reload_cases with ⟨-, e⟩ | ⟨next, -, e⟩ <;> rw [e]
  unfold Page.load
  split <;> rfl

theorem reload_reload (s : Session) : s.reload.reload = s.reload :=
  reload_of_idle s.pending_reload

variable {s t : Session}

/-- Nothing more is loaded than what was pending and what follows the outbox. -/
theorem reload_mem_remainder (h : t ∈ s.remainder) : t.reload ∈ s.remainder := by
  simp only [remainder, List.mem_cons, List.not_mem_nil, or_false] at h ⊢
  rcases h with rfl | rfl | rfl | rfl
  · exact .inr (.inl rfl)
  · exact .inr (.inl (reload_reload _))
  · exact .inr (.inr (.inr rfl))
  · exact .inr (.inr (.inr (reload_reload _)))

/-- No more forms are taken than were in the outbox. -/
theorem drain_mem_remainder (h : t ∈ s.remainder) (idle : t.pending = none) :
    t.drain ∈ s.remainder := by
  have taken : ∀ r : Session, r.drain.drain = r.drain := fun r => drain_of_empty r.outbox_drain
  have loaded : ∀ r : Session, r.drain.reload.drain = r.drain.reload := fun r =>
    drain_of_empty ((outbox_reload _).trans r.outbox_drain)
  simp only [remainder, List.mem_cons, List.not_mem_nil, or_false] at h ⊢
  rcases h with rfl | rfl | rfl | rfl
  · exact .inr (.inr (.inl (by rw [reload_of_idle idle])))
  · exact .inr (.inr (.inl rfl))
  · exact .inr (.inr (.inl (taken _)))
  · exact .inr (.inr (.inr (loaded _)))

/-- Frames change neither the age of a page, nor whether it is shut down, nor what loops remember. -/
theorem page_of_mem_remainder (h : t ∈ s.remainder) :
    t.page.updated = s.page.updated ∧ t.page.shutdown = s.page.shutdown ∧ t.memory = s.memory := by
  simp only [remainder, List.mem_cons, List.not_mem_nil, or_false] at h
  rcases h with rfl | rfl | rfl | rfl <;>
    simp only [updated_reload, updated_drain, shutdown_reload, shutdown_drain, memory_reload,
      memory_drain, and_self]

/-- Frames that find nothing waiting change nothing. -/
theorem eq_of_mem_remainder (h : t ∈ s.remainder) (empty : s.page.outbox = [])
    (idle : s.pending = none) : t = s := by
  simpa only [remainder, reload_of_idle idle, drain_of_empty empty, List.mem_cons,
    List.not_mem_nil, or_false, or_self] using h

end Session

namespace Course

variable {settings : Settings} {c c' : Course} {m : Move} {feed : Feed}

/-! ## After the cancellation -/

/-- A loop that was not told to do anything does what it did, or it ends. -/
theorem loops_of_nobody (polling : c.watch.polling = true) (nobody : c.act? m = none)
    (feed : Feed) : (c.perform m).watch.loops.get feed = c.watch.loops.get feed ∨
      (c.perform m).watch.loops.get feed = .ended := by
  cases m with
  | chore chore =>
    cases chore with
    | startPolling =>
      exact .inl (by rw [perform, Watch.attend, Watch.startPolling_of_polling polling])
    | openFrame view =>
      have seen : ({ c.watch with window := c.watch.window.track view } : Watch).polling = true :=
        polling
      exact .inl (by simp only [perform, Watch.attend, Watch.openFrame,
        Watch.startPolling_of_polling seen])
    | beginLoop other =>
      rcases Watch.beginLoop_eq_or c.watch other with same | ⟨starting, -⟩
      · exact .inl (by rw [perform, Watch.attend, same])
      · simp [act?, starting] at nobody
    | endLoop other =>
      rcases Watch.endLoop_eq_or c.watch other with same | ⟨-, loops⟩
      · exact .inl (by rw [perform, Watch.attend, same])
      · by_cases own : feed = other
        · exact .inr (by rw [perform, Watch.attend, loops, own, PerFeed.get_set_self])
        · exact .inl (by rw [perform, Watch.attend, loops, PerFeed.get_set_of_ne _ own])
    | pass clock now => exact .inl rfl
    | stopPolling => exact .inl rfl
    | close => exact .inl rfl
    | noteFailures => exact .inl rfl
  | post index => exact .inl (by rw [perform, Watch.loops_postAt])
  | tick other =>
    rcases c.perform_tick other with ⟨wake, resting, -⟩ | e
    · simp [act?, resting] at nobody
    · exact .inl (by rw [e])
  | land other =>
    rcases c.perform_land other with ⟨answer, ⟨arrival, awaiting⟩, -⟩ | ⟨-, e⟩
    · simp [act?, awaiting] at nobody
    · exact .inl (by rw [e])
  | drain => simp only [perform]; split <;> exact .inl rfl
  | reload => simp only [perform]; split <;> exact .inl rfl
  | draw => simp only [perform]; split <;> exact .inl rfl

/-- What can have become of a page since its loops were cancelled, and of the forms on it: frames
followed what waited then, and no answer landed. -/
structure Clears (c c' : Course) : Prop where
  requests : c'.requests = c.requests
  landed : c'.landed = c.landed
  accepted : c'.accepted = c.accepted
  session : c'.session ∈ c.session.remainder
  forms : c'.batches.flatten ++ c'.page.outbox = c.batches.flatten ++ c.page.outbox

/-- Without the loops only frames change the page. -/
theorem Clears.perform (h : Clears c c') (hl : c'.Lawful settings) (nobody : c'.act? m = none) :
    Clears c (c'.perform m) := by
  have idle (session : (c'.perform m).session = c'.session)
      (requests : (c'.perform m).requests = c'.requests)
      (accepted : (c'.perform m).accepted = c'.accepted)
      (landed : (c'.perform m).landed = c'.landed)
      (batches : (c'.perform m).batches = c'.batches) : Clears c (c'.perform m) := by
    refine ⟨requests.trans h.requests, landed.trans h.landed, accepted.trans h.accepted, ?_, ?_⟩
    · rw [session]
      exact h.session
    · rw [page, session, batches]
      exact h.forms
  cases c'.turn hl.orderly m with
  | aside e =>
    exact idle (congrArg Account.session e) (congrArg (·.deeds.filterMap Deed.request?) e)
      (congrArg (·.deeds.filterMap Deed.accept?) e) (congrArg Account.landed e)
      (congrArg Account.batches e)
  | post index s move found e =>
    exact idle (congrArg Account.session e)
      ((requests_of_deeds (congrArg Account.deeds e)).trans (List.append_nil _))
      ((accepted_of_deeds (congrArg Account.deeds e)).trans (List.append_nil _))
      (congrArg Account.landed e) (congrArg Account.batches e)
  | request feed move shown loop e =>
    obtain ⟨wake, resting⟩ := loop
    rw [move, act?_tick resting] at nobody
    cases nobody
  | land feed answer move awaits e =>
    obtain ⟨arrival, awaiting⟩ := awaits
    rw [move, act?_land awaiting] at nobody
    cases nobody
  | drain move stage e =>
    have session : (c'.perform m).session = c'.session.drain := congrArg Account.session e
    have loaded : c'.session.pending = none := by
      by_contra pending
      cases (hl.framed pending).symm.trans stage
    refine ⟨(congrArg (·.deeds.filterMap Deed.request?) e).trans h.requests,
      (congrArg Account.landed e).trans h.landed,
      (congrArg (·.deeds.filterMap Deed.accept?) e).trans h.accepted, ?_, ?_⟩
    · rw [session]
      exact Session.drain_mem_remainder h.session loaded
    · have batches : (c'.perform m).batches = c'.batches ++ [c'.page.outbox] :=
        congrArg Account.batches e
      have outbox : (c'.perform m).page.outbox = [] := by
        rw [page, session]
        exact c'.session.outbox_drain
      rw [batches, outbox, List.append_nil, List.flatten_append, List.flatten_singleton]
      exact h.forms
  | reload move stage e =>
    have session : (c'.perform m).session = c'.session.reload := congrArg Account.session e
    refine ⟨(congrArg (·.deeds.filterMap Deed.request?) e).trans h.requests,
      (congrArg Account.landed e).trans h.landed,
      (congrArg (·.deeds.filterMap Deed.accept?) e).trans h.accepted, ?_, ?_⟩
    · rw [session]
      exact Session.reload_mem_remainder h.session
    · have batches : (c'.perform m).batches = c'.batches := congrArg Account.batches e
      have outbox : (c'.perform m).page.outbox = c'.page.outbox := by
        rw [page, session]
        exact c'.session.outbox_reload
      rw [batches, outbox]
      exact h.forms
  | draw move stage e =>
    exact idle (congrArg Account.session e) (congrArg (·.deeds.filterMap Deed.request?) e)
      (congrArg (·.deeds.filterMap Deed.accept?) e) (congrArg Account.landed e)
      (congrArg Account.batches e)

/-- What can have become of the loops since they were cancelled: each does what it did then, or has
ended, and when time has gone on all have. -/
structure Ceased (c c' : Course) : Prop where
  cancelled : c'.watch.cancelled = true
  polling : c'.watch.polling = true
  clock : c.watch.clock ≤ c'.watch.clock
  loops : ∀ feed,
    (c'.watch.loops.get feed = c.watch.loops.get feed ∧ c'.ends feed = c.ends feed) ∨
    ((c.watch.loops.get feed).isAlive = true ∧ c'.watch.loops.get feed = .ended ∧
      c'.ends feed = c.ends feed ++ [c.watch.clock])
  finished : c.watch.clock < c'.watch.clock → ∀ feed, (c'.watch.loops.get feed).isAlive = false
  marks : ∀ feed, c'.watch.marks feed = c.watch.marks feed

/-- If no loop had anything to do when the loops were cancelled, none of them does anything more. -/
theorem Ceased.nobody (h : Ceased c c')
    (still : ∀ feed, (c.watch.loops.get feed).Lets (c.watch.clock + 1)) (timely : c'.Timely m) :
    c'.act? m = none := by
  -- What a loop did when it was cancelled is due later, and then all loops have ended.
  have late : ∀ feed due, (c'.watch.loops.get feed).due? = some due → ¬ due ≤ c'.watch.clock := by
    intro feed due hd before
    rcases h.loops feed with ⟨same, -⟩ | ⟨-, ended, -⟩
    · have after := (Activity.lets_iff.1 (still feed)).2 due (same ▸ hd)
      have gone := h.finished (Nat.lt_of_lt_of_le after before) feed
      cases loop : c'.watch.loops.get feed <;> rw [loop] at hd gone <;> cases hd <;> cases gone
    · rw [ended] at hd
      cases hd
  unfold act?
  split
  · next feed =>
    split
    · next starting =>
      rcases h.loops feed with ⟨same, -⟩ | ⟨-, ended, -⟩
      · exact absurd (same.symm.trans starting) (Activity.lets_iff.1 (still feed)).1
      · cases ended.symm.trans starting
    · rfl
  · next feed =>
    split
    · next wake resting =>
      have due : (c'.watch.loops.get feed).due? = some wake := by rw [resting]; rfl
      exact absurd (timely wake due) (late feed wake due)
    · rfl
  · next feed =>
    split
    · next answer arrival awaiting =>
      have due : (c'.watch.loops.get feed).due? = some arrival := by rw [awaiting]; rfl
      exact absurd (timely arrival due) (late feed arrival due)
    · rfl
  · rfl

theorem Ceased.loops_perform (h : Ceased c c') (hl : c'.Lawful settings)
    (hn : c'.watch.NotesPosts) (nobody : c'.act? m = none) (feed : Feed) :
    ((c'.perform m).watch.loops.get feed = c.watch.loops.get feed ∧
      (c'.perform m).ends feed = c.ends feed) ∨
    ((c.watch.loops.get feed).isAlive = true ∧ (c'.perform m).watch.loops.get feed = .ended ∧
      (c'.perform m).ends feed = c.ends feed ++ [c.watch.clock]) := by
  rcases ends_perform hn m feed with ⟨ends, noted⟩ | ⟨goes, noted⟩
  · -- A loop that ends now was alive up to now, so no time has gone on since the cancellation.
    have alive := ends.isAlive
    have clock : c'.watch.clock = c.watch.clock := by
      refine Nat.le_antisymm (Nat.le_of_not_lt fun later => ?_) h.clock
      rw [h.finished later feed] at alive
      cases alive
    rcases h.loops feed with ⟨same, before⟩ | ⟨-, ended, -⟩
    · refine .inr ⟨same ▸ alive, (ended_perform_iff hl.orderly m feed).2 (.inr ends), ?_⟩
      rw [noted, before, clock]
    · rw [ended] at alive
      cases alive
  · have same : (c'.perform m).watch.loops.get feed = c'.watch.loops.get feed := by
      rcases loops_of_nobody h.polling nobody feed with same | ended
      · exact same
      · exact ended.trans (((ended_perform_iff hl.orderly m feed).1 ended).resolve_right goes).symm
    rw [same, noted]
    exact h.loops feed

theorem Ceased.finished_perform (h : Ceased c c') (nobody : c'.act? m = none) (timely : c'.Timely m)
    (heeds : c'.Heeds m) (later : c.watch.clock < (c'.perform m).watch.clock) (feed : Feed) :
    ((c'.perform m).watch.loops.get feed).isAlive = false := by
  have ended : (c'.watch.loops.get feed).isAlive = false →
      ((c'.perform m).watch.loops.get feed).isAlive = false := by
    intro before
    rcases loops_of_nobody h.polling nobody feed with same | ended
    · rwa [same]
    · rw [ended]
      rfl
  refine ended ?_
  rcases (c'.clock_perform m).1 with same | ⟨clock, now, rfl, passed⟩
  · exact h.finished (same ▸ later) feed
  · by_cases goes : c'.watch.clock < clock
    · exact heeds h.cancelled goes feed feed.mem_all
    · have same : clock = c'.watch.clock := Nat.le_antisymm (Nat.le_of_not_lt goes) timely.1
      exact h.finished (same ▸ passed ▸ later) feed

theorem Ceased.perform (h : Ceased c c') (hl : c'.Lawful settings) (hn : c'.watch.NotesPosts)
    (nobody : c'.act? m = none) (timely : c'.Timely m) (heeds : c'.Heeds m) :
    Ceased c (c'.perform m) where
  cancelled := (c'.clock_perform m).2 h.cancelled
  polling := by
    rcases c'.polling_perform m with same | ⟨-, polling, -⟩
    · exact same.trans h.polling
    · exact polling
  clock := by
    rcases (c'.clock_perform m).1 with same | ⟨clock, now, rfl, passed⟩
    · exact same ▸ h.clock
    · exact passed ▸ Nat.le_trans h.clock timely.1
  loops := h.loops_perform hl hn nobody
  finished := h.finished_perform nobody timely heeds
  marks feed := by
    rw [marks_perform hn, stamps_of_nobody nobody]
    exact (List.append_nil _).trans (h.marks feed)

/-- What was cancelled when nothing was due has ceased after all moves that keep to the clock and
heed the cancellation. -/
theorem Ceased.run (h : Ceased c c') (clears : Clears c c') (hl : c'.Lawful settings)
    (hn : c'.watch.NotesPosts) (still : ∀ feed, (c.watch.loops.get feed).Lets (c.watch.clock + 1))
    {moves : List Move} (timed : c'.Timed moves) (heeded : c'.Heeded moves) :
    Ceased c (c'.run moves) ∧ Clears c (c'.run moves) := by
  induction moves generalizing c' with
  | nil => exact ⟨h, clears⟩
  | cons m moves ih =>
    obtain ⟨timely, timed⟩ := timed
    obtain ⟨heeds, heeded⟩ := heeded
    have nobody := h.nobody still timely
    exact ih (h.perform hl hn nobody timely heeds) (clears.perform hl nobody) (hl.perform m)
      (notesPosts_perform hn m) timed heeded

/-- The calls by which loops are told to end. -/
def Cancels (call : Chore) : Prop :=
  call = .stopPolling ∨ call = .close

theorem clears_of_chore (hl : c.Lawful settings) {call : Chore} :
    Clears c (c.perform (.chore call)) := by
  have account := account_chore hl.orderly call
  have session : (c.perform (.chore call)).session = c.session := congrArg Account.session account
  have batches : (c.perform (.chore call)).batches = c.batches := congrArg Account.batches account
  refine ⟨congrArg (·.deeds.filterMap Deed.request?) account, congrArg Account.landed account,
    congrArg (·.deeds.filterMap Deed.accept?) account, ?_, ?_⟩
  · rw [session]
    exact List.mem_cons_self
  · rw [page, session, batches, ← page]

theorem ceased_of_cancels (hn : c.watch.NotesPosts) {call : Chore} (cancels : Cancels call)
    (polling : c.watch.polling = true) : Ceased c (c.perform (.chore call)) := by
  have goes : ∀ feed, ¬ c.EndsIn feed (.chore call) := by
    rcases cancels with rfl | rfl <;> exact fun feed => id
  have nobody : c.act? (.chore call) = none := by rcases cancels with rfl | rfl <;> rfl
  have clock : (c.perform (.chore call)).watch.clock = c.watch.clock := by
    rcases cancels with rfl | rfl <;> rfl
  refine ⟨?_, ?_, Nat.le_of_eq clock.symm, fun feed => .inl ⟨?_, ?_⟩, fun later => ?_,
    fun feed => ?_⟩
  · rcases cancels with rfl | rfl <;> rfl
  · rcases cancels with rfl | rfl <;> exact polling
  · rcases cancels with rfl | rfl <;> rfl
  · exact ((ends_perform hn _ feed).resolve_left fun ends => goes feed ends.1).2
  · exact absurd (clock ▸ later) (Nat.lt_irrefl _)
  · rw [marks_perform hn, stamps_of_nobody nobody]
    exact List.append_nil _

/-- **Cancellation is final.** Say the loops are told to end at a moment at which all of them have
begun and none has anything to do. In whatever follows no feed is asked for any more, no answer
lands, and no form is submitted; the page is what frames make of the forms and the screen that
waited, and if nothing waited it does not change. No loop is started again. A loop that had not
ended does before time goes on, and once; one that had is left alone. -/
theorem nothing_follows_cancellation (settings : Settings) (store : Store) (script : Script)
    (now : Int) (moves further : List Move) (call : Chore) (cancels : Cancels call)
    (begun : ∀ feed, (((start settings store script now).run moves).watch.loops.get
      feed).hasBegun = true)
    (undue : ∀ feed due, (((start settings store script now).run moves).watch.loops.get
      feed).due? = some due → ((start settings store script now).run moves).watch.clock < due)
    (timed : (((start settings store script now).run moves).perform (.chore call)).Timed further)
    (heeded : (((start settings store script now).run moves).perform (.chore call)).Heeded
      further) :
    let c := (start settings store script now).run moves
    let c' := (c.perform (.chore call)).run further
    (c'.requests = c.requests ∧ c'.landed = c.landed ∧ c'.accepted = c.accepted) ∧
    (c'.session ∈ c.session.remainder ∧ c'.page.updated = c.page.updated ∧
      c'.page.shutdown = c.page.shutdown ∧ c'.session.memory = c.session.memory ∧
      c'.batches.flatten ++ c'.page.outbox = c.batches.flatten ++ c.page.outbox ∧
      (c.page.outbox = [] → c.session.pending = none → c'.session = c.session)) ∧
    ∀ feed, c'.times (· = .loopStarted feed) = c.times (· = .loopStarted feed) ∧
      (c.watch.loops.get feed = .ended →
        c'.watch.loops.get feed = .ended ∧ c'.ends feed = c.ends feed) ∧
      (c.watch.loops.get feed ≠ .ended →
        (c'.watch.loops.get feed = c.watch.loops.get feed ∧ c'.ends feed = []) ∨
        (c'.watch.loops.get feed = .ended ∧ c'.ends feed = [c.watch.clock])) ∧
      (c.watch.clock < c'.watch.clock →
        c'.watch.loops.get feed = .ended ∧ (c'.ends feed).length = 1) := by
  intro c c'
  have hl : c.Lawful settings := lawful_run settings store script now moves
  obtain ⟨hn, noted⟩ : c.watch.NotesPosts ∧ c.NotesEnds := notesEnds_run ..
  have still : ∀ feed, (c.watch.loops.get feed).Lets (c.watch.clock + 1) := by
    refine fun feed => Activity.lets_iff.2 ⟨fun starting => ?_, undue feed⟩
    have began : (c.watch.loops.get feed).hasBegun = true := begun feed
    rw [starting] at began
    cases began
  have busy : c.watch.loops.get .heartbeat ≠ .idle := by
    intro idle
    have began : (c.watch.loops.get .heartbeat).hasBegun = true := begun .heartbeat
    rw [idle] at began
    cases began
  have polling : c.watch.polling = true := hl.orderly.polling busy
  obtain ⟨ceased, clears⟩ := (ceased_of_cancels hn cancels polling).run (clears_of_chore hl)
    (hl.perform _) (notesPosts_perform hn _) still timed heeded
  refine ⟨⟨clears.requests, clears.landed, clears.accepted⟩, ?_, fun feed => ?_⟩
  · obtain ⟨updated, shutdown, memory⟩ := Session.page_of_mem_remainder clears.session
    exact ⟨clears.session, updated, shutdown, memory, clears.forms,
      Session.eq_of_mem_remainder clears.session⟩
  have told : ∀ e : Event, e.mark? feed = some .started ↔ decide (e = .loopStarted feed) = true :=
    fun e => by rw [Event.mark?_eq_started_iff, decide_eq_true_eq]
  have ended : c.watch.loops.get feed = .ended →
      c'.watch.loops.get feed = .ended ∧ c'.ends feed = c.ends feed := by
    intro finished
    rcases ceased.loops feed with ⟨same, ends⟩ | ⟨alive, -, -⟩
    · exact ⟨same.trans finished, ends⟩
    · rw [finished] at alive
      cases alive
  have alive : c.watch.loops.get feed ≠ .ended →
      (c'.watch.loops.get feed = c.watch.loops.get feed ∧ c'.ends feed = []) ∨
      (c'.watch.loops.get feed = .ended ∧ c'.ends feed = [c.watch.clock]) := by
    intro goes
    rcases ceased.loops feed with ⟨same, ends⟩ | ⟨-, finished, ends⟩
    · exact .inl ⟨same, ends.trans (noted.never feed goes)⟩
    · exact .inr ⟨finished, by rw [ends, noted.never feed goes, List.nil_append]⟩
  refine ⟨?_, ended, alive, fun later => ?_⟩
  · rw [times_of_marks told, times_of_marks told, ceased.marks]
  · by_cases finished : c.watch.loops.get feed = .ended
    · obtain ⟨finished', ends⟩ := ended finished
      exact ⟨finished', by rw [ends]; exact noted.once feed finished⟩
    · rcases alive finished with ⟨same, -⟩ | ⟨finished', ends⟩
      · have dead : (c.watch.loops.get feed).isAlive = false := same ▸ ceased.finished later feed
        exact absurd (Activity.eq_ended_of_begun (begun feed) dead) finished
      · exact ⟨finished', by rw [ends]; rfl⟩

/-- The loops are cancelled while the bad news of the heartbeat is on its way and the form that ends
the bootstrapping waits. The next frame takes the form, and half a second later the page is not shut
down. -/
theorem nothing_follows_cancellation_before_bad_news :
    let script : Script := ⟨⟨[⟨.ok ["100%"], 0⟩], [], [], [], [⟨.ok ["false"], 500⟩]⟩,
      fun _ _ => ⟨none, 0⟩⟩
    let moves : List Move := .chore .startPolling :: Feed.all.map (.chore <| .beginLoop ·) ++
      Feed.all.map .tick ++ [.land .bootstrapper, .chore (.pass 20 1)]
    let further : List Move := [.drain, .reload] ++ Feed.all.map (.chore <| .endLoop ·) ++
      [.draw, .chore (.pass 600 2), .land .heartbeat, .chore .startPolling,
        .chore (.beginLoop .heartbeat), .tick .bootstrapper, .drain, .reload]
    let c := (start Settings.default .empty script 0).run moves
    let c' := (c.perform (.chore .stopPolling)).run further
    (Cancels .stopPolling ∧ (∀ feed, (c.watch.loops.get feed).hasBegun = true) ∧
      (∀ feed due, (c.watch.loops.get feed).due? = some due → c.watch.clock < due) ∧
      (c.perform (.chore .stopPolling)).Timed further ∧
      (c.perform (.chore .stopPolling)).Heeded further) ∧
    (c.page.outbox.length = 1 ∧ c.page.screen = some .bootstrapper) ∧
    (c'.page.outbox = [] ∧ c'.page.screen = some .consensusBuilder) ∧
    (c'.requests = c.requests ∧ c'.landed = c.landed) ∧ c'.page.shutdown = false ∧
    ∀ feed, (c'.ends feed).length = 1 := by
  intro script moves further c c'
  have begun : ∀ feed, (c.watch.loops.get feed).hasBegun = true := by
    intro feed
    cases feed <;> decide +kernel
  have undue : ∀ feed due, (c.watch.loops.get feed).due? = some due → c.watch.clock < due := by
    have later : ∀ feed, ∃ due, (c.watch.loops.get feed).due? = some due ∧ c.watch.clock < due := by
      intro feed
      cases feed
      · exact ⟨1000, by decide +kernel⟩
      · exact ⟨50, by decide +kernel⟩
      · exact ⟨50, by decide +kernel⟩
      · exact ⟨50, by decide +kernel⟩
      · exact ⟨500, by decide +kernel⟩
    intro feed due hd
    obtain ⟨due', hd', after⟩ := later feed
    exact Option.some.inj (hd'.symm.trans hd) ▸ after
  have timed : (c.perform (.chore .stopPolling)).Timed further := by decide +kernel
  have heeded : (c.perform (.chore .stopPolling)).Heeded further := by decide +kernel
  obtain ⟨⟨requests, landed, -⟩, ⟨-, -, shutdown, -⟩, each⟩ :=
    nothing_follows_cancellation Settings.default .empty script 0 moves further .stopPolling
      (.inl rfl) begun undue timed heeded
  have running : c.page.shutdown = false := by decide +kernel
  have waits : c.page.outbox.length = 1 ∧ c.page.screen = some .bootstrapper := by decide +kernel
  have taken : c'.page.outbox = [] ∧ c'.page.screen = some .consensusBuilder := by decide +kernel
  exact ⟨⟨.inl rfl, begun, undue, timed, heeded⟩, waits, taken, ⟨requests, landed⟩,
    shutdown.trans running, fun feed => ((each feed).2.2.2 (by decide +kernel)).2⟩

end Course

end WalletWatch
