import WalletWatch.Proofs.Course.State
import WalletWatch.Proofs.Poll.Loop
/-!
# Courses in time

A course says nothing about when its moves happen. In a timed course time passes no moment at which
a loop has something to do, nor any loop that was started and has not begun, and a loop does nothing
before it is due (`Course.Timed`). So it does everything at its moment: what the loop of a feed does
in a timed course (`Course.diary`) is what this loop does by itself, as long as the loops are not
cancelled (`Course.Steady.run`). Loops that were cancelled end at once: time does not go on before
they have (`Course.Heeded`).
-/

namespace WalletWatch

/-- A loop lets time go on up to some moment: it has nothing to do before, and if it was started it
has begun. -/
def Activity.Lets (moment : Nat) : Activity → Prop
  | starting => False
  | resting wake => moment ≤ wake
  | awaiting _ arrival => moment ≤ arrival
  | idle | ended => True

instance (moment : Nat) : DecidablePred (Activity.Lets moment)
  | .starting => inferInstanceAs (Decidable False)
  | .resting wake => inferInstanceAs (Decidable (moment ≤ wake))
  | .awaiting _ arrival => inferInstanceAs (Decidable (moment ≤ arrival))
  | .idle | .ended => inferInstanceAs (Decidable True)

theorem Activity.lets_iff {moment : Nat} {activity : Activity} :
    activity.Lets moment ↔
      activity ≠ .starting ∧ ∀ due, activity.due? = some due → moment ≤ due := by
  cases activity <;> simp [Lets, due?]

namespace Watch

/-- Nothing is overdue. -/
def Punctual (w : Watch) : Prop :=
  ∀ feed moment, (w.loops.get feed).due? = some moment → w.clock ≤ moment

@[simp] theorem script_postAt (w : Watch) (index : Nat) : (w.postAt index).script = w.script := by
  unfold postAt
  split <;> rfl

@[simp] theorem clock_postAt (w : Watch) (index : Nat) : (w.postAt index).clock = w.clock := by
  unfold postAt
  split <;> rfl

@[simp] theorem cancelled_postAt (w : Watch) (index : Nat) :
    (w.postAt index).cancelled = w.cancelled := by
  unfold postAt
  split <;> rfl

end Watch

namespace Course

/-- Whether a move keeps to the clock: time does not run back and passes nothing that is due, and a
loop does nothing before it is due. -/
def Timely (c : Course) : Move → Prop
  | .chore (.pass clock _) =>
    c.watch.clock ≤ clock ∧ ∀ feed ∈ Feed.all, (c.watch.loops.get feed).Lets clock
  | .tick feed | .land feed => ∀ due ∈ (c.watch.loops.get feed).due?, due ≤ c.watch.clock
  | _ => True

instance (c : Course) : DecidablePred c.Timely
  | .chore (.pass clock _) => inferInstanceAs (Decidable (c.watch.clock ≤ clock ∧
    ∀ feed ∈ Feed.all, (c.watch.loops.get feed).Lets clock))
  | .tick feed | .land feed => inferInstanceAs
    (Decidable (∀ due ∈ (c.watch.loops.get feed).due?, due ≤ c.watch.clock))
  | .chore .startPolling | .chore .stopPolling | .chore .close | .chore (.beginLoop _)
  | .chore (.endLoop _) | .chore (.openFrame _) | .chore .noteFailures | .post _ | .drain
  | .reload | .draw => inferInstanceAs (Decidable True)

/-- A course of moves each of which keeps to the clock. -/
def Timed (c : Course) : List Move → Prop
  | [] => True
  | m :: moves => c.Timely m ∧ (c.perform m).Timed moves

instance decidableTimed (c : Course) : DecidablePred c.Timed
  | [] => inferInstanceAs (Decidable True)
  | m :: moves =>
    have : Decidable ((c.perform m).Timed moves) := decidableTimed (c.perform m) moves
    inferInstanceAs (Decidable (c.Timely m ∧ (c.perform m).Timed moves))

/-- Whether a move heeds that the loops were told to end: time goes on only when they have ended. -/
def Heeds (c : Course) : Move → Prop
  | .chore (.pass clock _) => c.watch.cancelled = true → c.watch.clock < clock →
    ∀ feed ∈ Feed.all, (c.watch.loops.get feed).isAlive = false
  | _ => True

instance (c : Course) : DecidablePred c.Heeds
  | .chore (.pass clock _) => inferInstanceAs (Decidable (c.watch.cancelled = true →
    c.watch.clock < clock → ∀ feed ∈ Feed.all, (c.watch.loops.get feed).isAlive = false))
  | .chore .startPolling | .chore .stopPolling | .chore .close | .chore (.beginLoop _)
  | .chore (.endLoop _) | .chore (.openFrame _) | .chore .noteFailures | .post _ | .tick _
  | .land _ | .drain | .reload | .draw => inferInstanceAs (Decidable True)

/-- A course of moves each of which heeds that the loops were told to end. -/
def Heeded (c : Course) : List Move → Prop
  | [] => True
  | m :: moves => c.Heeds m ∧ (c.perform m).Heeded moves

instance decidableHeeded (c : Course) : DecidablePred c.Heeded
  | [] => inferInstanceAs (Decidable True)
  | m :: moves =>
    have : Decidable ((c.perform m).Heeded moves) := decidableHeeded (c.perform m) moves
    inferInstanceAs (Decidable (c.Heeds m ∧ (c.perform m).Heeded moves))

/-- The loops were not told to end. -/
def Uncancelled (c : Course) : Prop :=
  c.watch.cancelled = false

instance (c : Course) : Decidable c.Uncancelled :=
  inferInstanceAs (Decidable (c.watch.cancelled = false))

/-- The loop that does something in a move, and what it does. -/
def act? (c : Course) : Move → Option (Feed × Beat)
  | .chore (.beginLoop feed) =>
    match c.watch.loops.get feed with
    | .starting => some (feed, .began)
    | _ => none
  | .tick feed =>
    match c.watch.loops.get feed with
    | .resting _ =>
      some (feed, if c.session.shows feed then .asked (c.watch.script.next feed) else .skipped)
    | _ => none
  | .land feed =>
    match c.watch.loops.get feed with
    | .awaiting answer _ => some (feed, .answered answer)
    | _ => none
  | _ => none

/-- What the loop of a feed does in a move, with the moment at which it does so. -/
def stamps (c : Course) (feed : Feed) (m : Move) : List Stamp :=
  ((c.act? m).filter (·.1 = feed)).toList.map fun act => ⟨c.watch.clock, act.2⟩

/-- All that the loop of a feed does in some moves. -/
def diary (c : Course) (feed : Feed) : List Move → List Stamp
  | [] => []
  | m :: moves => c.stamps feed m ++ (c.perform m).diary feed moves

def standing (c : Course) (feed : Feed) : Standing :=
  ⟨c.watch.loops.get feed, c.watch.script.polls.get feed⟩

variable {c : Course} {feed : Feed} {m : Move}

theorem diary_append (c : Course) (feed : Feed) (first second : List Move) :
    c.diary feed (first ++ second) = c.diary feed first ++ (c.run first).diary feed second := by
  induction first generalizing c with
  | nil => rfl
  | cons m first ih =>
    rw [List.cons_append, diary, diary, ih, List.append_assoc]
    rfl

theorem timed_append (c : Course) (first second : List Move) :
    c.Timed (first ++ second) ↔ c.Timed first ∧ (c.run first).Timed second := by
  induction first generalizing c with
  | nil => simp [Timed]
  | cons m first ih =>
    rw [List.cons_append, Timed, Timed, ih, and_assoc]
    rfl

theorem heeded_append (c : Course) (first second : List Move) :
    c.Heeded (first ++ second) ↔ c.Heeded first ∧ (c.run first).Heeded second := by
  induction first generalizing c with
  | nil => simp [Heeded]
  | cons m first ih =>
    rw [List.cons_append, Heeded, Heeded, ih, and_assoc]
    rfl

theorem stamps_of_nobody (h : c.act? m = none) (feed : Feed) : c.stamps feed m = [] := by
  rw [stamps, h]
  rfl

theorem stamps_of_act {beat : Beat} (h : c.act? m = some (feed, beat)) (other : Feed) :
    c.stamps other m = if feed = other then [⟨c.watch.clock, beat⟩] else [] := by
  rw [stamps, h, Option.filter_some]
  by_cases own : feed = other <;> simp [own]

theorem act?_tick {wake : Nat} (loop : c.watch.loops.get feed = .resting wake) :
    c.act? (.tick feed) = some (feed,
      if c.session.shows feed then .asked (c.watch.script.next feed) else .skipped) := by
  simp only [act?, loop]

theorem act?_land {answer : Answer} {arrival : Nat}
    (loop : c.watch.loops.get feed = .awaiting answer arrival) :
    c.act? (.land feed) = some (feed, .answered answer) := by
  simp only [act?, loop]

/-! ## What a move does to the loops -/

theorem standing_of_same {c' : Course} (loops : c'.watch.loops = c.watch.loops)
    (script : c'.watch.script = c.watch.script) (feed : Feed) :
    c'.standing feed = c.standing feed := by
  rw [standing, standing, loops, script]

/-- What may become of the loops in a timely move: nothing, or all are started, or one of them does
something at its moment. -/
inductive Acts (c : Course) (m : Move) (c' : Course) : Prop
  | rest (nobody : c.act? m = none) (same : ∀ feed, c'.standing feed = c.standing feed)
  | launch (nobody : c.act? m = none) (idle : ∀ feed, c.watch.loops.get feed = .idle)
      (started : ∀ feed, c'.standing feed = ⟨.starting, (c.standing feed).replies⟩)
  | step (feed : Feed) (beat : Beat) (acts : c.act? m = some (feed, beat))
      (step : (c.standing feed).Step feed ⟨c.watch.clock, beat⟩ (c'.standing feed))
      (others : ∀ other, other ≠ feed → c'.standing other = c.standing other)

theorem acts_tick (punctual : c.watch.Punctual) (timely : c.Timely (.tick feed)) :
    c.Acts (.tick feed) (c.perform (.tick feed)) := by
  cases loop : c.watch.loops.get feed with
  | resting wake =>
    obtain rfl : wake = c.watch.clock :=
      Nat.le_antisymm (timely wake (by rw [loop]; rfl)) (punctual feed wake (by rw [loop]; rfl))
    have others : ∀ other, other ≠ feed →
        ({ c with watch := c.watch.tick feed } : Course).standing other = c.standing other := by
      intro other differs
      simp only [standing, Watch.tick]
      split <;> simp [Watch.log, Script.advance, differs]
    rw [perform_tick_of_resting loop]
    cases shown : c.session.shows feed with
    | true =>
      refine .step feed (.asked (c.watch.script.next feed)) (by simp [act?, loop, shown]) ?_ others
      have asks : ({ c with watch := c.watch.tick feed } : Course).standing feed =
          ⟨.awaiting (c.watch.script.next feed).answer
            (c.watch.clock + (c.watch.script.next feed).delay),
            (c.watch.script.polls.get feed).tail⟩ := by
        simp [standing, Watch.tick, show c.watch.session.shows feed = true from shown, Watch.log,
          Script.advance]
      rw [asks, standing, loop]
      exact .ask _ rfl
    | false =>
      refine .step feed .skipped (by simp [act?, loop, shown]) ?_ others
      have skips : ({ c with watch := c.watch.tick feed } : Course).standing feed =
          ⟨.resting (c.watch.clock + 50), c.watch.script.polls.get feed⟩ := by
        simp [standing, Watch.tick, show c.watch.session.shows feed = false from shown,
          Pause.millis]
      rw [skips, standing, loop]
      refine .skip _ _ ?_
      rintro rfl
      cases shown
  | _ => exact .rest (by simp [act?, loop]) fun _ => by simp only [perform, loop]

theorem acts_land (punctual : c.watch.Punctual) (timely : c.Timely (.land feed)) :
    c.Acts (.land feed) (c.perform (.land feed)) := by
  cases loop : c.watch.loops.get feed with
  | awaiting answer arrival =>
    obtain rfl : arrival = c.watch.clock :=
      Nat.le_antisymm (timely arrival (by rw [loop]; rfl))
        (punctual feed arrival (by rw [loop]; rfl))
    have next : (c.watch.session.landing feed c.watch.now answer).next = Answer.next feed answer :=
      Landing.next_ofAnswer ..
    have lands : (c.watch.land feed answer).loops =
          c.watch.loops.set feed ((Answer.next feed answer).activity c.watch.clock) ∧
        (c.watch.land feed answer).script = c.watch.script := by
      simp only [Watch.land, next]
      cases Answer.next feed answer <;> exact ⟨rfl, rfl⟩
    rw [perform_land_of_awaiting loop]
    refine .step feed (.answered answer) (by simp [act?, loop]) ?_ fun other differs => ?_
    · simp only [standing, lands, loop, PerFeed.get_set_self]
      exact .answer ..
    · simp only [standing, lands, PerFeed.get_set_of_ne _ differs]
  | _ => exact .rest (by simp [act?, loop]) fun _ => by simp only [perform, loop]

theorem acts_beginLoop (c : Course) (feed : Feed) :
    c.Acts (.chore (.beginLoop feed)) (c.perform (.chore (.beginLoop feed))) := by
  cases loop : c.watch.loops.get feed with
  | starting =>
    refine .step feed .began (by simp [act?, loop]) ?_ fun other differs => ?_
    · simp only [standing, perform, Watch.attend, Watch.beginLoop, loop, Watch.log,
        PerFeed.get_set_self]
      exact .begin ..
    · simp only [standing, perform, Watch.attend, Watch.beginLoop, loop, Watch.log,
        PerFeed.get_set_of_ne _ differs]
  | _ =>
    refine .rest (by simp [act?, loop]) fun other => ?_
    simp only [perform, Watch.attend, Watch.beginLoop, loop]

/-- Starting the loops again does nothing to them. -/
theorem acts_startPolling {w : Watch} (ho : w.Orderly) :
    (w.startPolling.loops = w.loops ∨
      (∀ feed, w.loops.get feed = .idle) ∧ w.startPolling.loops = .const .starting) ∧
    w.startPolling.script = w.script := by
  unfold Watch.startPolling
  split
  · exact ⟨.inl rfl, rfl⟩
  · next still => exact ⟨.inr ⟨ho.idle (Bool.eq_false_iff.2 still), rfl⟩, rfl⟩

theorem acts_perform (ho : c.watch.Orderly) (punctual : c.watch.Punctual) (timely : c.Timely m)
    (uncancelled : c.Uncancelled) : c.Acts m (c.perform m) := by
  have started : ∀ chore : Chore, c.act? (.chore chore) = none →
      (c.watch.attend chore).script = c.watch.script →
      ((c.watch.attend chore).loops = c.watch.loops ∨
        (∀ feed, c.watch.loops.get feed = .idle) ∧
          (c.watch.attend chore).loops = .const .starting) →
      c.Acts (.chore chore) (c.perform (.chore chore)) := by
    rintro chore nobody script (same | ⟨idle, starting⟩)
    · exact .rest nobody (standing_of_same same script)
    · refine .launch nobody idle fun feed => ?_
      simp [standing, perform, script, starting]
  cases m with
  | chore chore =>
    cases chore with
    | beginLoop feed => exact c.acts_beginLoop feed
    | endLoop feed =>
      refine started _ rfl ?_ (.inl ?_) <;>
        simp only [Watch.attend, Watch.endLoop, show c.watch.cancelled = false from uncancelled,
          Bool.false_and, Bool.false_eq_true, if_false]
    | startPolling =>
      obtain ⟨loops, script⟩ := acts_startPolling ho
      exact started _ rfl script loops
    | openFrame view =>
      obtain ⟨loops, script⟩ :=
        acts_startPolling (w := { c.watch with window := c.watch.window.track view })
          ⟨ho.idle, ho.failing⟩
      exact started _ rfl script loops
    | pass clock now => exact started _ rfl rfl (.inl rfl)
    | stopPolling => exact started _ rfl rfl (.inl rfl)
    | close => exact started _ rfl rfl (.inl rfl)
    | noteFailures => exact started _ rfl rfl (.inl rfl)
  | post index => exact .rest rfl (standing_of_same (by simp [perform]) (by simp [perform]))
  | tick feed => exact acts_tick punctual timely
  | land feed => exact acts_land punctual timely
  | drain =>
    refine .rest rfl fun feed => ?_
    simp only [perform]
    split <;> rfl
  | reload =>
    refine .rest rfl fun feed => ?_
    simp only [perform]
    split <;> rfl
  | draw =>
    refine .rest rfl fun feed => ?_
    simp only [perform]
    split <;> rfl

/-- Only the passing of time changes the clock, and loops that were cancelled stay so. -/
theorem clock_perform (c : Course) (m : Move) :
    ((c.perform m).watch.clock = c.watch.clock ∨
      ∃ clock now, m = .chore (.pass clock now) ∧ (c.perform m).watch.clock = clock) ∧
    (c.watch.cancelled = true → (c.perform m).watch.cancelled = true) := by
  cases m with
  | chore chore =>
    cases chore with
    | pass clock now => exact ⟨.inr ⟨clock, now, rfl, rfl⟩, id⟩
    | startPolling =>
      simp only [perform, Watch.attend, Watch.startPolling]
      split <;> exact ⟨.inl rfl, id⟩
    | openFrame view =>
      simp only [perform, Watch.attend, Watch.openFrame, Watch.startPolling]
      split <;> exact ⟨.inl rfl, id⟩
    | beginLoop feed =>
      simp only [perform, Watch.attend, Watch.beginLoop]
      split <;> exact ⟨.inl rfl, id⟩
    | endLoop feed =>
      simp only [perform, Watch.attend, Watch.endLoop]
      split <;> exact ⟨.inl rfl, id⟩
    | stopPolling => exact ⟨.inl rfl, fun _ => rfl⟩
    | close => exact ⟨.inl rfl, fun _ => rfl⟩
    | noteFailures => exact ⟨.inl rfl, id⟩
  | post index => exact ⟨.inl (by simp [perform]), fun h => by simpa [perform] using h⟩
  | tick feed =>
    rcases c.perform_tick feed with ⟨wake, -, e⟩ | e
    · rw [e]
      simp only [Watch.tick]
      split <;> exact ⟨.inl rfl, id⟩
    · rw [e]
      exact ⟨.inl rfl, id⟩
  | land feed =>
    rcases c.perform_land feed with ⟨answer, -, e⟩ | ⟨-, e⟩
    · rw [e]
      simp only [Watch.land]
      split <;> exact ⟨.inl rfl, id⟩
    · rw [e]
      exact ⟨.inl rfl, id⟩
  | drain =>
    simp only [perform]
    split <;> exact ⟨.inl rfl, id⟩
  | reload =>
    simp only [perform]
    split <;> exact ⟨.inl rfl, id⟩
  | draw =>
    simp only [perform]
    split <;> exact ⟨.inl rfl, id⟩

/-- Polling goes on once it was started, and when it is started all loops are. -/
theorem polling_perform (c : Course) (m : Move) :
    (c.perform m).watch.polling = c.watch.polling ∨
    (c.watch.polling = false ∧ (c.perform m).watch.polling = true ∧
      (c.perform m).watch.clock = c.watch.clock ∧
      ∀ feed, (c.perform m).watch.loops.get feed = .starting) := by
  cases m with
  | chore chore =>
    cases chore with
    | startPolling =>
      simp only [perform, Watch.attend, Watch.startPolling]
      split
      · exact .inl rfl
      · next still =>
        exact .inr ⟨Bool.eq_false_iff.2 still, rfl, rfl, PerFeed.get_const _⟩
    | openFrame view =>
      simp only [perform, Watch.attend, Watch.openFrame, Watch.startPolling]
      split
      · exact .inl rfl
      · next still =>
        exact .inr ⟨Bool.eq_false_iff.2 still, rfl, rfl, PerFeed.get_const _⟩
    | beginLoop feed => exact .inl (Watch.polling_beginLoop ..)
    | endLoop feed => exact .inl (Watch.polling_endLoop ..)
    | pass clock now => exact .inl rfl
    | stopPolling => exact .inl rfl
    | close => exact .inl rfl
    | noteFailures => exact .inl rfl
  | post index => exact .inl (Watch.polling_postAt ..)
  | tick feed =>
    rcases c.perform_tick feed with ⟨wake, -, e⟩ | e
    · rw [e]
      exact .inl (Watch.polling_tick ..)
    · exact .inl (by rw [e])
  | land feed =>
    rcases c.perform_land feed with ⟨answer, -, e⟩ | ⟨-, e⟩
    · rw [e]
      exact .inl (Watch.polling_land ..)
    · exact .inl (by rw [e])
  | drain =>
    simp only [perform]
    split <;> exact .inl rfl
  | reload =>
    simp only [perform]
    split <;> exact .inl rfl
  | draw =>
    simp only [perform]
    split <;> exact .inl rfl

theorem uncancelled_of_run (moves : List Move) (h : (c.run moves).Uncancelled) :
    c.Uncancelled := by
  rw [Uncancelled, ← Bool.not_eq_true] at h ⊢
  intro cancelled
  exact h (run_invariant (fun d => d.watch.cancelled = true)
    (fun d m => (d.clock_perform m).2) cancelled moves)

/-! ## What some moves do to a loop -/

theorem Acts.punctual {c' : Course} (h : c.Acts m c') (punctual : c.watch.Punctual)
    (clock : c'.watch.clock = c.watch.clock) : c'.watch.Punctual := by
  intro other moment due
  rw [clock]
  have kept : c'.standing other = c.standing other → c.watch.clock ≤ moment := by
    intro same
    have loop : c'.watch.loops.get other = c.watch.loops.get other :=
      congrArg Standing.activity same
    exact punctual other moment (loop ▸ due)
  cases h with
  | rest nobody same => exact kept (same other)
  | launch nobody idle started =>
    have loop : c'.watch.loops.get other = .starting :=
      congrArg Standing.activity (started other)
    rw [loop] at due
    cases due
  | step feed beat acts step others =>
    by_cases own : other = feed
    · subst own
      exact step.le_due due
    · exact kept (others other own)

theorem Acts.passes {c' : Course} (h : c.Acts m c') (feed : Feed) :
    (c.standing feed).Passes feed (c.stamps feed m) (c'.standing feed) := by
  cases h with
  | rest nobody same =>
    rw [stamps_of_nobody nobody, same]
    exact .refl _
  | launch nobody idle started =>
    rw [stamps_of_nobody nobody, started, standing, idle]
    exact .launch (.refl _)
  | step other beat acts step others =>
    rw [stamps_of_act acts]
    by_cases own : other = feed
    · subst own
      rw [if_pos rfl]
      exact .step step (.refl _)
    · rw [if_neg own, others feed fun e => own e.symm]
      exact .refl _

/-- What the course does to the loops is in order and in time. -/
structure Steady (c : Course) : Prop where
  orderly : c.watch.Orderly
  punctual : c.watch.Punctual

theorem Steady.perform (h : c.Steady) (timely : c.Timely m) (uncancelled : c.Uncancelled) :
    (c.perform m).Steady := by
  refine ⟨orderly_perform h.orderly m, ?_⟩
  rcases (c.clock_perform m).1 with clock | ⟨clock, now, rfl, -⟩
  · exact (acts_perform h.orderly h.punctual timely uncancelled).punctual h.punctual clock
  · exact fun feed moment due => (Activity.lets_iff.1 (timely.2 feed feed.mem_all)).2 moment due

/-- In timed moves each loop does what it does by itself, and nothing is overdue after them. -/
theorem Steady.run (h : c.Steady) {moves : List Move} (timed : c.Timed moves)
    (uncancelled : (c.run moves).Uncancelled) :
    (c.run moves).Steady ∧
      ∀ feed, (c.standing feed).Passes feed (c.diary feed moves) ((c.run moves).standing feed) := by
  -- Loops that are not cancelled after the moves were not cancelled before any of them either.
  induction moves generalizing c with
  | nil => exact ⟨h, fun feed => .refl _⟩
  | cons m moves ih =>
    obtain ⟨timely, timed⟩ := timed
    have before : c.Uncancelled := uncancelled_of_run (m :: moves) uncancelled
    obtain ⟨steady, passes⟩ := ih (h.perform timely before) timed uncancelled
    refine ⟨steady, fun feed => ?_⟩
    exact ((acts_perform h.orderly h.punctual timely before).passes feed).trans (passes feed)

theorem standing_start (settings : Settings) (store : Store) (script : Script) (now : Int)
    (feed : Feed) :
    (start settings store script now).standing feed = ⟨.idle, script.polls.get feed⟩ := by
  cases feed <;> rfl

theorem steady_start (settings : Settings) (store : Store) (script : Script) (now : Int) :
    (start settings store script now).Steady := by
  refine ⟨(lawful_start settings store script now).orderly, fun feed moment due => ?_⟩
  have idle : (start settings store script now).watch.loops.get feed = .idle :=
    congrArg Standing.activity (standing_start settings store script now feed)
  rw [idle] at due
  cases due

end Course

end WalletWatch
