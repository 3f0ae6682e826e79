import WalletWatch.Proofs.Course.Timing
/-!
# Runs are timed courses

A run lets a watch act in one certain order: frames are made at once, and loops wake at the moments
that their pauses and the delays of answers set, the earliest first. Each thing a run does is some
moves in turn, time passes nothing in them that is due, and loops that were cancelled end before it
goes on. So what holds of all timed courses of a watch that heed cancellations holds of all its runs
(`Watch.Punctual.exists_timed_course`).
-/

namespace WalletWatch

namespace Watch

variable {w v : Watch} {feed : Feed} {limit : Nat}

theorem Punctual.startPolling (h : w.Punctual) : w.startPolling.Punctual := by
  unfold Watch.startPolling
  split
  · exact h
  · intro feed due hd
    rw [log, PerFeed.get_const] at hd
    cases hd

/-- A watch on its way to some moment: nothing is overdue, and no loop is still to begin, or to end
because it was cancelled. -/
structure Underway (w : Watch) (limit : Nat) : Prop where
  punctual : w.Punctual
  begun : ∀ feed, w.loops.get feed ≠ .starting
  heeds : w.cancelled = true → ∀ feed, (w.loops.get feed).isAlive = false
  clock_le : w.clock ≤ limit

/-- If one loop changes, nothing is overdue as long as its own next moment is still to come. -/
theorem Punctual.set (h : w.Punctual) {activity : Activity}
    (later : ∀ due, activity.due? = some due → w.clock ≤ due) (clock : v.clock = w.clock)
    (loops : v.loops = w.loops.set feed activity) : v.Punctual := by
  intro other due hd
  rw [clock]
  by_cases own : other = feed
  · subst own
    rw [loops, PerFeed.get_set_self] at hd
    exact later due hd
  · rw [loops, PerFeed.get_set_of_ne _ own] at hd
    exact h other due hd

theorem Underway.set (h : w.Underway limit) (running : w.cancelled = false)
    {activity : Activity} (lets : activity.Lets w.clock) (clock : v.clock = w.clock)
    (cancelled : v.cancelled = w.cancelled) (loops : v.loops = w.loops.set feed activity) :
    v.Underway limit := by
  obtain ⟨begins, later⟩ := Activity.lets_iff.1 lets
  refine ⟨h.punctual.set later clock loops, fun other => ?_, fun told => ?_, clock ▸ h.clock_le⟩
  · by_cases own : other = feed
    · rwa [own, loops, PerFeed.get_set_self]
    · rw [loops, PerFeed.get_set_of_ne _ own]
      exact h.begun other
  · rw [cancelled, running] at told
    cases told

theorem Underway.tick (h : w.Underway limit) (running : w.cancelled = false) (feed : Feed) :
    (w.tick feed).Underway limit := by
  unfold Watch.tick
  split
  · exact h.set running (Nat.le_add_right w.clock _) rfl rfl rfl
  · exact h.set running (Nat.le_add_right w.clock _) rfl rfl rfl

theorem Underway.land (h : w.Underway limit) (running : w.cancelled = false) (feed : Feed)
    (answer : Answer) : (w.land feed answer).Underway limit := by
  simp only [Watch.land]
  split
  · exact h.set running (Nat.le_add_right w.clock _) rfl rfl rfl
  · exact h.set running (show Activity.ended.Lets _ from trivial) rfl rfl rfl

/-! ## Before time goes on -/

theorem foldl_post (waiting : List Submission) (w : Watch) :
    (waiting.foldl post w).clock = w.clock ∧ (waiting.foldl post w).loops = w.loops := by
  induction waiting generalizing w with
  | nil => exact ⟨rfl, rfl⟩
  | cons s waiting ih => exact ih (w.post s)

/-- Loops that are started begin. -/
theorem Punctual.foldl_beginLoop (h : w.Punctual) (feeds : List Feed) :
    let v := feeds.foldl beginLoop w
    v.Punctual ∧ v.clock = w.clock ∧
      ∀ feed, v.loops.get feed = .starting → w.loops.get feed = .starting ∧ feed ∉ feeds := by
  induction feeds generalizing w with
  | nil => exact ⟨h, rfl, fun feed starting => ⟨starting, List.not_mem_nil⟩⟩
  | cons feed feeds ih =>
    have once : (w.beginLoop feed).Punctual ∧ (w.beginLoop feed).clock = w.clock ∧
        ∀ other, (w.beginLoop feed).loops.get other = .starting →
          w.loops.get other = .starting ∧ other ≠ feed := by
      unfold beginLoop
      split
      · refine ⟨h.set (by rintro due ⟨⟩; exact Nat.le_refl _) rfl rfl, rfl, fun other hs => ?_⟩
        by_cases own : other = feed
        · subst own
          rw [log, PerFeed.get_set_self] at hs
          cases hs
        · rw [log, PerFeed.get_set_of_ne _ own] at hs
          exact ⟨hs, own⟩
      · next begun =>
        refine ⟨h, rfl, fun other hs => ⟨hs, ?_⟩⟩
        rintro rfl
        exact begun hs
    obtain ⟨punctual, clock, starting⟩ := once
    obtain ⟨punctual', clock', starting'⟩ := ih punctual
    refine ⟨punctual', clock'.trans clock, fun other hs => ?_⟩
    obtain ⟨before, others⟩ := starting' other hs
    obtain ⟨first, differs⟩ := starting other before
    exact ⟨first, List.not_mem_cons_of_ne_of_not_mem differs others⟩

/-- Loops that are cancelled end. -/
theorem Punctual.foldl_endLoop (h : w.Punctual) (feeds : List Feed) :
    let v := feeds.foldl endLoop w
    v.Punctual ∧ v.clock = w.clock ∧ v.cancelled = w.cancelled ∧
      ∀ feed, v.loops.get feed = .ended ∨ v.loops.get feed = w.loops.get feed ∧
        (w.cancelled = true → (w.loops.get feed).isAlive = true → feed ∉ feeds) := by
  induction feeds generalizing w with
  | nil => exact ⟨h, rfl, rfl, fun feed => .inr ⟨rfl, fun _ _ => List.not_mem_nil⟩⟩
  | cons feed feeds ih =>
    have once : (w.endLoop feed).Punctual ∧ (w.endLoop feed).clock = w.clock ∧
        (w.endLoop feed).cancelled = w.cancelled ∧
        ∀ other, (w.endLoop feed).loops.get other = .ended ∨
          (w.endLoop feed).loops.get other = w.loops.get other ∧
            (w.cancelled = true → (w.loops.get other).isAlive = true → other ≠ feed) := by
      unfold endLoop
      split
      · refine ⟨h.set (by rintro due ⟨⟩) rfl rfl, rfl, rfl, fun other => ?_⟩
        by_cases own : other = feed
        · subst own
          exact .inl (PerFeed.get_set_self ..)
        · exact .inr ⟨PerFeed.get_set_of_ne _ own _, fun _ _ => own⟩
      · next spared =>
        refine ⟨h, rfl, rfl, fun other => .inr ⟨rfl, ?_⟩⟩
        rintro cancelled alive rfl
        exact spared (by rw [cancelled, alive]; rfl)
    obtain ⟨punctual, clock, cancelled, ends⟩ := once
    obtain ⟨punctual', clock', cancelled', ends'⟩ := ih punctual
    refine ⟨punctual', clock'.trans clock, cancelled'.trans cancelled, fun other => ?_⟩
    rcases ends' other with ended | ⟨same', spared'⟩
    · exact .inl ended
    · rcases ends other with ended | ⟨same, spared⟩
      · exact .inl (same'.trans ended)
      · refine .inr ⟨same'.trans same, fun told alive => ?_⟩
        exact List.not_mem_cons_of_ne_of_not_mem (spared told alive)
          (spared' (cancelled.trans told) (same ▸ alive))

theorem Punctual.settle (h : w.Punctual) (later : w.clock ≤ limit) :
    w.settle.Underway limit := by
  obtain ⟨clock, loops⟩ := foldl_post w.posts { w with posts := [] }
  have posted : w.postAll.Punctual := by
    intro feed due hd
    rw [postAll, loops] at hd
    rw [postAll, clock]
    exact h feed due hd
  obtain ⟨punctual, clock', starting⟩ := posted.foldl_beginLoop Feed.all
  obtain ⟨punctual', clock'', cancelled, ends⟩ := punctual.foldl_endLoop Feed.all
  refine ⟨punctual', fun feed hs => ?_, fun told feed => ?_, ?_⟩
  · rcases ends feed with ended | ⟨same, -⟩
    · rw [Watch.settle, ended] at hs
      cases hs
    · exact (starting feed (same.symm.trans hs)).2 feed.mem_all
  · rw [← Bool.not_eq_true]
    intro alive
    rcases ends feed with ended | ⟨same, spared⟩
    · rw [Watch.settle, ended] at alive
      cases alive
    · exact spared (cancelled.symm.trans told) (same ▸ alive) feed.mem_all
  · rw [Watch.settle, clock'', clock', postAll, clock]
    exact later

end Watch

namespace Course

/-- Some moves, each in its time, lead from a course to a watch that is between two frames. -/
def Leads (c : Course) (w : Watch) : Prop :=
  ∃ moves, (c.Timed moves ∧ c.Heeded moves) ∧
    (c.run moves).watch = w ∧ (c.run moves).stage = .apart

namespace Leads

variable {c : Course} {w : Watch}

theorem refl (w : Watch) : (ofWatch w).Leads w :=
  ⟨[], ⟨trivial, trivial⟩, rfl, rfl⟩

theorem trans {w' : Watch} (h : c.Leads w) (moves : List Move)
    (further : ∀ d : Course, d.watch = w → d.stage = .apart → (d.Timed moves ∧ d.Heeded moves) ∧
      (d.run moves).watch = w' ∧ (d.run moves).stage = .apart) : c.Leads w' := by
  obtain ⟨first, ⟨timed, heeded⟩, watch, stage⟩ := h
  refine ⟨first ++ moves, ?_⟩
  rw [run_append, timed_append, heeded_append]
  obtain ⟨⟨timed', heeded'⟩, rest⟩ := further _ watch stage
  exact ⟨⟨⟨timed, timed'⟩, heeded, heeded'⟩, rest⟩

/-- Whatever happens beside the page happens in time, unless it is time itself that goes by. -/
theorem attend (h : c.Leads w) (chore : Chore) (still : ∀ clock now, chore ≠ .pass clock now) :
    c.Leads (w.attend chore) := by
  refine h.trans [.chore chore] ?_
  rintro d rfl stage
  refine ⟨⟨⟨?_, trivial⟩, ?_, trivial⟩, rfl, stage⟩ <;>
  · cases chore with
    | pass clock now => exact absurd rfl (still clock now)
    | _ => trivial

theorem pass (h : c.Leads w) {clock : Nat} (now : Int) (later : w.clock ≤ clock)
    (lets : ∀ feed, (w.loops.get feed).Lets clock)
    (heeds : w.cancelled = true → ∀ feed, (w.loops.get feed).isAlive = false) :
    c.Leads { w with clock, now } := by
  refine h.trans [.chore (.pass clock now)] ?_
  rintro d rfl stage
  exact ⟨⟨⟨⟨later, fun feed _ => lets feed⟩, trivial⟩,
    fun told _ feed _ => heeds told feed, trivial⟩, rfl, stage⟩

theorem postAt (h : c.Leads w) (index : Nat) : c.Leads (w.postAt index) := by
  refine h.trans [.post index] ?_
  rintro d rfl stage
  exact ⟨⟨⟨trivial, trivial⟩, trivial, trivial⟩, rfl, stage⟩

theorem tick (h : c.Leads w) {feed : Feed} (hr : w.loops.get feed = .resting w.clock) :
    c.Leads (w.tick feed) := by
  refine h.trans [.tick feed] ?_
  rintro d rfl stage
  rw [run_cons, perform_tick_of_resting hr]
  refine ⟨⟨⟨?_, trivial⟩, trivial, trivial⟩, rfl, stage⟩
  rw [Timely, hr]
  rintro due ⟨⟩
  exact Nat.le_refl _

theorem land (h : c.Leads w) {feed : Feed} {answer : Answer}
    (hw : w.loops.get feed = .awaiting answer w.clock) : c.Leads (w.land feed answer) := by
  refine h.trans [.land feed] ?_
  rintro d rfl stage
  rw [run_cons, perform_land_of_awaiting hw]
  refine ⟨⟨⟨?_, trivial⟩, trivial, trivial⟩, rfl, stage⟩
  rw [Timely, hw]
  rintro due ⟨⟩
  exact Nat.le_refl _

theorem followForms (h : c.Leads w) : c.Leads w.followForms := by
  refine h.trans [.drain, .reload, .draw] ?_
  rintro d rfl stage
  refine ⟨⟨⟨trivial, trivial, trivial, trivial⟩, trivial, trivial, trivial, trivial⟩, ?_⟩
  simp only [run_cons, run_nil, perform, stage, if_true]
  exact ⟨rfl, trivial⟩

theorem foldl {α : Type} {act : Watch → α → Watch}
    (keep : ∀ w a, c.Leads w → c.Leads (act w a)) (h : c.Leads w) (items : List α) :
    c.Leads (items.foldl act w) := by
  induction items generalizing w with
  | nil => exact h
  | cons a items ih => exact ih (keep w a h)

/-- All forms that wait are posted by posting the first one as long as there is one. -/
theorem postAll (h : c.Leads w) : c.Leads w.postAll := by
  have posted : ∀ (waiting : List Submission) (v : Watch), v.posts = waiting → c.Leads v →
      c.Leads (waiting.foldl Watch.post { v with posts := [] }) := by
    intro waiting
    induction waiting with
    | nil =>
      intro v hv hl
      rwa [List.foldl_nil, ← hv]
    | cons s waiting ih =>
      intro v hv hl
      have first : v.postAt 0 = { v with posts := waiting }.post s := by
        simp only [Watch.postAt, hv, List.getElem?_cons_zero, List.eraseIdx_cons_zero]
      have rest := ih (v.postAt 0) (by rw [first]; rfl) (hl.postAt 0)
      rw [first] at rest
      exact rest
  exact posted w.posts w rfl h

theorem settle (h : c.Leads w) : c.Leads w.settle := by
  have begun : c.Leads (Feed.all.foldl Watch.beginLoop w.postAll) :=
    h.postAll.foldl (fun _ feed hl => hl.attend (.beginLoop feed) nofun) Feed.all
  exact begun.foldl (fun _ feed hl => hl.attend (.endLoop feed) nofun) Feed.all

/-! ## What time brings -/

theorem wake (h : c.Leads w) {limit : Nat} (underway : w.Underway limit) {feed : Feed}
    (named : w.nextDue? limit = some feed) :
    c.Leads (w.wake feed) ∧ (w.wake feed).Underway limit := by
  obtain ⟨moment, first, others⟩ := w.dueBy?_of_nextDue? limit feed named
  simp only [Watch.dueBy?, Option.filter_eq_some_iff, decide_eq_true_eq] at first others
  obtain ⟨due, le⟩ := first
  have lets : ∀ other, (w.loops.get other).Lets moment := by
    refine fun other => Activity.lets_iff.2 ⟨underway.begun other, fun due hd => ?_⟩
    by_cases within : due ≤ limit
    · exact others other due ⟨hd, within⟩
    · omega
  have passed : c.Leads { w with clock := moment } :=
    h.pass w.now (underway.punctual feed moment due) lets underway.heeds
  have underway' : Watch.Underway { w with clock := moment } limit :=
    ⟨fun other => (Activity.lets_iff.1 (lets other)).2, underway.begun, underway.heeds, le⟩
  have running (alive : (w.loops.get feed).isAlive = true) : w.cancelled = false := by
    rw [← Bool.not_eq_true]
    intro told
    rw [underway.heeds told feed] at alive
    cases alive
  -- The loop that is named is due first, so time may pass up to its moment.
  unfold Watch.wake
  split
  · next wake resting =>
    rw [resting] at due
    obtain rfl := Option.some.inj due
    exact ⟨passed.tick resting, underway'.tick (running (by rw [resting]; rfl)) feed⟩
  · next answer arrival awaiting =>
    rw [awaiting] at due
    obtain rfl := Option.some.inj due
    exact ⟨passed.land awaiting, underway'.land (running (by rw [awaiting]; rfl)) feed answer⟩
  · exact ⟨h, underway⟩

theorem runUntil (h : c.Leads w) {limit : Nat} (underway : w.Underway limit) :
    c.Leads (w.runUntil limit) ∧ (w.runUntil limit).Punctual := by
  fun_induction Watch.runUntil limit w with
  | case1 w none =>
    have lets : ∀ feed, (w.loops.get feed).Lets limit := by
      refine fun feed => Activity.lets_iff.2 ⟨underway.begun feed, fun due hd => ?_⟩
      have late := Watch.dueBy?_of_nextDue?_eq_none none feed
      rw [Watch.dueBy?, hd, Option.filter_some_eq_none] at late
      simp only [decide_eq_true_eq] at late
      omega
    exact ⟨h.pass w.now underway.clock_le lets underway.heeds,
      fun feed => (Activity.lets_iff.1 (lets feed)).2⟩
  | case2 w feed named ih =>
    obtain ⟨leads, underway'⟩ := h.wake underway named
    exact ih leads underway'

theorem advance (h : c.Leads w) (punctual : w.Punctual) (millis : Nat) :
    c.Leads (w.advance millis) ∧ (w.advance millis).Punctual := by
  obtain ⟨leads, punctual'⟩ := h.settle.runUntil (punctual.settle (Nat.le_add_right _ millis))
  exact ⟨leads.attend .noteFailures nofun, punctual'⟩

/-! ## What is done from outside -/

theorem act (h : c.Leads w) (punctual : w.Punctual) (a : Action) :
    c.Leads (w.perform a) ∧ (w.perform a).Punctual := by
  cases a with
  | frame view =>
    refine ⟨(h.attend (.openFrame view) nofun).followForms, ?_⟩
    exact Watch.Punctual.startPolling (w := { w with window := w.window.track view }) punctual
  | advance millis => exact h.advance punctual millis
  | followForms => exact ⟨h.followForms, punctual⟩
  | startPolling => exact ⟨h.attend .startPolling nofun, punctual.startPolling⟩
  | stopPolling => exact ⟨h.attend .stopPolling nofun, punctual⟩
  | close => exact ⟨h.attend .close nofun, punctual⟩

end Leads

end Course

/-- **Runs are timed courses.** Whatever is done to a watch in which nothing is overdue, some timed
course of it that heeds cancellations comes to the same watch. -/
theorem Watch.Punctual.exists_timed_course {w : Watch} (h : w.Punctual) (actions : List Action) :
    ∃ moves, (Course.ofWatch w).Timed moves ∧ (Course.ofWatch w).Heeded moves ∧
      ((Course.ofWatch w).run moves).watch = w.run actions := by
  have leads : ∀ v : Watch, (Course.ofWatch w).Leads v → v.Punctual →
      (Course.ofWatch w).Leads (v.run actions) := by
    induction actions with
    | nil => exact fun v hl _ => hl
    | cons a actions ih =>
      intro v hl hp
      obtain ⟨further, punctual⟩ := hl.act hp a
      exact ih (v.perform a) further punctual
  obtain ⟨moves, ⟨timed, heeded⟩, watch, -⟩ := leads w (.refl w) h
  exact ⟨moves, timed, heeded, watch⟩

end WalletWatch
