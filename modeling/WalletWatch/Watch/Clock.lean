import WalletWatch.Watch.Basic
/-!
# The course of time

How a watch goes on for some milliseconds. First, at the moment it is now, forms that were taken are
posted, loops that were started begin, and cancelled loops end. Then the loops do what falls due,
the earliest first, up to the last moment and including it.

Each thing a loop does puts off its next one: an answer arrives no earlier than it was asked for,
and every pause has a length. `work` counts what a loop can still do up to a moment; it shrinks with
everything done (`work_wake_lt`), so the moment is reached.
-/

namespace WalletWatch

namespace Watch

/-! ## Beginning -/

/-- Posts one form. What becomes of it is known later. -/
def post (w : Watch) (s : Submission) : Watch :=
  let reply := w.script.posts w.posted s
  { w with
    posted := w.posted + 1
    failing := w.failing ++ reply.failure.toList.map fun failure =>
      Entry.mk (w.clock + reply.delay) (.submissionFailed s.form failure) }.log [.posted s]

def postAll (w : Watch) : Watch :=
  w.posts.foldl post { w with posts := [] }

def beginLoop (w : Watch) (feed : Feed) : Watch :=
  match w.loops.get feed with
  | .starting =>
    { w with loops := w.loops.set feed (.resting w.clock) }.log [.loopStarted feed]
  | _ => w

def endLoop (w : Watch) (feed : Feed) : Watch :=
  if w.cancelled && (w.loops.get feed).isAlive then
    { w with loops := w.loops.set feed .ended }.log [.loopEnded feed]
  else w

/-- What happens before time goes on. -/
def settle (w : Watch) : Watch :=
  Feed.all.foldl endLoop (Feed.all.foldl beginLoop w.postAll)

/-! ## What loops do -/

/-- A tick begins: the feed is polled if the page shows it. -/
def tick (w : Watch) (feed : Feed) : Watch :=
  if w.session.shows feed then
    let reply := w.script.next feed
    { w with
      script := w.script.advance feed
      loops := w.loops.set feed (.awaiting reply.answer (w.clock + reply.delay)) }.log
      [.fetched feed]
  else { w with loops := w.loops.set feed (.resting (w.clock + Pause.hidden.millis)) }

def land (w : Watch) (feed : Feed) (answer : Answer) : Watch :=
  let landing := w.session.landing feed w.now answer
  let landed := { w with session := w.session.land feed w.now answer }.log landing.events
  match landing.next with
  | .after pause =>
    { landed with loops := landed.loops.set feed (.resting (landed.clock + pause.millis)) }
  | .stop => { landed with loops := landed.loops.set feed .ended }.log [.loopEnded feed]

def wake (w : Watch) (feed : Feed) : Watch :=
  match w.loops.get feed with
  | .resting moment => { w with clock := moment }.tick feed
  | .awaiting answer arrival => { w with clock := arrival }.land feed answer
  | _ => w

/-! ## The order of what falls due -/

/-- When a loop has something to do, if that is no later than some moment. -/
def dueBy? (w : Watch) (limit : Nat) (feed : Feed) : Option Nat :=
  (w.loops.get feed).due?.filter (· ≤ limit)

/-- Of two loops that have something to do, the one that has it earlier; of two at one moment, the
first. -/
def earlier : Option (Feed × Nat) → Option (Feed × Nat) → Option (Feed × Nat)
  | none, b => b
  | a, none => a
  | some a, some b => if b.2 < a.2 then some b else some a

/-- The loop that has something to do first, up to some moment. -/
def nextDue? (w : Watch) (limit : Nat) : Option Feed :=
  ((Feed.all.map fun feed => (w.dueBy? limit feed).map (feed, ·)).foldl earlier none).map (·.1)

/-! ## The measure -/

/-- A bound on what one loop can still do up to a moment. -/
def workOf (limit : Nat) : Activity → Nat
  | .resting moment => if moment ≤ limit then 2 * (limit + 1 - moment) + 1 else 0
  | .awaiting _ arrival => if arrival ≤ limit then 2 * (limit + 1 - arrival) else 0
  | _ => 0

/-- A bound on what the loops can still do up to a moment. -/
def work (w : Watch) (limit : Nat) : Nat :=
  workOf limit w.loops.bootstrapper + workOf limit w.loops.consensusBuilder
    + workOf limit w.loops.blockHeight + workOf limit w.loops.balance
    + workOf limit w.loops.heartbeat

theorem loops_log (w : Watch) (events : List Event) : (w.log events).loops = w.loops := rfl

/-- A loop that wakes changes only what it does itself. -/
theorem loops_wake (w : Watch) (feed : Feed) :
    (w.wake feed).loops = w.loops.set feed ((w.wake feed).loops.get feed) := by
  unfold wake
  split
  · unfold tick
    split <;> simp [loops_log]
  · unfold land
    simp only
    split <;> simp [loops_log]
  · ext f
    by_cases h : f = feed
    · subst h; simp
    · simp [h]

/-- What a loop does puts off what it does next. -/
theorem workOf_wake_lt (w : Watch) (feed : Feed) (limit moment : Nat)
    (h : w.dueBy? limit feed = some moment) :
    workOf limit ((w.wake feed).loops.get feed) < workOf limit (w.loops.get feed) := by
  simp only [dueBy?, Option.filter_eq_some_iff, decide_eq_true_eq] at h
  obtain ⟨hdue, hle⟩ := h
  unfold wake
  cases ha : w.loops.get feed with
  | idle => simp [ha, Activity.due?] at hdue
  | starting => simp [ha, Activity.due?] at hdue
  | ended => simp [ha, Activity.due?] at hdue
  | resting wake =>
    simp only [ha, Activity.due?, Option.some.injEq] at hdue
    subst hdue
    simp only [tick]
    split
    · simp only [loops_log, PerFeed.get_set_self, workOf, hle, if_true]
      split <;> omega
    · simp only [PerFeed.get_set_self, workOf, hle, if_true, Pause.millis]
      split <;> omega
  | awaiting answer arrival =>
    simp only [ha, Activity.due?, Option.some.injEq] at hdue
    subst hdue
    simp only [land]
    split
    · rename_i pause _
      have := pause.millis_pos
      simp only [PerFeed.get_set_self, workOf, hle, if_true, Watch.log]
      split <;> omega
    · simp only [loops_log, PerFeed.get_set_self, workOf, hle, if_true]
      omega

theorem eq_or_eq_of_earlier {a b : Option (Feed × Nat)} {p : Feed × Nat}
    (h : earlier a b = some p) : a = some p ∨ b = some p := by
  rcases a with _ | a
  · exact .inr h
  rcases b with _ | b
  · exact .inl h
  · simp only [earlier] at h
    split at h
    · exact .inr h
    · exact .inl h

theorem exists_earlier {a b : Option (Feed × Nat)} {q : Feed × Nat}
    (h : a = some q ∨ b = some q) : ∃ p, earlier a b = some p ∧ p.2 ≤ q.2 := by
  rcases a with _ | a <;> rcases b with _ | b
  · simp at h
  · exact ⟨b, rfl, by simp at h; simp [h]⟩
  · exact ⟨a, rfl, by simp at h; simp [h]⟩
  · simp only [Option.some.injEq] at h
    by_cases before : b.2 < a.2
    · exact ⟨b, if_pos before, by rcases h with rfl | rfl <;> omega⟩
    · exact ⟨a, if_neg before, by rcases h with rfl | rfl <;> omega⟩

theorem mem_of_foldl_earlier {items : List (Option (Feed × Nat))} {found : Option (Feed × Nat)}
    {p : Feed × Nat} (h : items.foldl earlier found = some p) :
    found = some p ∨ some p ∈ items := by
  induction items generalizing found with
  | nil => exact .inl h
  | cons item items ih =>
    rcases ih h with first | later
    · rcases eq_or_eq_of_earlier first with before | rfl
      · exact .inl before
      · exact .inr List.mem_cons_self
    · exact .inr (List.mem_cons_of_mem _ later)

theorem exists_foldl_earlier {items : List (Option (Feed × Nat))} {found : Option (Feed × Nat)}
    {q : Feed × Nat} (h : found = some q ∨ some q ∈ items) :
    ∃ p, items.foldl earlier found = some p ∧ p.2 ≤ q.2 := by
  induction items generalizing found q with
  | nil => exact ⟨q, h.resolve_right List.not_mem_nil, Nat.le_refl _⟩
  | cons item items ih =>
    by_cases later : some q ∈ items
    · exact ih (.inr later)
    · have here : found = some q ∨ item = some q := h.imp_right fun member =>
        (List.mem_cons.1 member).elim Eq.symm fun rest => absurd rest later
      obtain ⟨r, first, before⟩ := exists_earlier here
      obtain ⟨p, least, le⟩ := ih (.inl first)
      exact ⟨p, least, Nat.le_trans le before⟩

/-- The loop that is named first has something to do, and no other has it earlier. -/
theorem dueBy?_of_nextDue? (w : Watch) (limit : Nat) (feed : Feed)
    (h : w.nextDue? limit = some feed) : ∃ moment, w.dueBy? limit feed = some moment ∧
      ∀ other due, w.dueBy? limit other = some due → moment ≤ due := by
  obtain ⟨p, named, rfl⟩ := Option.map_eq_some_iff.1 h
  refine ⟨p.2, ?_, fun other due hd => ?_⟩
  · obtain ⟨feed, -, found⟩ := List.mem_map.1 ((mem_of_foldl_earlier named).resolve_left nofun)
    obtain ⟨moment, due, rfl⟩ := Option.map_eq_some_iff.1 found
    exact due
  · have listed : some (other, due) ∈ Feed.all.map fun feed =>
        (w.dueBy? limit feed).map (feed, ·) :=
      List.mem_map.2 ⟨other, other.mem_all, by rw [hd]; rfl⟩
    obtain ⟨first, least, le⟩ := exists_foldl_earlier (.inr listed)
    obtain rfl := Option.some.inj (named.symm.trans least)
    exact le

/-- If no loop is named, none has anything to do. -/
theorem dueBy?_of_nextDue?_eq_none {w : Watch} {limit : Nat} (h : w.nextDue? limit = none)
    (feed : Feed) : w.dueBy? limit feed = none := by
  rw [Option.eq_none_iff_forall_ne_some]
  intro due hd
  have listed : some (feed, due) ∈ Feed.all.map fun feed =>
      (w.dueBy? limit feed).map (feed, ·) :=
    List.mem_map.2 ⟨feed, feed.mem_all, by rw [hd]; rfl⟩
  obtain ⟨first, least, -⟩ := exists_foldl_earlier (.inr listed)
  rw [Option.map_eq_none_iff.1 h] at least
  cases least

theorem work_wake_lt (w : Watch) (limit : Nat) (feed : Feed)
    (h : w.nextDue? limit = some feed) : (w.wake feed).work limit < w.work limit := by
  obtain ⟨moment, hdue, -⟩ := dueBy?_of_nextDue? w limit feed h
  have hlt := workOf_wake_lt w feed limit moment hdue
  unfold work
  rw [loops_wake w feed]
  cases feed <;> simp only [PerFeed.set, PerFeed.get] at hlt ⊢ <;> omega

/-! ## Going on -/

/-- Lets the loops do all that falls due up to some moment. -/
def runUntil (limit : Nat) (w : Watch) : Watch :=
  match _ : w.nextDue? limit with
  | none => { w with clock := limit }
  | some feed => runUntil limit (w.wake feed)
termination_by w.work limit
decreasing_by exact work_wake_lt w limit feed (by assumption)

/-- Notes the failures of posted forms that are known by now. -/
def noteFailures (w : Watch) : Watch :=
  { w with
    journal := w.journal ++ w.failing.filter (·.time ≤ w.clock)
    failing := w.failing.filter (w.clock < ·.time) }

def advance (w : Watch) (millis : Nat) : Watch :=
  (w.settle.runUntil (w.clock + millis)).noteFailures

end Watch

end WalletWatch
