import WalletWatch.Proofs.Poll.Landing
import WalletWatch.Watch.Basic
/-!
# A loop by itself

A loop seen apart from the page and from all other loops. It begins, asks or passes over a tick, and
gets its answers, each at a moment that is settled by what it did before (`Standing.Step`): the
answer comes when the delay of the reply is over, and the next tick when the pause is. What is left
open is when the loop begins, and at which of its ticks its feed is shown. So the moments of all its
ticks are a function of these, and of the replies to its own requests (`Feed.timetable`).
-/

namespace WalletWatch

namespace Answer

def isAlive : Answer → Bool
  | .ok (mark :: _) => mark == Report.aliveMark
  | _ => false

theorem isAlive_iff {answer : Answer} :
    isAlive answer = true ↔ ∃ rest, answer = .ok ("true" :: rest) := by
  rcases answer with failure | _ | ⟨mark, rest⟩
  · simp [isAlive]
  · simp [isAlive]
  · simp [isAlive, Report.aliveMark]

/-- What a loop does after an answer: only the heartbeat stops, unless the server is alive. -/
def next (feed : Feed) (answer : Answer) : Next :=
  if feed = .heartbeat then if isAlive answer then .after .heartbeat else .stop
  else .after .data

theorem next_of_data {feed : Feed} (data : feed ≠ .heartbeat) (answer : Answer) :
    next feed answer = .after .data := if_neg data

theorem next_eq_stop_iff {feed : Feed} {answer : Answer} :
    next feed answer = .stop ↔ feed = .heartbeat ∧ isAlive answer = false := by
  unfold next
  by_cases h : feed = .heartbeat
  · cases alive : isAlive answer <;> simp [h]
  · simp [h]

end Answer

/-- After a landing a loop does what its answer says, whatever page there is and memory it has. -/
theorem Landing.next_ofAnswer (feed : Feed) (now : Int) (memory : Option String) (page : Page)
    (answer : Answer) : (ofAnswer feed now memory page answer).next = Answer.next feed answer := by
  by_cases h : feed = .heartbeat
  · subst h
    rcases answer with failure | _ | ⟨mark, rest⟩
    · rfl
    · rfl
    · have read : Except.bind (.ok (mark :: rest)) (Report.ofFields .heartbeat) =
          .ok (.heartbeat (mark == Report.aliveMark)) := rfl
      rw [ofAnswer, read, Answer.next, if_pos rfl, Answer.isAlive]
      cases mark == Report.aliveMark <;> rfl
  · rw [Answer.next_of_data h]
    rcases ofAnswer_eq feed now memory page answer with ⟨report, read, e⟩ | ⟨-, failure, e⟩
    · rw [e]
      exact next_ofReport (Answer.feed_of_report? read ▸ h) now memory page
    · rw [e]
      cases feed with
      | heartbeat => exact absurd rfl h
      | _ => rfl

/-- What a loop does at a moment. -/
inductive Beat
  /-- It runs for the first time. -/
  | began
  /-- It asks the server, and will get some reply. -/
  | asked (reply : PollReply)
  /-- It does not ask, as its feed is not shown. -/
  | skipped
  | answered (answer : Answer)

structure Stamp where
  time : Nat
  beat : Beat

def Activity.hasBegun : Activity → Bool
  | idle | starting => false
  | _ => true

/-- How a loop stands: what it is doing, and the replies that are laid down for its feed. -/
structure Standing where
  activity : Activity
  replies : List PollReply

/-- The reply to the next request for a feed. -/
def PollReply.first (feed : Feed) (replies : List PollReply) : PollReply :=
  replies.head?.getD (.outOfOrder feed)

/-- What a loop is doing once it has settled what it does next. -/
def Next.activity (time : Nat) : Next → Activity
  | .after pause => .resting (time + pause.millis)
  | .stop => .ended

namespace Standing

/-- One thing that a loop does, and how it stands then. -/
inductive Step (feed : Feed) : Standing → Stamp → Standing → Prop
  | begin (time : Nat) (replies : List PollReply) :
    Step feed ⟨.starting, replies⟩ ⟨time, .began⟩ ⟨.resting time, replies⟩
  | ask (time : Nat) {replies : List PollReply} {reply : PollReply}
    (first : PollReply.first feed replies = reply) :
    Step feed ⟨.resting time, replies⟩ ⟨time, .asked reply⟩
      ⟨.awaiting reply.answer (time + reply.delay), replies.tail⟩
  | skip (time : Nat) (replies : List PollReply) (data : feed ≠ .heartbeat) :
    Step feed ⟨.resting time, replies⟩ ⟨time, .skipped⟩ ⟨.resting (time + 50), replies⟩
  | answer (answer : Answer) (time : Nat) (replies : List PollReply) :
    Step feed ⟨.awaiting answer time, replies⟩ ⟨time, .answered answer⟩
      ⟨(Answer.next feed answer).activity time, replies⟩

/-- What a loop does in the course of time. Before it begins it is launched, which it does not
notice. -/
inductive Passes (feed : Feed) : Standing → List Stamp → Standing → Prop
  | refl (s : Standing) : Passes feed s [] s
  | launch {replies : List PollReply} {stamps : List Stamp} {s : Standing}
    (rest : Passes feed ⟨.starting, replies⟩ stamps s) : Passes feed ⟨.idle, replies⟩ stamps s
  | step {s s' s'' : Standing} {stamp : Stamp} {stamps : List Stamp}
    (first : Step feed s stamp s') (rest : Passes feed s' stamps s'') :
    Passes feed s (stamp :: stamps) s''

variable {feed : Feed} {s s' s'' : Standing} {stamp : Stamp} {stamps before after : List Stamp}
  {replies : List PollReply} {wake : Nat}

/-- Nothing that a loop does is due before the moment at which it settles it. -/
theorem Step.le_due (h : Step feed s stamp s') {moment : Nat}
    (due : s'.activity.due? = some moment) : stamp.time ≤ moment := by
  cases h with
  | begin time replies =>
    obtain rfl := Option.some.inj due
    exact Nat.le_refl _
  | ask time first =>
    obtain rfl := Option.some.inj due
    exact Nat.le_add_right ..
  | skip time replies data =>
    obtain rfl := Option.some.inj due
    exact Nat.le_add_right ..
  | answer answer time replies =>
    cases next : Answer.next feed answer with
    | after pause =>
      simp only [next] at due
      obtain rfl := Option.some.inj due
      exact Nat.le_add_right ..
    | stop => simp [next, Next.activity, Activity.due?] at due

theorem Step.hasBegun (h : Step feed s stamp s') : s'.activity.hasBegun = true := by
  cases h with
  | answer answer time replies => cases next : Answer.next feed answer <;> rfl
  | _ => rfl

namespace Passes

theorem trans (h : Passes feed s before s') (h' : Passes feed s' after s'') :
    Passes feed s (before ++ after) s'' := by
  induction h with
  | refl s => exact h'
  | launch rest ih => exact .launch (ih h')
  | step first rest ih => exact .step first (ih h')

/-- What a loop does can be told in two parts. -/
theorem split (h : Passes feed s (before ++ after) s'') :
    ∃ s', Passes feed s before s' ∧ Passes feed s' after s'' := by
  -- The launch leaves no stamp, so the induction is on what happens and not on the first part.
  generalize whole : before ++ after = stamps at h
  induction h generalizing before with
  | refl s =>
    obtain ⟨rfl, rfl⟩ := List.append_eq_nil_iff.1 whole
    exact ⟨s, .refl s, .refl s⟩
  | launch rest ih =>
    obtain ⟨s', first, second⟩ := ih whole
    exact ⟨s', .launch first, second⟩
  | @step s s' s'' stamp stamps first rest ih =>
    cases before with
    | nil =>
      rw [List.nil_append] at whole
      exact ⟨s, .refl s, whole ▸ .step first rest⟩
    | cons stamp' before =>
      obtain ⟨same, tail⟩ := List.cons.inj whole
      obtain ⟨mid, one, two⟩ := ih tail
      subst same
      exact ⟨mid, .step first one, two⟩

theorem cons (h : Passes feed s (stamp :: stamps) s'') :
    ∃ first s', Step feed first stamp s' ∧ Passes feed s' stamps s'' := by
  cases h with
  | launch rest =>
    cases rest with
    | step first rest => exact ⟨_, _, first, rest⟩
  | step first rest => exact ⟨_, _, first, rest⟩

theorem after_stamp (h : Passes feed s (before ++ stamp :: after) s'') :
    ∃ first s', Step feed first stamp s' ∧ Passes feed s' after s'' := by
  obtain ⟨mid, -, second⟩ := h.split
  exact second.cons

theorem of_awaiting {answer : Answer} {arrival : Nat}
    (h : Passes feed ⟨.awaiting answer arrival, replies⟩ stamps s') :
    (stamps = [] ∧ s' = ⟨.awaiting answer arrival, replies⟩) ∨
    ∃ rest, stamps = ⟨arrival, .answered answer⟩ :: rest ∧
      Passes feed ⟨(Answer.next feed answer).activity arrival, replies⟩ rest s' := by
  cases h with
  | refl => exact .inl ⟨rfl, rfl⟩
  | step first rest =>
    cases first with
    | answer => exact .inr ⟨_, rfl, rest⟩

/-- A loop that rests asks, or passes over its tick, if it does anything more. -/
theorem of_resting (h : Passes feed ⟨.resting wake, replies⟩ stamps s') :
    (stamps = [] ∧ s' = ⟨.resting wake, replies⟩) ∨
    (∃ rest, let reply := PollReply.first feed replies
      stamps = ⟨wake, .asked reply⟩ :: rest ∧
      Passes feed ⟨.awaiting reply.answer (wake + reply.delay), replies.tail⟩ rest s') ∨
    (∃ rest, feed ≠ .heartbeat ∧ stamps = ⟨wake, .skipped⟩ :: rest ∧
      Passes feed ⟨.resting (wake + 50), replies⟩ rest s') := by
  cases h with
  | refl => exact .inl ⟨rfl, rfl⟩
  | step first rest =>
    cases first with
    | ask time first =>
      subst first
      exact .inr (.inl ⟨_, rfl, rest⟩)
    | skip time replies data => exact .inr (.inr ⟨_, data, rfl, rest⟩)

theorem hasBegun (h : Passes feed s stamps s') (begun : s.activity.hasBegun = true) :
    s'.activity.hasBegun = true ∧ ∀ stamp ∈ stamps, stamp.beat ≠ .began := by
  induction h with
  | refl => exact ⟨begun, by simp⟩
  | launch => cases begun
  | step first rest ih =>
    obtain ⟨after, never⟩ := ih first.hasBegun
    refine ⟨after, List.forall_mem_cons.2 ⟨?_, never⟩⟩
    cases first with
    | begin => cases begun
    | _ => simp

theorem of_idle {activity : Activity} (h : Passes feed ⟨activity, replies⟩ stamps s')
    (early : activity = .idle ∨ activity = .starting) :
    (stamps = [] ∧ (s'.activity = .idle ∨ s'.activity = .starting)) ∨
    ∃ time rest, stamps = ⟨time, .began⟩ :: rest ∧
      Passes feed ⟨.resting time, replies⟩ rest s' := by
  have started : Passes feed ⟨.starting, replies⟩ stamps s' →
      (stamps = [] ∧ s'.activity = .starting) ∨ ∃ time rest, stamps = ⟨time, .began⟩ :: rest ∧
        Passes feed ⟨.resting time, replies⟩ rest s' := by
    intro h
    cases h with
    | refl => exact .inl ⟨rfl, rfl⟩
    | step first rest =>
      cases first with
      | begin time => exact .inr ⟨_, _, rfl, rest⟩
  rcases early with rfl | rfl
  · cases h with
    | refl => exact .inl ⟨rfl, .inl rfl⟩
    | launch rest => exact (started rest).imp_left fun ⟨nothing, later⟩ => ⟨nothing, .inr later⟩
    | step first rest => cases first
  · exact (started h).imp_left fun ⟨nothing, later⟩ => ⟨nothing, .inr later⟩

theorem eq_nil_of_early (h : Passes feed ⟨.idle, replies⟩ stamps s')
    (early : s'.activity.hasBegun = false) : stamps = [] := by
  rcases h.of_idle (.inl rfl) with ⟨nothing, -⟩ | ⟨time, rest, -, later⟩
  · exact nothing
  · rw [(later.hasBegun rfl).1] at early
    cases early

end Passes

end Standing

/-! ## Requests -/

/-- How many requests of a loop are on their way. -/
def Activity.inFlight : Activity → Nat
  | awaiting .. => 1
  | _ => 0

namespace Stamp

def request? (s : Stamp) : Option Nat :=
  match s.beat with
  | .asked _ => some s.time
  | _ => none

def answer? (s : Stamp) : Option Answer :=
  match s.beat with
  | .answered answer => some answer
  | _ => none

def requests (stamps : List Stamp) : List Nat :=
  stamps.filterMap request?

def answers (stamps : List Stamp) : List Answer :=
  stamps.filterMap answer?

/-- Some ticks in a row that are passed over. -/
def skips (wake n : Nat) : List Stamp :=
  (List.range n).map fun i => ⟨wake + 50 * i, .skipped⟩

theorem skips_succ (wake n : Nat) :
    skips wake (n + 1) = ⟨wake, .skipped⟩ :: skips (wake + 50) n := by
  rw [skips, List.range_succ_eq_map, List.map_cons, List.map_map, skips]
  simp only [Function.comp_def, Nat.mul_succ, Nat.add_assoc, Nat.add_comm 50]
  rfl

end Stamp

namespace Standing

variable {feed : Feed} {s s' : Standing} {stamp : Stamp} {stamps : List Stamp}

theorem Step.inFlight (h : Step feed s stamp s') :
    (Stamp.requests [stamp]).length + s.activity.inFlight =
      (Stamp.answers [stamp]).length + s'.activity.inFlight := by
  cases h with
  | answer answer time replies => cases next : Answer.next feed answer <;> rfl
  | _ => rfl

/-- A loop waits for the answer to its last request, or all its requests are answered. -/
theorem Passes.inFlight (h : Passes feed s stamps s') :
    (Stamp.requests stamps).length + s.activity.inFlight =
      (Stamp.answers stamps).length + s'.activity.inFlight := by
  induction h with
  | refl => rfl
  | launch rest ih => exact ih
  | @step s s' s'' stamp stamps first rest ih =>
    have once := first.inFlight
    have requests : Stamp.requests (stamp :: stamps) =
        Stamp.requests [stamp] ++ Stamp.requests stamps := List.filterMap_append (l := [stamp])
    have answers : Stamp.answers (stamp :: stamps) =
        Stamp.answers [stamp] ++ Stamp.answers stamps := List.filterMap_append (l := [stamp])
    rw [requests, answers, List.length_append, List.length_append]
    omega

end Standing

namespace Standing.Passes

variable {feed : Feed} {s s' : Standing} {before waits after : List Stamp}
  {replies : List PollReply} {reply reply' : PollReply} {wake time time' : Nat}

/-- A loop that rests asks at a tick of its own, after some ticks that it passed over. -/
theorem of_waits
    (h : Passes feed ⟨.resting wake, replies⟩ (waits ++ ⟨time, .asked reply⟩ :: after) s')
    (quiet : Stamp.requests waits = []) :
    ∃ n, waits = Stamp.skips wake n ∧ time = wake + 50 * n := by
  -- As nothing is asked in between, all that the loop does before is to pass over a tick.
  induction waits generalizing wake with
  | nil =>
    refine ⟨0, rfl, ?_⟩
    rcases h.of_resting with ⟨nothing, -⟩ | ⟨rest, told, -⟩ | ⟨rest, -, told, -⟩
    · cases nothing
    · obtain ⟨first, -⟩ := List.cons.inj told
      exact congrArg Stamp.time first
    · obtain ⟨first, -⟩ := List.cons.inj told
      cases first
  | cons wait waits ih =>
    rcases h.of_resting with ⟨nothing, -⟩ | ⟨rest, told, -⟩ | ⟨rest, -, told, passes⟩
    · cases nothing
    · obtain ⟨rfl, -⟩ := List.cons.inj told
      cases quiet
    · obtain ⟨rfl, rfl⟩ := List.cons.inj told
      obtain ⟨n, rfl, rfl⟩ := ih passes quiet
      exact ⟨n + 1, (Stamp.skips_succ wake n).symm, by omega⟩

/-- Between two requests for a feed the answer to the first arrives, and a second passes, and then
some ticks may be passed over. -/
theorem between_requests (data : feed ≠ .heartbeat)
    (h : Passes feed s
      (before ++ ⟨time, .asked reply⟩ :: (waits ++ ⟨time', .asked reply'⟩ :: after)) s')
    (quiet : Stamp.requests waits = []) :
    ∃ n, waits = ⟨time + reply.delay, .answered reply.answer⟩ ::
        Stamp.skips (time + reply.delay + 1000) n ∧
      time' = time + reply.delay + 1000 + 50 * n := by
  obtain ⟨first, mid, asks, rest⟩ := h.after_stamp
  cases asks with
  | ask =>
    rcases rest.of_awaiting with ⟨nothing, -⟩ | ⟨rest', told, rest⟩
    · exact absurd nothing (by simp)
    · cases waits with
      | nil =>
        obtain ⟨first, -⟩ := List.cons.inj told
        cases first
      | cons wait waits =>
        obtain ⟨rfl, rfl⟩ := List.cons.inj told
        rw [Answer.next_of_data data] at rest
        obtain ⟨n, rfl, rfl⟩ := of_waits rest quiet
        exact ⟨n, rfl, rfl⟩

end Standing.Passes

/-! ## Ticks -/

def Beat.isTick : Beat → Bool
  | .asked _ | .skipped => true
  | _ => false

/-- Whether a feed was shown, if a loop looked for it. -/
def Beat.shown? : Beat → Option Bool
  | .asked _ => some true
  | .skipped => some false
  | _ => none

namespace Stamp

def ticks (stamps : List Stamp) : List Stamp :=
  stamps.filter (·.beat.isTick)

/-- At which of its ticks a loop found its feed. -/
def sightings (stamps : List Stamp) : List Bool :=
  stamps.filterMap (·.beat.shown?)

end Stamp

/-- How long the loop of a feed pauses after an answer, if it goes on. -/
def Feed.pause : Feed → Pause
  | .heartbeat => .heartbeat
  | _ => .data

/-- The ticks of the loop of a feed: from the first on, by whether the feed is found at each, and by
the replies to the requests. -/
def Feed.timetable (feed : Feed) (wake : Nat) (replies : List PollReply) : List Bool → List Stamp
  | [] => []
  | true :: sightings =>
    let reply := PollReply.first feed replies
    ⟨wake, .asked reply⟩ ::
      feed.timetable (wake + reply.delay + feed.pause.millis) replies.tail sightings
  | false :: sightings => ⟨wake, .skipped⟩ :: feed.timetable (wake + 50) replies sightings

theorem Feed.timetable_prefix (feed : Feed) {first second : List Bool} (h : first <+: second)
    (wake : Nat) (replies : List PollReply) :
    feed.timetable wake replies first <+: feed.timetable wake replies second := by
  induction first generalizing second wake replies with
  | nil => exact List.nil_prefix
  | cons shown first ih =>
    obtain ⟨rest, rfl⟩ := h
    have more := List.prefix_append first rest
    cases shown with
    | true => exact (List.prefix_cons_inj _).2 (ih more _ _)
    | false => exact (List.prefix_cons_inj _).2 (ih more _ _)

namespace Standing

/-- A loop that has begun ticks next at some moment, or it has ended. -/
def TicksAt (feed : Feed) (wake : Nat) (s : Standing) : Prop :=
  match s.activity with
  | .resting time => wake = time
  | .awaiting _ arrival => wake = arrival + feed.pause.millis
  | .ended => True
  | .idle | .starting => False

theorem ticksAt_next (feed : Feed) (answer : Answer) (time : Nat) (replies : List PollReply) :
    TicksAt feed (time + feed.pause.millis) ⟨(Answer.next feed answer).activity time, replies⟩ := by
  by_cases h : feed = .heartbeat
  · subst h
    cases alive : Answer.isAlive answer <;>
      simp [TicksAt, Answer.next, alive, Next.activity, Feed.pause]
  · rw [Answer.next_of_data h]
    cases feed with
    | heartbeat => exact absurd rfl h
    | _ => rfl

/-- A loop ticks by its timetable. -/
theorem Passes.ticks_eq {feed : Feed} {s s' : Standing} {stamps : List Stamp}
    (h : Passes feed s stamps s') {wake : Nat} (next : s.TicksAt feed wake) :
    Stamp.ticks stamps = feed.timetable wake s.replies (Stamp.sightings stamps) := by
  -- A loop that waits for an answer knows already when it ticks after it, so `TicksAt` carries on.
  induction h generalizing wake with
  | refl => rfl
  | launch => cases next
  | step first rest ih =>
    cases first with
    | begin => cases next
    | ask time first =>
      obtain rfl : wake = time := next
      subst first
      exact congrArg _ (ih rfl)
    | skip time replies =>
      obtain rfl : wake = time := next
      exact congrArg _ (ih rfl)
    | answer answer time replies =>
      obtain rfl : wake = time + feed.pause.millis := next
      exact ih (ticksAt_next ..)

end Standing

end WalletWatch
