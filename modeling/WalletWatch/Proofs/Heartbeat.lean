import WalletWatch.Proofs.Course.Marks
import WalletWatch.Proofs.Shutdown
/-!
# The heartbeat

The heartbeat is asked for over and over, 200 milliseconds after each answer, as long as the answers
say that the server is alive (`Script.heartbeats`). The first other answer ends its loop, and shuts
the page down at the moment at which it arrives. Nothing else shuts the page down or ends a loop
(`Course.Steady.ends_perform`), whatever the server answers to other requests and forms.
-/

namespace WalletWatch

/-! ## A list of heartbeats -/

namespace PollReply

/-- The reply to a request for a feed, by how many requests were made before it. -/
def nth (feed : Feed) (replies : List PollReply) (i : Nat) : PollReply :=
  replies[i]?.getD (.outOfOrder feed)

theorem first_eq_nth (feed : Feed) (replies : List PollReply) :
    first feed replies = nth feed replies 0 := by
  rw [first, nth, List.head?_eq_getElem?]

theorem nth_tail (feed : Feed) (replies : List PollReply) (i : Nat) :
    nth feed replies.tail i = nth feed replies (i + 1) := by
  rw [nth, nth, List.getElem?_tail]

/-- When a heartbeat is asked for, by how many were asked for before it. -/
def heartbeatAt (replies : List PollReply) (first : Nat) : Nat → Nat
  | 0 => first
  | i + 1 => heartbeatAt replies first i + (nth .heartbeat replies i).delay + 200

/-- When a heartbeat is answered. -/
def heartbeatBy (replies : List PollReply) (first i : Nat) : Nat :=
  heartbeatAt replies first i + (nth .heartbeat replies i).delay

/-- A heartbeat, from the request to the answer. -/
def heartbeat (replies : List PollReply) (first i : Nat) : List Stamp :=
  [⟨heartbeatAt replies first i, .asked (nth .heartbeat replies i)⟩,
    ⟨heartbeatBy replies first i, .answered (nth .heartbeat replies i).answer⟩]

variable {replies : List PollReply} {first : Nat}

theorem heartbeatAt_succ (replies : List PollReply) (first i : Nat) :
    heartbeatAt replies first (i + 1) =
      heartbeatAt replies.tail (heartbeatBy replies first 0 + 200) i := by
  induction i with
  | zero => rfl
  | succ i ih => rw [heartbeatAt, ih, heartbeatAt, nth_tail]

theorem heartbeatBy_succ (replies : List PollReply) (first i : Nat) :
    heartbeatBy replies first (i + 1) =
      heartbeatBy replies.tail (heartbeatBy replies first 0 + 200) i := by
  rw [heartbeatBy, heartbeatAt_succ, ← nth_tail, ← heartbeatBy]

theorem le_heartbeatBy (replies : List PollReply) (first i : Nat) :
    first + (nth .heartbeat replies 0).delay ≤ heartbeatBy replies first i := by
  induction i generalizing replies first with
  | zero => exact Nat.le_refl _
  | succ i ih =>
    have once : heartbeatBy replies first 0 = first + (nth .heartbeat replies 0).delay := rfl
    have later := ih replies.tail (heartbeatBy replies first 0 + 200)
    rw [heartbeatBy_succ]
    omega

theorem heartbeats_succ (replies : List PollReply) (first n : Nat) :
    (List.range (n + 1)).flatMap (heartbeat replies first) =
      heartbeat replies first 0 ++
        (List.range n).flatMap (heartbeat replies.tail (heartbeatBy replies first 0 + 200)) := by
  have shifted : ∀ i, heartbeat replies first (i + 1) =
      heartbeat replies.tail (heartbeatBy replies first 0 + 200) i := by
    intro i
    rw [heartbeat, heartbeat, heartbeatAt_succ, heartbeatBy_succ, nth_tail]
  rw [List.range_succ_eq_map, List.flatMap_cons, List.flatMap_map]
  simp only [shifted]

end PollReply

open PollReply (nth heartbeat heartbeatAt heartbeatBy)

namespace Standing

theorem Passes.of_ended {feed : Feed} {replies : List PollReply} {stamps : List Stamp}
    {s' : Standing} (h : Passes feed ⟨.ended, replies⟩ stamps s') : stamps = [] := by
  cases h with
  | refl => rfl
  | step first rest => cases first

/-- A heartbeat that is due is asked for and answered, unless this is still to come. -/
theorem Passes.of_heartbeat {first : Nat} {replies : List PollReply} {stamps : List Stamp}
    {s' : Standing} (h : Passes .heartbeat ⟨.resting first, replies⟩ stamps s') :
    (∃ due, s'.activity.due? = some due ∧ due ≤ heartbeatBy replies first 0) ∨
    ∃ rest, stamps = heartbeat replies first 0 ++ rest ∧
      Passes .heartbeat ⟨(Answer.next .heartbeat (nth .heartbeat replies 0).answer).activity
        (heartbeatBy replies first 0), replies.tail⟩ rest s' := by
  rcases h.of_resting with ⟨-, rfl⟩ | ⟨rest, rfl, asked⟩ | ⟨rest, other, -⟩
  · exact .inl ⟨first, rfl, Nat.le_add_right ..⟩
  · rw [PollReply.first_eq_nth] at asked
    rcases asked.of_awaiting with ⟨-, rfl⟩ | ⟨rest', rfl, answered⟩
    · exact .inl ⟨_, rfl, Nat.le_refl _⟩
    · rw [PollReply.first_eq_nth]
      exact .inr ⟨rest', rfl, answered⟩
  · exact absurd rfl other

/-- A heartbeat that has nothing left to do up to the answer that ends it was asked for just as
often as it takes to get this answer. -/
theorem Passes.heartbeats {first k : Nat} {replies : List PollReply} {stamps : List Stamp}
    {s' : Standing} (h : Passes .heartbeat ⟨.resting first, replies⟩ stamps s')
    (alive : ∀ i < k, Answer.isAlive (nth .heartbeat replies i).answer = true)
    (lost : Answer.isAlive (nth .heartbeat replies k).answer = false)
    (past : ∀ due, s'.activity.due? = some due → heartbeatBy replies first k < due) :
    stamps = (List.range (k + 1)).flatMap (heartbeat replies first) := by
  induction k generalizing first replies stamps with
  | zero =>
    rcases h.of_heartbeat with ⟨due, hd, late⟩ | ⟨rest, rfl, ended⟩
    · exact absurd (past due hd) (Nat.not_lt.2 late)
    · have stops := Answer.next_eq_stop_iff.2 ⟨rfl, lost⟩
      rw [stops] at ended
      rw [ended.of_ended]
      simp
  | succ k ih =>
    rcases h.of_heartbeat with ⟨due, hd, late⟩ | ⟨rest, rfl, goes⟩
    · have later := PollReply.le_heartbeatBy replies first (k + 1)
      exact absurd (past due hd) (Nat.not_lt.2 (Nat.le_trans late later))
    · rw [Answer.next, if_pos rfl, if_pos (alive 0 (Nat.succ_pos k))] at goes
      have goes : Passes .heartbeat ⟨.resting (heartbeatBy replies first 0 + 200), replies.tail⟩
          rest s' := goes
      have alive' : ∀ i < k, Answer.isAlive (nth .heartbeat replies.tail i).answer = true :=
        fun i hi => PollReply.nth_tail .heartbeat replies i ▸ alive (i + 1) (Nat.succ_lt_succ hi)
      have lost' : Answer.isAlive (nth .heartbeat replies.tail k).answer = false :=
        PollReply.nth_tail .heartbeat replies k ▸ lost
      rw [PollReply.heartbeats_succ]
      rw [PollReply.heartbeatBy_succ] at past
      rw [ih goes alive' lost' past]

end Standing

/-! ## The marks of heartbeats -/

namespace PollReply

variable {replies : List PollReply} {first k : Nat}

/-- A heartbeat leaves a mark when it is asked for, and one more if it is lost. -/
theorem marks_heartbeat (replies : List PollReply) (first i : Nat) :
    (heartbeat replies first i).filterMap (Stamp.mark? .heartbeat) =
      (heartbeatAt replies first i, .asked) ::
        if Answer.isAlive (nth .heartbeat replies i).answer then []
        else [(heartbeatBy replies first i, .lost)] := by
  cases alive : Answer.isAlive (nth .heartbeat replies i).answer <;>
    simp [heartbeat, Stamp.mark?, Answer.next, alive]

theorem requests_heartbeats (replies : List PollReply) (first n : Nat) :
    Stamp.requests ((List.range n).flatMap (heartbeat replies first)) =
      (List.range n).map (heartbeatAt replies first) := by
  rw [Stamp.requests, List.filterMap_flatMap, List.map_eq_flatMap]
  rfl

theorem lost_heartbeats (alive : ∀ i < k, Answer.isAlive (nth .heartbeat replies i).answer = true)
    (lost : Answer.isAlive (nth .heartbeat replies k).answer = false) :
    (((List.range (k + 1)).flatMap (heartbeat replies first)).filterMap
        (Stamp.mark? .heartbeat)).filter (·.2 = .lost) =
      [(heartbeatBy replies first k, .lost)] := by
  have before : (((List.range k).flatMap (heartbeat replies first)).filterMap
      (Stamp.mark? .heartbeat)).filter (·.2 = .lost) = [] := by
    rw [List.filterMap_flatMap, List.filter_flatMap, List.flatMap_eq_nil_iff]
    intro i hi
    rw [marks_heartbeat, alive i (List.mem_range.1 hi)]
    rfl
  rw [List.range_succ, List.flatMap_append, List.filterMap_append, List.filter_append, before,
    List.flatMap_singleton, marks_heartbeat, lost]
  rfl

end PollReply

namespace Course

variable {settings : Settings} {c : Course} {feed : Feed} {m : Move} {answer : Answer}

/-- Some moment is over for a loop: it is reached, and what the loop has to do next comes later. -/
def Past (c : Course) (feed : Feed) (moment : Nat) : Prop :=
  moment ≤ c.watch.clock ∧ ∀ due, (c.watch.loops.get feed).due? = some due → moment < due

/-- What is before the present is over. -/
theorem Steady.past (h : c.Steady) (feed : Feed) {moment : Nat} (before : moment < c.watch.clock) :
    c.Past feed moment :=
  ⟨Nat.le_of_lt before, fun due hd => Nat.lt_of_lt_of_le before (h.punctual feed due hd)⟩

/-! ## What ends a loop -/

theorem land_of_act (h : c.act? m = some (feed, .answered answer)) :
    m = .land feed ∧ c.Awaits feed answer := by
  unfold act? at h
  split at h
  · split at h <;> cases h
  · split at h
    · split at h <;> cases h
    · cases h
  · next other =>
    split at h
    · next told arrival loop =>
      obtain ⟨rfl, told⟩ := Prod.mk.inj (Option.some.inj h)
      obtain rfl := Beat.answered.inj told
      exact ⟨rfl, arrival, loop⟩
    · cases h
  · cases h

theorem stops_iff : c.Stops feed answer ↔ feed = .heartbeat ∧ Answer.isAlive answer = false := by
  rw [Stops, Session.landing, Landing.next_ofAnswer, Answer.next_eq_stop_iff]

/-- A page is shut down by the answer to a heartbeat and by nothing else. -/
theorem Lawful.shutdown_perform (hl : c.Lawful settings) (running : c.page.shutdown = false)
    (closed : (c.perform m).page.shutdown = true) :
    m = .land .heartbeat ∧
      ∃ answer, c.Awaits .heartbeat answer ∧ Answer.isAlive answer = false := by
  rcases session_perform hl.orderly m with e | ⟨feed, answer, rfl, hw, e⟩ | ⟨-, -, e⟩ | ⟨-, -, e⟩
  · rw [page, e, ← page, running] at closed
    cases closed
  · rcases page_land e with ⟨stops, -⟩ | ⟨-, -, -, shutdown, -⟩
    · obtain ⟨rfl, dead⟩ := stops_iff.1 stops
      exact ⟨rfl, answer, hw, dead⟩
    · rw [shutdown, running] at closed
      cases closed
  · rw [page, e, Session.shutdown_drain, ← page, running] at closed
    cases closed
  · rw [page, e, Session.shutdown_reload, ← page, running] at closed
    cases closed

/-- A loop is ended by the answer to a heartbeat and by nothing else, unless it is cancelled. -/
theorem Steady.ends_perform (h : c.Steady) (timely : c.Timely m)
    (uncancelled : c.Uncancelled) (alive : (c.watch.loops.get feed).isAlive = true)
    (stopped : ((c.perform m).watch.loops.get feed).isAlive = false) :
    feed = .heartbeat ∧ m = .land .heartbeat ∧
      ∃ answer, c.Awaits .heartbeat answer ∧ Answer.isAlive answer = false := by
  have changes : (c.perform m).standing feed ≠ c.standing feed := by
    intro same
    have loop := congrArg Standing.activity same
    rw [show (c.perform m).watch.loops.get feed = c.watch.loops.get feed from loop, alive]
      at stopped
    cases stopped
  cases acts_perform h.orderly h.punctual timely uncancelled with
  | rest nobody same => exact absurd (same feed) changes
  | launch nobody idle started =>
    rw [idle feed] at alive
    cases alive
  | step other beat acts step others =>
    obtain rfl : feed = other := Classical.byContradiction fun differs =>
      changes (others feed differs)
    generalize (c.standing feed) = s at step
    generalize after : (c.perform m).standing feed = s' at step
    have loop : (c.perform m).watch.loops.get feed = s'.activity := congrArg Standing.activity after
    rw [loop] at stopped
    cases step with
    | begin => cases stopped
    | ask => cases stopped
    | skip => cases stopped
    | answer answer time replies =>
      obtain ⟨rfl, awaits⟩ := land_of_act acts
      cases next : Answer.next feed answer with
      | after pause =>
        simp only [next] at stopped
        cases stopped
      | stop =>
        obtain ⟨rfl, dead⟩ := Answer.next_eq_stop_iff.1 next
        exact ⟨rfl, rfl, answer, awaits, dead⟩

/-- What a diary tells was done in one of the moves. -/
theorem exists_of_mem_diary {moves : List Move} {stamp : Stamp}
    (h : stamp ∈ c.diary feed moves) :
    ∃ before m after, moves = before ++ m :: after ∧ stamp.time = (c.run before).watch.clock ∧
      (c.run before).act? m = some (feed, stamp.beat) := by
  induction moves generalizing c with
  | nil => cases h
  | cons m moves ih =>
    rcases List.mem_append.1 h with now | later
    · simp only [stamps, List.mem_map, Option.mem_toList, Option.filter_eq_some_iff,
        decide_eq_true_eq] at now
      obtain ⟨⟨_, beat⟩, ⟨act, rfl⟩, rfl⟩ := now
      exact ⟨[], m, moves, rfl, rfl, act⟩
    · obtain ⟨before, m', after, rfl, time, act⟩ := ih later
      exact ⟨m :: before, m', after, rfl, time, act⟩

/-- A loop that the journal notes as started began at that moment. -/
theorem began_of_journal {script : Script} {store : Store} {now : Int} {moves : List Move}
    {first : Nat} {s' : Standing}
    (h : ((start settings store script now).standing feed).Passes feed
      ((start settings store script now).diary feed moves) s')
    (began : ((start settings store script now).run moves).Notes first (.loopStarted feed)) :
    ∃ rest, (start settings store script now).diary feed moves = ⟨first, .began⟩ :: rest ∧
      Standing.Passes feed ⟨.resting first, script.polls.get feed⟩ rest s' := by
  have noted : (first, Mark.started) ∈
      ((start settings store script now).diary feed moves).filterMap (Stamp.mark? feed) := by
    rw [← marks_start settings store script now moves feed, Watch.marks, List.mem_filterMap]
    exact ⟨_, began, by rw [Event.mark?_eq_started_iff.2 rfl]; rfl⟩
  rw [standing_start] at h
  rcases h.of_idle (.inl rfl) with ⟨nothing, -⟩ | ⟨time, rest, told, passes⟩
  · rw [nothing] at noted
    cases noted
  · have once := (passes.hasBegun rfl).2
    rw [told] at noted ⊢
    obtain ⟨stamp, member, mark⟩ := List.mem_filterMap.1 noted
    rcases List.mem_cons.1 member with rfl | later
    · obtain rfl : time = first := congrArg Prod.fst (Option.some.inj mark)
      exact ⟨rest, rfl, passes⟩
    · refine absurd ?_ (once stamp later)
      unfold Stamp.mark? at mark
      split at mark
      · assumption
      · cases mark
      · cases mark
      · split at mark <;> cases mark

/-- The end of the page comes with the answer of the heartbeat that is lost. -/
theorem shutdown_split (settings : Settings) (store : Store) (script : Script) (now : Int)
    {moves : List Move} {time : Nat} (dead : Answer.isAlive answer = false)
    (told : ⟨time, .answered answer⟩ ∈
      (start settings store script now).diary .heartbeat moves) :
    let opened := start settings store script now
    ∃ before after, moves = before ++ .land .heartbeat :: after ∧
      (opened.run before).watch.clock = time ∧
      ∀ first second, moves = first ++ second →
        ((opened.run first).page.shutdown = true ↔ before.length < first.length) := by
  intro opened
  obtain ⟨before, m, after, whole, clock, act⟩ := exists_of_mem_diary told
  obtain ⟨rfl, awaits⟩ := land_of_act act
  have hl : ∀ moves, (opened.run moves).Lawful settings := lawful_run settings store script now
  -- The loop that waits for this answer has not ended, so the page is not shut down before.
  have running : (opened.run before).page.shutdown = false := by
    have settled : (opened.run before).Settled :=
      (lawful_start settings store script now).run_invariant Settled
        (fun _ m hd h => h.perform hd m) (fun hs => by cases hs) before
    rw [← Bool.not_eq_true]
    intro closed
    obtain ⟨arrival, loop⟩ := awaits
    rw [settled closed] at loop
    cases loop
  have closed : (opened.run (before ++ [.land .heartbeat])).page.shutdown = true := by
    rw [run_append, run_cons, run_nil]
    rcases page_land (session_perform_land awaits) with ⟨-, page, -⟩ | ⟨goes, -⟩
    · rw [page]
      rfl
    · exact absurd (stops_iff.2 ⟨rfl, dead⟩) goes
  have stays : ∀ first second, first <+: second → (opened.run first).page.shutdown = true →
      (opened.run second).page.shutdown = true := by
    rintro first _ ⟨rest, rfl⟩ hs
    rw [run_append]
    exact ((hl first).closed_run hs rest).1
  refine ⟨before, after, whole, clock.symm, fun first second split => ?_⟩
  have one : before ++ [.land .heartbeat] <+: moves :=
    ⟨after, by rw [whole, List.append_assoc]; rfl⟩
  have other : first <+: moves := ⟨second, split.symm⟩
  constructor
  · intro hs
    by_contra short
    have within : first <+: before := List.prefix_of_prefix_length_le other
      (.trans (List.prefix_append ..) one) (Nat.not_lt.1 short)
    rw [stays first before within hs] at running
    cases running
  · intro long
    refine stays _ first (List.prefix_of_prefix_length_le one other ?_) closed
    rw [List.length_append]
    exact long

/-- **The heartbeat alone decides the end.** In a timed course whose loops are not cancelled, let
the first replies to the heartbeat say that the server is alive, and one more be anything else.
Once the moment is past at which this one arrives, the heartbeat was asked for as often as it takes
to get these replies, each time 200 milliseconds after the reply before, and never again. The notice
is given once, when the last of them arrives, and until then the page is not shut down. And at any
moment of any such course, only this shuts down a page or ends a loop. -/
theorem heartbeat_alone_decides_shutdown (settings : Settings) (store : Store) (script : Script)
    (now : Int) (moves : List Move) (timed : (start settings store script now).Timed moves)
    (uncancelled : ((start settings store script now).run moves).Uncancelled) :
    let opened := start settings store script now
    let c := opened.run moves
    let replies := script.polls.get .heartbeat
    (∀ k first,
      (∀ i < k, ∃ rest, (nth .heartbeat replies i).answer = .ok ("true" :: rest)) →
      (¬ ∃ rest, (nth .heartbeat replies k).answer = .ok ("true" :: rest)) →
      c.Notes first (.loopStarted .heartbeat) →
      c.Past .heartbeat (heartbeatBy replies first k) →
      c.times (· = .fetched .heartbeat) =
        (List.range (k + 1)).map (heartbeatAt replies first) ∧
      opened.diary .heartbeat moves =
        ⟨first, .began⟩ :: (List.range (k + 1)).flatMap (heartbeat replies first) ∧
      c.times Event.isNotice = [heartbeatBy replies first k] ∧
      ∃ before after, moves = before ++ .land .heartbeat :: after ∧
        (opened.run before).watch.clock = heartbeatBy replies first k ∧
        ∀ first second, moves = first ++ second →
          ((opened.run first).page.shutdown = true ↔ before.length < first.length)) ∧
    (∀ m,
      (c.page.shutdown = false → (c.perform m).page.shutdown = true →
        m = .land .heartbeat ∧
          ∃ answer, c.Awaits .heartbeat answer ∧ ¬ ∃ rest, answer = .ok ("true" :: rest)) ∧
      (c.Timely m → ∀ feed, (c.watch.loops.get feed).isAlive = true →
        ((c.perform m).watch.loops.get feed).isAlive = false →
        feed = .heartbeat ∧ m = .land .heartbeat ∧
          ∃ answer, c.Awaits .heartbeat answer ∧ ¬ ∃ rest, answer = .ok ("true" :: rest))) := by
  intro opened c replies
  have hl : c.Lawful settings := lawful_run settings store script now moves
  obtain ⟨steady, passes⟩ := (steady_start settings store script now).run timed uncancelled
  simp only [← Answer.isAlive_iff, Bool.not_eq_true]
  refine ⟨?_, fun m => ⟨fun running closed => hl.shutdown_perform running closed,
    fun timely feed alive stopped => steady.ends_perform timely uncancelled alive stopped⟩⟩
  intro k first alive lost began past
  have diary : opened.diary .heartbeat moves =
      ⟨first, .began⟩ :: (List.range (k + 1)).flatMap (heartbeat replies first) := by
    obtain ⟨rest, told, beats⟩ := began_of_journal (passes .heartbeat) began
    rw [told, beats.heartbeats alive lost past.2]
  refine ⟨?_, diary, ?_, ?_⟩
  · rw [times_fetched, diary, ← PollReply.requests_heartbeats]
    rfl
  · rw [times_of_marks fun e => Event.mark?_eq_lost_iff,
      marks_start settings store script now moves .heartbeat, diary,
      List.filterMap_cons_some (rfl : Stamp.mark? .heartbeat ⟨first, .began⟩ = _),
      List.filter_cons_of_neg (by simp), PollReply.lost_heartbeats alive lost]
    rfl
  · refine shutdown_split settings store script now lost ?_
    rw [diary]
    refine List.mem_cons_of_mem _ (List.mem_flatMap.2 ⟨k, List.self_mem_range_succ, ?_⟩)
    simp [heartbeat]

/-- The second answer is the same word in capitals, and ends what the first one kept going. -/
theorem heartbeat_alone_decides_shutdown_after_first :
    let script : Script := ⟨(PerFeed.const []).set .heartbeat
      [⟨.ok ["true", "TRUE"], 120⟩, ⟨.ok ["TRUE"], 30⟩, ⟨.ok ["true"], 0⟩], fun _ _ => ⟨none, 0⟩⟩
    let opened := start { Settings.default with startScreen := .wallet true } .empty script 0
    let idle (clock : Nat) : List Move :=
      [.chore (.pass clock 0), .tick .bootstrapper, .tick .consensusBuilder]
    let moves : List Move := .chore .startPolling :: Feed.all.map (.chore <| .beginLoop ·)
      ++ [.tick .heartbeat, .tick .blockHeight, .land .blockHeight, .tick .balance, .land .balance,
        .tick .bootstrapper, .tick .consensusBuilder] ++ idle 50 ++ idle 100
      ++ [.chore (.pass 120 0), .land .heartbeat] ++ idle 150 ++ idle 200 ++ idle 250 ++ idle 300
      ++ [.chore (.pass 320 0), .tick .heartbeat] ++ idle 350 ++ [.land .heartbeat]
    let c := opened.run moves
    (opened.Timed moves ∧ c.Uncancelled ∧ c.Past .heartbeat 350) ∧
      c.times (· = .fetched .heartbeat) = [0, 320] ∧ c.times Event.isNotice = [350] := by
  intro script opened idle moves c
  have timed : opened.Timed moves := by decide +kernel
  have uncancelled : c.Uncancelled := by decide +kernel
  have began : c.Notes 0 (.loopStarted .heartbeat) :=
    show ⟨0, _⟩ ∈ c.watch.journal by decide +kernel
  have past : c.Past .heartbeat 350 := by
    have ended : (c.watch.loops.get .heartbeat).due? = none := by decide +kernel
    refine ⟨by decide +kernel, fun due hd => ?_⟩
    rw [ended] at hd
    cases hd
  have alive : ∀ i < 1, ∃ rest,
      (nth .heartbeat (script.polls.get .heartbeat) i).answer = .ok ("true" :: rest) := by
    intro i hi
    obtain rfl := Nat.lt_one_iff.1 hi
    exact ⟨["TRUE"], rfl⟩
  have lost : ¬ ∃ rest,
      (nth .heartbeat (script.polls.get .heartbeat) 1).answer = .ok ("true" :: rest) := by
    rintro ⟨rest, e⟩
    exact absurd (List.cons.inj (Except.ok.inj e)).1 (by decide)
  have moments : (List.range 2).map (heartbeatAt (script.polls.get .heartbeat) 0) = [0, 320] := by
    decide
  have arrival : heartbeatBy (script.polls.get .heartbeat) 0 1 = 350 := by decide
  obtain ⟨ends, -⟩ := heartbeat_alone_decides_shutdown
    { Settings.default with startScreen := .wallet true } .empty script 0 moves timed uncancelled
  obtain ⟨asked, -, notices, -⟩ := ends 1 0 alive lost began (arrival ▸ past)
  rw [moments] at asked
  rw [arrival] at notices
  exact ⟨⟨timed, uncancelled, past⟩, asked, notices⟩

end Course

end WalletWatch
