import WalletWatch.Proofs.Heartbeat
/-!
# Cadence

Each loop is launched once, by the call that starts the polling, and begins at that moment. It waits
for the answer to its last request before it makes another one, and everything that it does comes
just when it is due: a second after an answer, 50 milliseconds after a tick at which its feed was
not shown. When it ticks depends on other loops only through what it finds shown
(`Feed.timetable`).
-/

namespace WalletWatch

namespace Stamp

/-- What a loop does after something comes at some moment, unless this moment is still to come. -/
def Ensues (clock moment : Nat) (what : Beat → Prop) (after : List Stamp) : Prop :=
  (after = [] ∧ clock ≤ moment) ∨ ∃ beat rest, after = ⟨moment, beat⟩ :: rest ∧ what beat

end Stamp

open Stamp (Ensues)

/-- The moments of what a loop did follow from each other. -/
structure Cadence (feed : Feed) (clock : Nat) (stamps : List Stamp) : Prop where
  /-- An answer comes when its delay is over. -/
  after_request : ∀ before time reply after, stamps = before ++ ⟨time, .asked reply⟩ :: after →
    Ensues clock (time + reply.delay) (· = .answered reply.answer) after
  /-- Whatever the answer is, the next tick comes a second later. -/
  after_answer : feed ≠ .heartbeat → ∀ before time answer after,
    stamps = before ++ ⟨time, .answered answer⟩ :: after →
    Ensues clock (time + 1000) (·.isTick = true) after
  after_skip : ∀ before time after, stamps = before ++ ⟨time, .skipped⟩ :: after →
    Ensues clock (time + 50) (·.isTick = true) after
  /-- Two requests are a second and a delay apart, and 50 milliseconds for each tick between them at
  which the feed was not shown. -/
  between_requests : feed ≠ .heartbeat → ∀ before time reply waits time' reply' after,
    stamps = before ++ ⟨time, .asked reply⟩ :: (waits ++ ⟨time', .asked reply'⟩ :: after) →
    Stamp.requests waits = [] →
    ∃ n, waits = ⟨time + reply.delay, .answered reply.answer⟩ ::
        Stamp.skips (time + reply.delay + 1000) n ∧
      time' = time + reply.delay + 1000 + 50 * n

namespace Standing.Passes

variable {feed : Feed} {s s' : Standing} {stamps : List Stamp} {replies : List PollReply}
  {clock moment : Nat}

theorem ensues_of_resting (h : Passes feed ⟨.resting moment, replies⟩ stamps s')
    (punctual : ∀ due, s'.activity.due? = some due → clock ≤ due) :
    Ensues clock moment (·.isTick = true) stamps := by
  rcases h.of_resting with ⟨nothing, rfl⟩ | ⟨rest, told, -⟩ | ⟨rest, -, told, -⟩
  · exact .inl ⟨nothing, punctual moment rfl⟩
  · exact .inr ⟨_, rest, told, rfl⟩
  · exact .inr ⟨_, rest, told, rfl⟩

theorem ensues_of_awaiting {answer : Answer}
    (h : Passes feed ⟨.awaiting answer moment, replies⟩ stamps s')
    (punctual : ∀ due, s'.activity.due? = some due → clock ≤ due) :
    Ensues clock moment (· = .answered answer) stamps := by
  rcases h.of_awaiting with ⟨nothing, rfl⟩ | ⟨rest, told, -⟩
  · exact .inl ⟨nothing, punctual moment rfl⟩
  · exact .inr ⟨_, rest, told, rfl⟩

theorem cadence (h : Passes feed s stamps s')
    (punctual : ∀ due, s'.activity.due? = some due → clock ≤ due) :
    Cadence feed clock stamps where
  after_request := by
    rintro before time reply after rfl
    obtain ⟨_, _, asks, rest⟩ := h.after_stamp
    cases asks with
    | ask => exact rest.ensues_of_awaiting punctual
  after_answer := by
    rintro data before time answer after rfl
    obtain ⟨_, _, answers, rest⟩ := h.after_stamp
    cases answers with
    | answer =>
      rw [Answer.next_of_data data] at rest
      exact rest.ensues_of_resting punctual
  after_skip := by
    rintro before time after rfl
    obtain ⟨_, _, skips, rest⟩ := h.after_stamp
    cases skips with
    | skip => exact rest.ensues_of_resting punctual
  between_requests := by
    rintro data before time reply waits time' reply' after rfl quiet
    exact between_requests data h quiet

end Standing.Passes

/-! ## One instance of each loop -/

namespace Course

variable {settings : Settings} {store : Store} {script : Script} {now : Int} {c : Course}
  {feed : Feed} {m : Move} {moves : List Move}

/-- The loop of a feed was launched at some moment. It begins at that moment, once. -/
def Launched (c : Course) (launch : Nat) (feed : Feed) : Prop :=
  (c.watch.loops.get feed = .starting ∧ c.watch.clock = launch ∧
    c.times (· = .loopStarted feed) = []) ∨
  ((c.watch.loops.get feed).hasBegun = true ∧ c.times (· = .loopStarted feed) = [launch])

/-- What the loop of a feed did up to now keeps its cadence. -/
def KeepsCadence (c : Course) (feed : Feed) (diary : List Stamp) : Prop :=
  Cadence feed c.watch.clock diary

/-- The answers that a loop got. -/
def answers (c : Course) (feed : Feed) : List Answer :=
  (c.landed.filter (·.1 = feed)).map (·.2)

theorem answers_perform (ho : c.watch.Orderly) (m : Move) (feed : Feed) :
    (c.perform m).answers feed = c.answers feed ++ Stamp.answers (c.stamps feed m) := by
  have lands : ∀ other answer, m = .land other → c.Awaits other answer →
      c.act? m = some (other, .answered answer) := by
    rintro other answer rfl ⟨arrival, loop⟩
    exact act?_land loop
  have idle : (∀ other answer, c.act? m ≠ some (other, .answered answer)) →
      (c.perform m).answers feed = c.answers feed := by
    intro nothing
    rcases landed_perform ho m with same | ⟨other, answer, rfl, awaits, -⟩
    · rw [answers, answers, same]
    · exact absurd (lands other answer rfl awaits) (nothing other answer)
  cases act : c.act? m with
  | none =>
    rw [idle (by simp [act]), stamps_of_nobody act]
    exact (List.append_nil _).symm
  | some acts =>
    obtain ⟨other, beat⟩ := acts
    cases beat with
    | answered answer =>
      obtain ⟨rfl, arrival, loop⟩ := land_of_act act
      rw [perform_land_of_awaiting loop, stamps_of_act act]
      by_cases own : other = feed <;> simp [answers, own, Stamp.answers, Stamp.answer?]
    | _ =>
      rw [idle (by simp [act]), stamps_of_act act]
      split <;> exact (List.append_nil _).symm

theorem answers_run (ho : c.watch.Orderly) (moves : List Move) (feed : Feed) :
    (c.run moves).answers feed = c.answers feed ++ Stamp.answers (c.diary feed moves) := by
  induction moves generalizing c with
  | nil => exact (List.append_nil _).symm
  | cons m moves ih =>
    have split : Stamp.answers (c.diary feed (m :: moves)) =
        Stamp.answers (c.stamps feed m) ++ Stamp.answers ((c.perform m).diary feed moves) :=
      List.filterMap_append
    rw [run_cons, ih (orderly_perform ho m), answers_perform ho, split, List.append_assoc]

/-- Polling that goes on was started in one of the moves. -/
theorem exists_start_of_polling (still : c.watch.polling = false)
    (polling : (c.run moves).watch.polling = true) :
    ∃ before m after, moves = before ++ m :: after ∧ (c.run before).watch.polling = false ∧
      ((c.run before).perform m).watch.polling = true ∧
      ((c.run before).perform m).watch.clock = (c.run before).watch.clock ∧
      ∀ feed, ((c.run before).perform m).watch.loops.get feed = .starting := by
  induction moves generalizing c with
  | nil =>
    rw [run_nil, still] at polling
    cases polling
  | cons m moves ih =>
    rcases c.polling_perform m with same | ⟨-, started, clock, loops⟩
    · obtain ⟨before, m', after, rfl, rest⟩ := ih (same.trans still) polling
      exact ⟨m :: before, m', after, rfl, rest⟩
    · exact ⟨[], m, moves, rfl, still, started, clock, loops⟩

/-- A loop that was started begins before time goes on. -/
theorem Steady.begins (h : c.Steady) (timed : c.Timed moves)
    (uncancelled : (c.run moves).Uncancelled) (starting : c.watch.loops.get feed = .starting) :
    (c.diary feed moves = [] ∧ (c.run moves).watch.loops.get feed = .starting ∧
      (c.run moves).watch.clock = c.watch.clock) ∨
    ∃ rest, c.diary feed moves = ⟨c.watch.clock, .began⟩ :: rest := by
  induction moves generalizing c with
  | nil => exact .inl ⟨rfl, starting, rfl⟩
  | cons m moves ih =>
    obtain ⟨timely, timed⟩ := timed
    have before : c.Uncancelled := uncancelled_of_run (m :: moves) uncancelled
    have clock : (c.perform m).watch.clock = c.watch.clock := by
      rcases (c.clock_perform m).1 with same | ⟨clock, now, rfl, -⟩
      · exact same
      · have lets := timely.2 feed feed.mem_all
        rw [starting] at lets
        exact lets.elim
    have later (same : (c.perform m).standing feed = c.standing feed)
        (nothing : c.stamps feed m = []) :
        (c.diary feed (m :: moves) = [] ∧ (c.run (m :: moves)).watch.loops.get feed = .starting ∧
          (c.run (m :: moves)).watch.clock = c.watch.clock) ∨
        ∃ rest, c.diary feed (m :: moves) = ⟨c.watch.clock, .began⟩ :: rest := by
      have loop : (c.perform m).watch.loops.get feed = c.watch.loops.get feed :=
        congrArg Standing.activity same
      have rest := ih (h.perform timely before) timed uncancelled (loop.trans starting)
      rwa [diary, nothing, List.nil_append, ← clock]
    cases acts_perform h.orderly h.punctual timely before with
    | rest nobody same => exact later (same feed) (stamps_of_nobody nobody feed)
    | launch nobody idle started => rw [idle feed] at starting; cases starting
    | step other beat acts step others =>
      by_cases own : other = feed
      · subst own
        generalize (c.perform m).standing other = after at step
        rw [standing, starting] at step
        cases step with
        | begin => exact .inr ⟨_, by rw [diary, stamps_of_act acts, if_pos rfl]; rfl⟩
      · refine later (others feed fun e => own e.symm) ?_
        rw [stamps_of_act acts, if_neg own]

/-- What starts the polling launches each loop, and nothing launches it again. -/
theorem launched_of_polling (timed : (start settings store script now).Timed moves)
    (uncancelled : ((start settings store script now).run moves).Uncancelled)
    (polling : ((start settings store script now).run moves).watch.polling = true) :
    let opened := start settings store script now
    ∃ before m after, moves = before ++ m :: after ∧
      (opened.run before).watch.polling = false ∧
      ((opened.run before).perform m).watch.polling = true ∧
      ∀ feed, (opened.run moves).Launched (opened.run before).watch.clock feed := by
  intro opened
  obtain ⟨before, m, after, whole, still, started, clock, loops⟩ :=
    exists_start_of_polling (c := opened) rfl polling
  refine ⟨before, m, after, whole, still, started, fun feed => ?_⟩
  have split : moves = (before ++ [m]) ++ after := by rw [whole, List.append_assoc]; rfl
  have launched : opened.run (before ++ [m]) = (opened.run before).perform m := by
    rw [run_append, run_cons, run_nil]
  subst split
  obtain ⟨timed₁, timed₂⟩ := (opened.timed_append _ _).1 timed
  rw [run_append] at uncancelled
  obtain ⟨steady, first⟩ := (steady_start settings store script now).run timed₁
    (uncancelled_of_run after uncancelled)
  obtain ⟨-, second⟩ := steady.run timed₂ uncancelled
  have starting : (opened.run (before ++ [m])).watch.loops.get feed = .starting :=
    launched ▸ loops feed
  -- Up to the start the loop does nothing, as it has not begun yet after it.
  have quiet : opened.diary feed (before ++ [m]) = [] := by
    have passes := first feed
    rw [standing_start] at passes
    refine passes.eq_nil_of_early ?_
    rw [standing, starting]
    rfl
  have diary : opened.diary feed (before ++ [m] ++ after) =
      (opened.run (before ++ [m])).diary feed after := by
    rw [diary_append, quiet, List.nil_append]
  rw [Launched, times_loopStarted, diary, ← clock, ← launched]
  rcases steady.begins timed₂ uncancelled starting with ⟨nothing, loop, time⟩ | ⟨rest, told⟩
  · rw [nothing, run_append]
    exact .inl ⟨loop, time, rfl⟩
  · have passes := second feed
    rw [told, standing, starting] at passes
    rcases passes.of_idle (.inr rfl) with ⟨nothing, -⟩ | ⟨time, rest', same, later⟩
    · cases nothing
    · obtain ⟨-, rfl⟩ := List.cons.inj same
      obtain ⟨begun, never⟩ := later.hasBegun rfl
      rw [told, run_append]
      exact .inr ⟨begun, congrArg (_ :: ·) (Stamp.begins_eq_nil never)⟩

/-! ## Cadence -/

/-- A loop ticks by its timetable from the moment at which it begins. -/
theorem ticks_of_began (timed : (start settings store script now).Timed moves)
    (uncancelled : ((start settings store script now).run moves).Uncancelled) {first : Nat}
    (began : ((start settings store script now).run moves).Notes first (.loopStarted feed)) :
    let diary := (start settings store script now).diary feed moves
    Stamp.ticks diary =
      feed.timetable first (script.polls.get feed) (Stamp.sightings diary) := by
  intro diary
  obtain ⟨-, passes⟩ := (steady_start settings store script now).run timed uncancelled
  obtain ⟨rest, told, later⟩ := began_of_journal (passes feed) began
  rw [show diary = _ from told]
  exact later.ticks_eq rfl

/-- **Loops keep their cadence.** In a timed course whose loops are not cancelled, the first call
that starts the polling launches each loop, which begins at that moment, and no later call launches
it again. A loop has at most one request on its way, and all its moments follow from each other: a
loop for data ticks a second after each answer, be it a success or a failure, and 50 milliseconds
after each tick at which its feed is not shown. Of two such courses in which a loop begins at one
moment and gets the same replies, it ticks at the same moments in both as long as it finds the same
shown, whatever else differs. -/
theorem loops_keep_cadence (settings : Settings) (store : Store) (script : Script) (now : Int)
    (moves : List Move) (timed : (start settings store script now).Timed moves)
    (uncancelled : ((start settings store script now).run moves).Uncancelled) :
    let opened := start settings store script now
    let c := opened.run moves
    (c.watch.polling = false → ∀ feed, c.times (· = .loopStarted feed) = []) ∧
    (c.watch.polling = true → ∃ before m after, moves = before ++ m :: after ∧
      (opened.run before).watch.polling = false ∧
      ((opened.run before).perform m).watch.polling = true ∧
      ∀ feed, c.Launched (opened.run before).watch.clock feed) ∧
    ∀ feed, let diary := opened.diary feed moves
      c.times (· = .fetched feed) = Stamp.requests diary ∧
      c.answers feed = Stamp.answers diary ∧
      (c.times (· = .fetched feed)).length =
        (c.answers feed).length + (c.watch.loops.get feed).inFlight ∧
      (c.watch.loops.get feed).inFlight ≤ 1 ∧
      c.KeepsCadence feed diary ∧
      ∀ settings' store' script' now' moves' first,
        let opened' := start settings' store' script' now'
        let c' := opened'.run moves'
        let diary' := opened'.diary feed moves'
        opened'.Timed moves' → c'.Uncancelled → script'.polls.get feed = script.polls.get feed →
        c.Notes first (.loopStarted feed) → c'.Notes first (.loopStarted feed) →
        Stamp.sightings diary <+: Stamp.sightings diary' →
        Stamp.ticks diary <+: Stamp.ticks diary' := by
  intro opened c
  obtain ⟨steady, passes⟩ := (steady_start settings store script now).run timed uncancelled
  refine ⟨fun still feed => ?_, launched_of_polling timed uncancelled, fun feed => ?_⟩
  · have idle : c.watch.loops.get feed = .idle := steady.orderly.idle still feed
    have own := passes feed
    rw [standing_start] at own
    have early : (c.standing feed).activity.hasBegun = false := by
      rw [standing, idle]
      rfl
    rw [times_loopStarted, own.eq_nil_of_early early]
    rfl
  intro diary
  have asked : c.times (· = .fetched feed) = Stamp.requests diary := times_fetched ..
  have answered : c.answers feed = Stamp.answers diary :=
    answers_run (steady_start settings store script now).orderly moves feed
  refine ⟨asked, answered, ?_, ?_, (passes feed).cadence (steady.punctual feed), ?_⟩
  · have balance := (passes feed).inFlight
    rw [standing_start] at balance
    rw [asked, answered]
    exact balance
  · cases c.watch.loops.get feed <;> simp [Activity.inFlight]
  · intro settings' store' script' now' moves' first opened' c' diary' timed' uncancelled' same
      began began' sees
    rw [ticks_of_began timed uncancelled began, ticks_of_began timed' uncancelled' began', same]
    exact feed.timetable_prefix sees first _

/-- The polling is started twice, and a balance that fails after 120 milliseconds is asked for again
a second later, however long the height of the chain takes. -/
theorem loops_keep_cadence_beside_slow_height :
    let script (delay : Nat) : Script := ⟨⟨[], [], [⟨.ok ["12", "Synced", "green"], delay⟩],
      [⟨.error (.request .unreadableBody), 120⟩], [⟨.ok ["true"], 5000⟩]⟩, fun _ _ => ⟨none, 0⟩⟩
    let opened (delay : Nat) :=
      start { Settings.default with startScreen := .wallet true } .empty (script delay) 0
    let idle (first n : Nat) : List Move := (List.range n).flatMap fun i =>
      [.chore (.pass (first + 50 * i) 0), .tick .bootstrapper, .tick .consensusBuilder]
    let moves (between : List Move) : List Move := .chore .startPolling ::
      Feed.all.map (.chore <| .beginLoop ·) ++ Feed.all.map .tick ++ .chore .startPolling ::
      idle 50 2 ++ [.chore (.pass 120 0), .land .balance] ++ idle 150 18 ++ between ++ idle 1050 2
      ++ [.chore (.pass 1120 0), .tick .balance]
    let slow := moves []
    let quick := moves [.chore (.pass 1030 0), .land .blockHeight]
    let c := (opened 5000).run slow
    (((opened 5000).Timed slow ∧ c.Uncancelled) ∧
      (opened 1030).Timed quick ∧ ((opened 1030).run quick).Uncancelled) ∧
      c.times (· = .fetched .balance) = [0, 1120] ∧
      c.KeepsCadence .balance ((opened 5000).diary .balance slow) ∧
      Stamp.ticks ((opened 5000).diary .balance slow) <+:
        Stamp.ticks ((opened 1030).diary .balance quick) := by
  intro script opened idle moves slow quick c
  have timed : (opened 5000).Timed slow := by decide +kernel
  have uncancelled : c.Uncancelled := by decide +kernel
  have timed' : (opened 1030).Timed quick := by decide +kernel
  have uncancelled' : ((opened 1030).run quick).Uncancelled := by decide +kernel
  have began : c.Notes 0 (.loopStarted .balance) :=
    show ⟨0, _⟩ ∈ c.watch.journal by decide +kernel
  have began' : ((opened 1030).run quick).Notes 0 (.loopStarted .balance) :=
    show ⟨0, _⟩ ∈ ((opened 1030).run quick).watch.journal by decide +kernel
  have moments : Stamp.requests ((opened 5000).diary .balance slow) = [0, 1120] := by
    decide +kernel
  have sees : Stamp.sightings ((opened 5000).diary .balance slow) <+:
      Stamp.sightings ((opened 1030).diary .balance quick) := by decide +kernel
  obtain ⟨-, -, each⟩ := loops_keep_cadence
    { Settings.default with startScreen := .wallet true } .empty (script 5000) 0 slow timed
    uncancelled
  obtain ⟨asked, -, -, -, cadence, alike⟩ := each .balance
  have same := alike { Settings.default with startScreen := .wallet true } .empty (script 1030) 0
    quick 0 timed' uncancelled' rfl began began' sees
  exact ⟨⟨⟨timed, uncancelled⟩, timed', uncancelled'⟩, asked.trans moments, cadence, same⟩

end Course

end WalletWatch
