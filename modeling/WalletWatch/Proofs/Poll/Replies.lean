import Mathlib.Data.List.Induction
import WalletWatch.Proofs.Poll.Landing
/-!
# Replies that are no report

A reply is a report of a feed exactly if it has as many fields as the feed needs, and then it is read
from these fields, in their order (`Report.ofFields_eq_ok_iff`). Any other reply to a data loop lands
without a trace: the page and what the loop remembers stay as they are, and the loop goes on in a
second (`Landing.ofTick_of_no_report`). So when one loop alone touches a page (`Solo`), the replies
that are no report can be left out of a run, and at whatever moments the others then land, the page
shows the same (`failed_polls_leave_no_trace`).
-/

namespace WalletWatch

/-! ## Reading a report -/

namespace Report

/-- Some fields begin with those that a report tells, in their order. Of a heartbeat it is known
whether its field was the sign of life. -/
def ReadFrom : Report → List String → Prop
  | .bootstrapper status, fields => [status] <+: fields
  | .consensusBuilder status, fields => [status] <+: fields
  | .blockHeight r, fields => [r.height, r.status, r.tag] <+: fields
  | .balance r, fields =>
    [r.confirmed, r.unconfirmed, r.spfFunds, r.reserved, r.whaleSize] <+: fields
  | .heartbeat alive, fields => ∃ mark, [mark] <+: fields ∧ (alive = true ↔ mark = "true")

variable {feed : Feed} {fields : List String} {report : Report} {failure : Failure}

theorem ofFields_of_readFrom (h : report.ReadFrom fields) :
    ofFields report.feed fields = .ok report := by
  cases report with
  | heartbeat alive =>
    obtain ⟨mark, ⟨rest, rfl⟩, same⟩ := h
    have read : (mark == aliveMark) = alive := Bool.eq_iff_iff.2 (by rw [same, beq_iff_eq]; rfl)
    exact congrArg (fun alive => Except.ok (heartbeat alive)) read
  | _ =>
    obtain ⟨rest, rfl⟩ := h
    rfl

theorem ofFields_of_short (h : fields.length < feed.arity) :
    ofFields feed fields = .error (.malformed feed.path feed.arity fields.length) := by
  cases feed with
  | balance =>
    match fields, h with
    | [], _ | [_], _ | [_, _], _ | [_, _, _], _ | [_, _, _, _], _ => rfl
  | blockHeight =>
    match fields, h with
    | [], _ | [_], _ | [_, _], _ => rfl
  | _ =>
    match fields, h with
    | [], _ => rfl

theorem exists_readFrom (h : feed.arity ≤ fields.length) :
    ∃ report : Report, report.feed = feed ∧ report.ReadFrom fields := by
  cases feed with
  | balance =>
    match fields, h with
    | a :: b :: c :: d :: e :: rest, _ => exact ⟨.balance ⟨a, b, c, d, e⟩, rfl, rest, rfl⟩
  | blockHeight =>
    match fields, h with
    | a :: b :: c :: rest, _ => exact ⟨.blockHeight ⟨a, b, c⟩, rfl, rest, rfl⟩
  | bootstrapper =>
    match fields, h with
    | a :: rest, _ => exact ⟨.bootstrapper a, rfl, rest, rfl⟩
  | consensusBuilder =>
    match fields, h with
    | a :: rest, _ => exact ⟨.consensusBuilder a, rfl, rest, rfl⟩
  | heartbeat =>
    match fields, h with
    | a :: rest, _ => exact ⟨.heartbeat (a == "true"), rfl, a, ⟨rest, rfl⟩, beq_iff_eq⟩

/-- Fields are a report of a feed exactly if they begin with what the report tells. -/
theorem ofFields_eq_ok_iff :
    ofFields feed fields = .ok report ↔ report.feed = feed ∧ report.ReadFrom fields := by
  constructor
  · intro h
    rcases Nat.lt_or_ge fields.length feed.arity with short | enough
    · rw [ofFields_of_short short] at h
      cases h
    · obtain ⟨other, rfl, read⟩ := exists_readFrom enough
      rw [ofFields_of_readFrom read] at h
      obtain rfl := Except.ok.inj h
      exact ⟨rfl, read⟩
  · rintro ⟨rfl, read⟩
    exact ofFields_of_readFrom read

/-- Fields are refused exactly if there are too few of them. -/
theorem ofFields_eq_error_iff : ofFields feed fields = .error failure ↔
    fields.length < feed.arity ∧ failure = .malformed feed.path feed.arity fields.length := by
  rcases Nat.lt_or_ge fields.length feed.arity with short | enough
  · simp [ofFields_of_short short, short, eq_comm]
  · obtain ⟨report, rfl, read⟩ := exists_readFrom enough
    simp [ofFields_of_readFrom read, Nat.not_lt.2 enough]

end Report

namespace Answer

variable {feed : Feed} {answer : Answer} {report : Report}

theorem report?_eq_some_iff : report? feed answer = some report ↔
    ∃ fields, answer = .ok fields ∧ report.feed = feed ∧ report.ReadFrom fields := by
  simp only [← Report.ofFields_eq_ok_iff]
  cases answer with
  | error failure => simp [report?, Except.bind, Except.toOption]
  | ok fields =>
    cases h : Report.ofFields feed fields <;> simp [report?, Except.bind, Except.toOption, h]

theorem isSome_report?_iff : (report? feed answer).isSome = true ↔
    ∃ fields, answer = .ok fields ∧ feed.arity ≤ fields.length := by
  constructor
  · intro h
    obtain ⟨report, read⟩ := Option.isSome_iff_exists.1 h
    obtain ⟨fields, rfl, rfl, begins⟩ := report?_eq_some_iff.1 read
    refine ⟨fields, rfl, Nat.not_lt.1 fun short => ?_⟩
    have refused := Report.ofFields_of_short short
    rw [Report.ofFields_of_readFrom begins] at refused
    cases refused
  · rintro ⟨fields, rfl, enough⟩
    obtain ⟨report, own, begins⟩ := Report.exists_readFrom enough
    exact Option.isSome_iff_exists.2
      ⟨report, report?_eq_some_iff.2 ⟨fields, rfl, own, begins⟩⟩

/-- Why an answer is no report: there is a failure in its place, or it has too few fields. -/
inductive Fails (feed : Feed) : Answer → Failure → Prop
  | failure (failure : Failure) : Fails feed (.error failure) failure
  | short {fields : List String} (short : fields.length < feed.arity) :
    Fails feed (.ok fields) (.malformed feed.path feed.arity fields.length)

theorem exists_fails (h : report? feed answer = none) :
    ∃ failure, Fails feed answer failure ∧
      answer.bind (Report.ofFields feed) = .error failure := by
  cases answer with
  | error failure => exact ⟨failure, .failure failure, rfl⟩
  | ok fields =>
    change (Report.ofFields feed fields).toOption = none at h
    cases read : Report.ofFields feed fields with
    | ok report =>
      rw [read] at h
      cases h
    | error failure =>
      obtain ⟨short, rfl⟩ := Report.ofFields_eq_error_iff.1 read
      exact ⟨_, .short short, read⟩

end Answer

/-! ## A reply that is no report -/

namespace Landing

variable {feed : Feed} {memory : Option String} {page : Page} {answer : Answer}

/-- A reply that is a report lands as the report does. -/
theorem ofTick_of_report {report : Report} (shown : feed.isShown page = true)
    (h : Answer.report? feed answer = some report) (now : Int) :
    ofTick feed now memory page answer =
      { ofReport now memory page report with
        events := .fetched feed :: (ofReport now memory page report).events } := by
  rw [ofTick, if_pos shown]
  rcases ofAnswer_eq feed now memory page answer with ⟨other, read, e⟩ | ⟨none, -⟩
  · obtain rfl := Option.some.inj (read.symm.trans h)
    rw [e]
  · rw [h] at none
    cases none

/-- A reply that is no report changes nothing, and is told in the journal. -/
theorem ofTick_of_no_report (data : feed ≠ .heartbeat) (shown : feed.isShown page = true)
    (h : Answer.report? feed answer = none) (now : Int) :
    ∃ failure, Answer.Fails feed answer failure ∧
      ofTick feed now memory page answer =
        ⟨page, memory, .after .data, [.fetched feed, .pollFailed feed failure]⟩ := by
  obtain ⟨failure, fails, read⟩ := Answer.exists_fails h
  refine ⟨failure, fails, ?_⟩
  rw [ofTick, if_pos shown, ofAnswer, read]
  cases feed with
  | heartbeat => exact absurd rfl data
  | _ => rfl

theorem ofTick_of_hidden (hidden : feed.isShown page = false) (now : Int) :
    ofTick feed now memory page answer = ofHidden memory page := by
  rw [ofTick, if_neg (by rw [hidden]; exact Bool.false_ne_true)]

end Landing

/-! ## One loop alone -/

/-- A page that one loop alone touches, and what the loop remembers. -/
structure Solo where
  page : Page
  memory : Option String

namespace Solo

/-- A tick at some moment, with the answer that its poll would get. -/
def tick (feed : Feed) (s : Solo) (t : Int × Answer) : Solo :=
  let landing := Landing.ofTick feed t.1 s.memory s.page t.2
  ⟨landing.page, landing.memory⟩

/-- Ticks that follow each other. -/
def run (feed : Feed) (s : Solo) (ticks : List (Int × Answer)) : Solo :=
  ticks.foldl (tick feed) s

/-- Without the moment at which something was written last. -/
def undated (s : Solo) : Solo :=
  { s with page := { s.page with updated := none } }

variable {feed : Feed}

theorem tick_of_no_report (data : feed ≠ .heartbeat) {answer : Answer}
    (h : Answer.report? feed answer = none) (s : Solo) (now : Int) :
    s.tick feed (now, answer) = s := by
  cases shown : feed.isShown s.page with
  | false => rw [tick, Landing.ofTick_of_hidden shown, Landing.ofHidden]
  | true =>
    obtain ⟨failure, -, landed⟩ := Landing.ofTick_of_no_report data shown h now
    rw [tick, landed]

/-- Ticks whose replies are no report can be left out. -/
theorem run_filter (data : feed ≠ .heartbeat) (s : Solo) (ticks : List (Int × Answer)) :
    s.run feed (ticks.filter fun t => (Answer.report? feed t.2).isSome) = s.run feed ticks := by
  induction ticks generalizing s with
  | nil => rfl
  | cons t ticks ih =>
    cases h : Answer.report? feed t.2 with
    | some report => simpa [run, h] using ih (s.tick feed t)
    | none =>
      have idle : s.tick feed t = s := tick_of_no_report data h s t.1
      simpa [run, h, idle] using ih s

/-- A report makes the same of a page whenever it lands, and whenever the page was written on. -/
theorem undated_ofReport (now other : Int) (memory : Option String) (p : Page) (report : Report) :
    undated ⟨(Landing.ofReport now memory p report).page, memory⟩ =
      undated ⟨(Landing.ofReport other memory { p with updated := none } report).page, memory⟩ := by
  cases report with
  | heartbeat alive => cases alive <;> rfl
  | balance r =>
    simp only [Landing.ofReport, Landing.ofBalance, Page.submitIf_eq]
    rfl
  | blockHeight r =>
    simp only [Landing.ofReport, Landing.ofHeight, Page.submitIf_eq]
    rfl
  | bootstrapper status =>
    simp only [Landing.ofReport, Landing.ofProgress, Page.submitIf_eq]
    rfl
  | consensusBuilder status =>
    simp only [Landing.ofReport, Landing.ofProgress, Page.submitIf_eq]
    rfl

theorem undated_tick (data : feed ≠ .heartbeat) (s : Solo) (now other : Int) (answer : Answer) :
    (s.tick feed (now, answer)).undated = (s.undated.tick feed (other, answer)).undated := by
  have same : feed.isShown s.undated.page = feed.isShown s.page := by cases feed <;> rfl
  cases h : Answer.report? feed answer with
  | none =>
    rw [tick_of_no_report data h, tick_of_no_report data h]
    rfl
  | some report =>
    cases shown : feed.isShown s.page with
    | false =>
      rw [tick, tick, Landing.ofTick_of_hidden shown,
        Landing.ofTick_of_hidden (same.trans shown)]
      rfl
    | true =>
      have pages := congrArg Solo.page (undated_ofReport now other s.memory s.page report)
      rw [tick, tick, Landing.ofTick_of_report shown h,
        Landing.ofTick_of_report (same.trans shown) h]
      simp only [undated, Solo.mk.injEq, Landing.memory_ofReport, and_true]
      exact pages

/-- What ticks leave behind does not depend on the moments at which they are made, but for the moment
at which something was written last. -/
theorem undated_run (data : feed ≠ .heartbeat) (s : Solo) (ticks : List (Int × Answer)) :
    (s.run feed ticks).undated =
      (s.undated.run feed (ticks.map fun t => (0, t.2))).undated := by
  induction ticks using List.reverseRecOn with
  | nil => rfl
  | append_singleton ticks t ih =>
    rw [run, List.foldl_append, List.map_append, run, List.foldl_append]
    change (Solo.tick feed (s.run feed ticks) t).undated =
      (Solo.tick feed (s.undated.run feed (ticks.map fun t => (0, t.2))) (0, t.2)).undated
    rw [undated_tick data _ _ 0, ih, ← undated_tick data]

/-- Two runs in which the same replies are reports leave the same behind, but for the moment at which
something was written last. -/
theorem undated_run_congr (data : feed ≠ .heartbeat) (s : Solo) {ticks others : List (Int × Answer)}
    (same : others.map (·.2) =
      (ticks.map (·.2)).filter fun answer => (Answer.report? feed answer).isSome) :
    (s.run feed others).undated = (s.run feed ticks).undated := by
  have replies (ticks : List (Int × Answer)) :
      ticks.map (fun t => ((0 : Int), t.2)) = (ticks.map (·.2)).map ((0, ·)) := by
    rw [List.map_map]
    rfl
  rw [undated_run data s others, ← run_filter data s ticks, undated_run data s (ticks.filter _),
    replies, replies, same, List.filter_map]
  rfl

end Solo

/-- **A poll that fails leaves no trace.** A reply to a data loop is a report exactly if it is an array
with as many fields as its feed needs, and it is read from the leading ones, in their order. On a page
that shows the feed, such a reply lands as its report. Any other one changes neither the page nor
what the loop remembers, and the loop polls again in a second; the journal tells the failure, which of
an array is that it has too few fields. So when one loop alone touches a page, the replies that are no
report can be left out, and the others may come at any moments: the page ends up with the same
elements, forms and submissions, and the loop with the same memory. -/
theorem failed_polls_leave_no_trace (feed : Feed) (data : feed ≠ .heartbeat) :
    (∀ answer, (Answer.report? feed answer).isSome = true ↔
      ∃ fields, answer = .ok fields ∧ feed.arity ≤ fields.length) ∧
    (∀ answer report, Answer.report? feed answer = some report ↔
      ∃ fields, answer = .ok fields ∧ report.feed = feed ∧ report.ReadFrom fields) ∧
    (∀ now memory page answer, feed.isShown page = true →
      let tick := Landing.ofTick feed now memory page answer
      (∀ report, Answer.report? feed answer = some report →
        let landed := Landing.ofReport now memory page report
        tick.page = landed.page ∧ tick.memory = landed.memory ∧ tick.next = landed.next ∧
          tick.events = .fetched feed :: landed.events) ∧
      (Answer.report? feed answer = none →
        tick.page = page ∧ tick.memory = memory ∧
          (∃ pause : Pause, tick.next = .after pause ∧ pause.millis = 1000) ∧
          ∃ failure, tick.events = [.fetched feed, .pollFailed feed failure] ∧
            (answer = .error failure ∨ ∃ fields, answer = .ok fields ∧
              fields.length < feed.arity ∧
              failure = .malformed feed.path feed.arity fields.length))) ∧
    ∀ (start : Solo) (ticks others : List (Int × Answer)),
      others.map (·.2) =
        (ticks.map (·.2)).filter (fun answer => (Answer.report? feed answer).isSome) →
      let whole := start.run feed ticks
      let rest := start.run feed others
      rest.page.elements = whole.page.elements ∧ rest.page.outbox = whole.page.outbox ∧
        rest.memory = whole.memory ∧ rest.page.forms = whole.page.forms ∧
        rest.page.screen = whole.page.screen ∧ rest.page.shutdown = whole.page.shutdown := by
  refine ⟨fun _ => Answer.isSome_report?_iff, fun _ _ => Answer.report?_eq_some_iff, ?_, ?_⟩
  · intro now memory page answer shown
    refine ⟨?_, ?_⟩
    · intro report read
      rw [Landing.ofTick_of_report shown read]
      exact ⟨rfl, rfl, rfl, rfl⟩
    · intro unread
      obtain ⟨failure, fails, landed⟩ := Landing.ofTick_of_no_report data shown unread now
      rw [landed]
      refine ⟨rfl, rfl, ⟨.data, rfl, rfl⟩, failure, rfl, ?_⟩
      cases fails with
      | failure => exact .inl rfl
      | short short => exact .inr ⟨_, rfl, short, rfl⟩
  · intro start ticks others replies
    have same := Solo.undated_run_congr data start replies
    exact ⟨congrArg (·.page.elements) same, congrArg (·.page.outbox) same,
      congrArg (·.memory) same, congrArg (·.page.forms) same, congrArg (·.page.screen) same,
      congrArg (·.page.shutdown) same⟩

/-- A short reply and one that fails, before and between two reports that the wallet has caught up. -/
theorem failed_polls_leave_no_trace_between_reports :
    let start : Solo := ⟨.ofScreen (.wallet true), none⟩
    let whole : Answer := .ok ["7", "Synchronized", "blue", "surplus"]
    let short : Answer := .ok ["7", "Scanning"]
    let down : Answer := .error (.status 500 "/gui/blockHeight")
    let ticks : List (Int × Answer) := [(0, short), (1, whole), (2, down), (3, short), (4, whole)]
    let others : List (Int × Answer) := [(0, whole), (9, whole)]
    Feed.blockHeight.isShown start.page = true ∧ Answer.report? .blockHeight short = none ∧
      Answer.report? .blockHeight whole = some (.blockHeight ⟨"7", "Synchronized", "blue"⟩) ∧
      (Landing.ofTick .blockHeight 0 none start.page short).page = start.page ∧
      (start.run .blockHeight ticks).page.elements =
        (start.run .blockHeight others).page.elements ∧
      (start.run .blockHeight ticks).page.outbox = [⟨"refreshForm", "/"⟩] := by
  intro start whole short down ticks others
  obtain ⟨-, reads, lands, runs⟩ := failed_polls_leave_no_trace .blockHeight (by decide)
  have shown : Feed.blockHeight.isShown start.page = true := by decide
  have none : Answer.report? .blockHeight short = none := by decide
  obtain ⟨elements, outbox, -⟩ := runs start ticks others (by decide)
  have once : (start.run .blockHeight others).page.outbox = [⟨"refreshForm", "/"⟩] := by decide
  exact ⟨shown, none, (reads _ _).2 ⟨_, rfl, rfl, ["surplus"], rfl⟩,
    ((lands 0 _ _ _ shown).2 none).1, elements.symm, outbox.symm.trans once⟩

end WalletWatch
