import WalletWatch.Proofs.Course.Traffic
import WalletWatch.Proofs.Onboarding
/-!
# One submission for each transition

When loops submit their forms, in every course. A loop with a goal, which is a status, submits its
form when an answer brings this status and the last answer with a status brought another one or there
was none (`Course.Enters`); what the page looked like when that one landed does not matter. The page
takes the form if it shows the form's screen. For the height of the chain this is no condition: while
an answer is awaited the page shows a wallet (`Course.Anchored`), since the loop asked only after it
found its element there and a wallet is not left.
-/

namespace WalletWatch

open Landing in
/-- The status that a loop waits for, and the form that it submits then. -/
def Feed.goal? : Feed → Option (String × String)
  | bootstrapper => some (complete, FormName.refreshBootstrapper)
  | consensusBuilder => some (complete, FormName.refreshConsensusBuilder)
  | blockHeight => some (synchronized, FormName.refresh)
  | balance | heartbeat => none

/-- Each loop that has a goal has a form of its own for it. -/
theorem Feed.eq_of_goal? {feed other : Feed} {mark mark' form : String}
    (h : feed.goal? = some (mark, form)) (h' : other.goal? = some (mark', form)) :
    other = feed := by
  have own : ∀ feed other : Feed, feed.goal?.map Prod.snd = other.goal?.map Prod.snd →
      feed.goal? = none ∨ other = feed := by
    intro feed other
    cases feed <;> cases other <;> decide
  rcases own feed other (by rw [h, h']; rfl) with goalless | same
  · rw [h] at goalless
    cases goalless
  · exact same

namespace Report

variable {memory : Option String} {page : Page} {report : Report} {mark form : String}

/-- A loop with a goal calls for its form when the goal is reached, and otherwise for none. -/
theorem call?_of_goal? (goal : report.feed.goal? = some (mark, form)) :
    report.call? memory page =
      if report.status? = some mark ∧ memory ≠ some mark then some form else none := by
  cases report with
  | bootstrapper status =>
    obtain ⟨rfl, rfl⟩ := Prod.mk.inj (Option.some.inj goal)
    simp [call?, Landing.entered, status?]
  | consensusBuilder status =>
    obtain ⟨rfl, rfl⟩ := Prod.mk.inj (Option.some.inj goal)
    simp [call?, Landing.entered, status?]
  | blockHeight r =>
    obtain ⟨rfl, rfl⟩ := Prod.mk.inj (Option.some.inj goal)
    simp [call?, Landing.entered, status?]
  | balance r => cases goal
  | heartbeat alive => cases goal

/-- The form that a loop without a goal calls for is no loop's goal. -/
theorem call?_of_no_goal (goalless : report.feed.goal? = none) :
    report.call? memory page = none ∨
      report.call? memory page = some FormName.refreshTransactions := by
  cases report with
  | bootstrapper status => cases goalless
  | consensusBuilder status => cases goalless
  | blockHeight r => cases goalless
  | balance r =>
    simp only [call?]
    split
    · exact .inr rfl
    · exact .inl rfl
  | heartbeat alive => exact .inl rfl

/-- The form of a goal is called for by a report that reaches the goal, and by no other. -/
theorem call?_eq_goal_iff {feed : Feed} (goal : feed.goal? = some (mark, form)) :
    report.call? memory page = some form ↔
      report.feed = feed ∧ report.status? = some mark ∧ memory ≠ some mark := by
  constructor
  · intro called
    cases own : report.feed.goal? with
    | some other =>
      obtain ⟨mark', form'⟩ := other
      rw [call?_of_goal? own] at called
      split at called
      · next reached =>
        obtain rfl := Option.some.inj called
        have same := Feed.eq_of_goal? goal own
        rw [same, goal] at own
        obtain ⟨rfl, -⟩ := Prod.mk.inj (Option.some.inj own)
        exact ⟨same, reached⟩
      · cases called
    | none =>
      have other : report.call? memory page = .none ∨
          report.call? memory page = some FormName.refreshTransactions := call?_of_no_goal own
      rcases other with e | e
      · rw [e] at called
        cases called
      · rw [e] at called
        obtain rfl := Option.some.inj called
        have foreign : ∀ feed : Feed,
            feed.goal?.map Prod.snd ≠ some FormName.refreshTransactions := by
          intro feed
          cases feed <;> decide
        exact absurd (by rw [goal]; rfl) (foreign feed)
  · rintro ⟨rfl, reached⟩
    rw [call?_of_goal? goal, if_pos reached]

end Report

namespace Screen

/-- The screen of bootstrapping has a form of its own. -/
theorem refreshBootstrapper_mem_iff (s : Screen) :
    FormName.refreshBootstrapper ∈ s.formNames ↔ s = .bootstrapper := by
  rcases s with _ | _ | lastPage
  · decide
  · decide
  · cases lastPage <;> decide

/-- The screen of the consensus builder has a form of its own. -/
theorem refreshConsensusBuilder_mem_iff (s : Screen) :
    FormName.refreshConsensusBuilder ∈ s.formNames ↔ s = .consensusBuilder := by
  rcases s with _ | _ | lastPage
  · decide
  · decide
  · cases lastPage <;> decide

end Screen

namespace Course

variable {settings : Settings} {c : Course} {s : Screen} {m : Move} {feed : Feed}
  {mark form : String}

/-- A move brings a loop a status that it did not have before: an answer with this status lands, and
the last answer with a status, if there was one, had another. -/
def Enters (c : Course) (m : Move) (feed : Feed) (mark : String) : Prop :=
  ∃ answer report, m = .land feed ∧ c.Awaits feed answer ∧
    Answer.report? feed answer = some report ∧ report.status? = some mark ∧
    c.lastStatus feed ≠ some mark

/-- The forms that a move puts into the outbox. -/
def queued (c : Course) (m : Move) : List Submission :=
  (c.perform m).page.outbox.drop c.page.outbox.length

/-- What a move puts into the outbox is what pages took in it. -/
theorem Lawful.accepted_perform (hl : c.Lawful settings) (m : Move) :
    (c.perform m).accepted = c.accepted ++ c.queued m := by
  cases hl.traffic m with
  | take taken accepted outbox batches shutdown closed =>
    rw [accepted, queued, outbox, List.drop_left]
  | drain accepted outbox batches shutdown =>
    rw [accepted, queued, outbox, List.drop_nil, List.append_nil]
  | clear accepted outbox batches shutdown =>
    rw [accepted, queued, outbox, List.drop_nil, List.append_nil]

/-- What an answer puts into the outbox is the form that it calls for, if the page takes it. -/
theorem queued_land {answer : Answer} (hw : c.Awaits feed answer) :
    c.queued (.land feed) = c.page.accepts (c.called feed answer) := by
  rcases page_land (session_perform_land hw) with ⟨-, cleared, uncalled⟩ | ⟨-, -, -, -, outbox⟩
  · rw [queued, cleared, uncalled]
    exact List.drop_nil
  · rw [queued, outbox, List.drop_left]

/-- Only answers put forms into the outbox. -/
theorem Lawful.queued_eq_or (hl : c.Lawful settings) (m : Move) :
    (∃ feed answer, m = .land feed ∧ c.Awaits feed answer) ∨ c.queued m = [] := by
  have queued : c.queued m = (c.perform m).session.page.outbox.drop c.page.outbox.length := rfl
  rcases session_perform hl.orderly m with e | ⟨feed, answer, hm, hw, -⟩ | ⟨-, -, e⟩ | ⟨-, -, e⟩
  · right
    rw [queued, e, ← page, List.drop_length]
  · exact .inl ⟨feed, answer, hm, hw⟩
  · right
    rcases c.session.drain_cases with ⟨empty, ed⟩ | ⟨last, -, ed⟩
    · rw [queued, e, ed, ← page, List.drop_length]
    · rw [queued, e, ed]
      exact List.drop_nil
  · right
    rw [queued, e, Session.outbox_reload, ← page, List.drop_length]

theorem Lawful.length_queued_le (hl : c.Lawful settings) (m : Move) :
    (c.queued m).length ≤ 1 := by
  rcases hl.queued_eq_or m with ⟨feed, answer, rfl, hw⟩ | nothing
  · rw [queued_land hw, Page.accepts]
    exact Option.length_toList_le
  · rw [nothing]
    exact Nat.zero_le 1

/-- A form of a goal comes into the outbox when the goal is reached, while the page shows the form's
screen, and at no other time. -/
theorem Lawful.queued_goal_iff (hl : c.Lawful settings) (hr : c.page.Renders c.Sent s)
    (goal : feed.goal? = some (mark, form)) (m : Move) :
    (∃ x ∈ c.queued m, x.form = form) ↔
      c.Enters m feed mark ∧ c.page.shutdown = false ∧ form ∈ s.formNames := by
  constructor
  · rintro ⟨x, hx, rfl⟩
    rcases hl.queued_eq_or m with ⟨asked, answer, rfl, hw⟩ | nothing
    · rw [queued_land hw] at hx
      obtain ⟨called, -, running, mem⟩ := hr.mem_accepts_iff.1 hx
      obtain ⟨report, read, calls⟩ := Option.bind_eq_some_iff.1 called
      obtain ⟨same, status, before⟩ := (Report.call?_eq_goal_iff goal).1 calls
      obtain rfl : asked = feed := (Answer.feed_of_report? read).symm.trans same
      rw [hl.remembers asked] at before
      exact ⟨⟨answer, report, rfl, hw, read, status, before⟩, running, mem⟩
    · rw [nothing] at hx
      cases hx
  · rintro ⟨⟨answer, report, rfl, hw, read, status, before⟩, running, mem⟩
    refine ⟨⟨form, Screen.formAction⟩, ?_, rfl⟩
    rw [← hl.remembers feed] at before
    have calls : c.called feed answer = some form :=
      Option.bind_eq_some_iff.2 ⟨report, read,
        (Report.call?_eq_goal_iff goal).2 ⟨Answer.feed_of_report? read, status, before⟩⟩
    rw [queued_land hw, hr.mem_accepts_iff]
    exact ⟨calls, rfl, running, mem⟩

/-- While the height of the chain is awaited, the page shows a wallet. -/
def Anchored (c : Course) : Prop :=
  ∀ answer, c.Awaits .blockHeight answer → ∃ lastPage, c.page.screen = some (.wallet lastPage)

theorem Anchored.perform (hl : c.Lawful settings) (ho : c.Onboards settings s) (h : c.Anchored)
    (m : Move) : (c.perform m).Anchored := by
  intro answer hw
  have wallet : ∃ lastPage, s = .wallet lastPage := by
    rcases awaits_perform hw with before | ⟨-, shown⟩
    · obtain ⟨lastPage, e⟩ := h answer before
      exact ⟨lastPage, Option.some.inj (ho.screen.symm.trans e)⟩
    · obtain ⟨s₀, hr⟩ := hl.renders
      obtain rfl : s = s₀ := Option.some.inj (ho.screen.symm.trans hr.screen)
      exact hr.wallet_of_blockHeight shown
  obtain ⟨lastPage, rfl⟩ := wallet
  obtain ⟨s', follows, onboards⟩ := ho.perform hl m
  obtain rfl := follows.wallet
  exact ⟨lastPage, onboards.screen⟩

theorem anchored_run (settings : Settings) (store : Store) (script : Script) (now : Int)
    (moves : List Move) : ((start settings store script now).run moves).Anchored := by
  have idle : (start settings store script now).Anchored := by
    rintro answer ⟨arrival, hw⟩
    cases hw
  have kept := (lawful_start settings store script now).run_invariant
    (fun d => (∃ s, d.Onboards settings s) ∧ d.Anchored) ?_
    ⟨⟨_, onboards_start settings store script now⟩, idle⟩ moves
  · exact kept.2
  · rintro d m hd ⟨⟨s, ho⟩, anchored⟩
    obtain ⟨s', -, ho'⟩ := ho.perform hd m
    exact ⟨⟨s', ho'⟩, anchored.perform hd ho m⟩

/-- **One submission for each transition.** At every moment of a course and for every move: the move
puts no more than one form into the outbox. It is the form that refreshes a wallet just when the
height is reported as synchronized and was not so in the report before, and the page is not shut
down; and it is a form of onboarding just when its step is reported as complete and was not so
before, while the page shows the screen of this step and is not shut down. -/
theorem transitions_submit_once (settings : Settings) (store : Store) (script : Script) (now : Int)
    (moves : List Move) (m : Move) :
    let c := (start settings store script now).run moves
    ((c.queued m).length ≤ 1 ∧ (c.perform m).accepted = c.accepted ++ c.queued m) ∧
    ((∃ x ∈ c.queued m, x.form = FormName.refresh) ↔
      c.Enters m .blockHeight Landing.synchronized ∧ c.page.shutdown = false) ∧
    ((∃ x ∈ c.queued m, x.form = FormName.refreshBootstrapper) ↔
      c.Enters m .bootstrapper Landing.complete ∧ c.page.shutdown = false ∧
        c.page.screen = some .bootstrapper) ∧
    ((∃ x ∈ c.queued m, x.form = FormName.refreshConsensusBuilder) ↔
      c.Enters m .consensusBuilder Landing.complete ∧ c.page.shutdown = false ∧
        c.page.screen = some .consensusBuilder) := by
  intro c
  have hl : c.Lawful settings := lawful_run settings store script now moves
  obtain ⟨s, hr⟩ := hl.renders
  refine ⟨⟨hl.length_queued_le m, hl.accepted_perform m⟩, ?_, ?_, ?_⟩
  · have goal : Feed.goal? .blockHeight = some (Landing.synchronized, FormName.refresh) := rfl
    rw [hl.queued_goal_iff hr goal]
    refine and_congr_right fun enters => and_iff_left_of_imp fun _ => ?_
    obtain ⟨answer, report, -, hw, -⟩ := enters
    obtain ⟨lastPage, e⟩ := anchored_run settings store script now moves answer hw
    obtain rfl : s = .wallet lastPage := Option.some.inj (hr.screen.symm.trans e)
    exact List.mem_cons_self
  · have goal : Feed.goal? .bootstrapper =
        some (Landing.complete, FormName.refreshBootstrapper) := rfl
    rw [hl.queued_goal_iff hr goal, Screen.refreshBootstrapper_mem_iff, hr.screen,
      Option.some.injEq]
  · have goal : Feed.goal? .consensusBuilder =
        some (Landing.complete, FormName.refreshConsensusBuilder) := rfl
    rw [hl.queued_goal_iff hr goal, Screen.refreshConsensusBuilder_mem_iff, hr.screen,
      Option.some.injEq]

/-- Frames that load the wallet again, and an answer that is no report, come between two reports of
one transition and do not make it two. -/
example :
    let script : Script := ⟨(PerFeed.const []).set .blockHeight
      [⟨.ok ["7", "Synchronized", "green"], 0⟩, ⟨.ok ["8"], 0⟩,
        ⟨.ok ["8", "Synchronized", "green"], 0⟩, ⟨.ok ["9", "Scanning", "yellow"], 0⟩,
        ⟨.ok ["9", "Synchronized", "green"], 0⟩], fun _ _ => ⟨none, 0⟩⟩
    let round : List Move := [.tick .blockHeight, .land .blockHeight, .drain, .reload, .draw]
    let c := (start { Settings.default with startScreen := .wallet true } .empty script 0).run
      [.chore .startPolling, .chore (.beginLoop .blockHeight)]
    (c.run (round ++ round ++ round)).accepted.length = 1 ∧
      (c.run (round ++ round ++ round ++ round ++ round)).accepted.length = 2 := by
  decide

end Course

end WalletWatch
