import WalletWatch.Proofs.Transition
/-!
# Onboarding is never stuck

A loop of onboarding submits the form of its step when it reads that the step is complete, and not
again while it reads the same. So a completion that it remembers must not be lost on the way: its
form is in the outbox, or a frame took it and is about to load what follows (`Course.Underway`).

Three facts carry this. The loop of a step hears nothing before the page shows the step (`Unheard`).
While the page shows it, a page takes no form but that of the step, so the form is behind all that an
earlier screen may have left in the outbox, and the last form decides where a frame leads. And a
frame that took the form leads away from the step, so what it took is not remembered in vain
(`Proceeds`).
-/

namespace WalletWatch

/-- The steps of onboarding. -/
inductive OnboardingStep
  | bootstrapping
  | consensusBuilding

namespace OnboardingStep

/-- What is polled to learn how far a step is. -/
def feed : OnboardingStep → Feed
  | bootstrapping => .bootstrapper
  | consensusBuilding => .consensusBuilder

def screen : OnboardingStep → Screen
  | bootstrapping => .bootstrapper
  | consensusBuilding => .consensusBuilder

/-- The form that is submitted when a step is complete. -/
def form : OnboardingStep → String
  | bootstrapping => FormName.refreshBootstrapper
  | consensusBuilding => FormName.refreshConsensusBuilder

variable (step : OnboardingStep)

theorem goal : step.feed.goal? = some (Landing.complete, step.form) := by
  cases step <;> rfl

theorem formNames_screen : step.screen.formNames = [step.form] := by
  cases step <;> rfl

variable {step}

theorem mem_formNames_iff {s : Screen} : step.form ∈ s.formNames ↔ s = step.screen := by
  cases step with
  | bootstrapping => exact s.refreshBootstrapper_mem_iff
  | consensusBuilding => exact s.refreshConsensusBuilder_mem_iff

theorem screenAfter_form (settings : Settings) :
    settings.screenAfter step.form (some step.screen) =
      step.screen.successor settings.consensusBuilder := by
  cases step with
  | bootstrapping =>
    cases hc : settings.consensusBuilder <;>
      simp [Settings.screenAfter, form, screen, Screen.successor, Screen.lastPage, hc]
  | consensusBuilding =>
    have other : FormName.refreshConsensusBuilder ≠ FormName.refreshBootstrapper := by decide
    simp [Settings.screenAfter, form, screen, Screen.successor, Screen.lastPage, other]

theorem successor_ne (consensusBuilder : Bool) :
    step.screen.successor consensusBuilder ≠ step.screen := by
  cases step <;> cases consensusBuilder <;> decide

/-- No page shows how far a step is before the screen of the step. -/
theorem not_isShown_of_early {sent : String → Prop} {s : Screen} {p : Page} (h : p.Renders sent s)
    (early : s.progress < step.screen.progress) : step.feed.isShown p = false := by
  -- Only bootstrapping comes before another step, and its screen has no status to be coloured.
  obtain ⟨rfl, rfl⟩ : s = .bootstrapper ∧ step = .consensusBuilding := by
    cases step with
    | bootstrapping => exact absurd early (Nat.not_lt_zero _)
    | consensusBuilding =>
      cases s with
      | bootstrapper => exact ⟨rfl, rfl⟩
      | consensusBuilder => exact absurd early (Nat.lt_irrefl _)
      | wallet lastPage => exact absurd early (Nat.not_lt.2 (Nat.le_succ 1))
  have absent : ∀ t ∈ Screen.elements .bootstrapper,
      ¬ (t.hasClass ClassName.consensusBuilderProgress = true ∨ t.className = ClassName.status) := by
    decide
  rw [← Bool.not_eq_true]
  intro shown
  obtain ⟨t, ht, carries⟩ := h.template_of_hasClass shown
  unfold Page.plan at ht
  split at ht
  · cases ht
  · exact absent t ht carries

end OnboardingStep

theorem Settings.Follows.progress_lt {settings : Settings} {s s' : Screen}
    (h : settings.Follows s s') (left : s' ≠ s) : s.progress < s'.progress := by
  rcases h with rfl | rfl
  · exact absurd rfl left
  · rcases s with _ | _ | lastPage
    · cases settings.consensusBuilder <;> decide
    · exact Nat.lt_succ_self 1
    · exact absurd rfl left

namespace Course

variable {settings : Settings} {c c' : Course} {s : Screen} {step : OnboardingStep}
  {form : String}

/-! ## What is on its way -/

/-- A form is in the outbox. -/
def Waiting (c : Course) (form : String) : Prop :=
  ∃ x ∈ c.page.outbox, x.form = form

/-- A form is among those that a frame took which is about to load what follows them. -/
def Taken (c : Course) (form : String) : Prop :=
  c.session.pending ≠ none ∧
    ∃ batch, c.batches.getLast? = some batch ∧ ∃ x ∈ batch, x.form = form

/-- A form was submitted, and the screen that follows it is not loaded yet. -/
def Underway (c : Course) (form : String) : Prop :=
  c.Waiting form ∨ c.Taken form

theorem Taken.stage (hl : c.Lawful settings) (h : c.Taken form) : c.stage = .taken :=
  hl.framed h.1

/-! ## Before a step -/

/-- As long as the page shows an earlier screen, the loop of a step waits for nothing and knows
nothing. -/
def Unheard (c : Course) (step : OnboardingStep) : Prop :=
  ∀ s, c.page.screen = some s → s.progress < step.screen.progress →
    (∀ answer, ¬ c.Awaits step.feed answer) ∧ c.session.memory.get step.feed = none

/-- A loop that waits for nothing learns nothing. -/
theorem memory_perform (hl : c.Lawful settings) {feed : Feed}
    (idle : ∀ answer, ¬ c.Awaits feed answer) (m : Move) :
    (c.perform m).session.memory.get feed = c.session.memory.get feed := by
  rcases session_perform hl.orderly m with e | ⟨other, answer, -, hw, e⟩ | ⟨-, -, e⟩ | ⟨-, -, e⟩
  · rw [e]
  · have differs : feed ≠ other := by
      rintro rfl
      exact idle answer hw
    rw [e, Session.land_memory, PerFeed.get_set_of_ne _ differs]
  · rw [e, Session.memory_drain]
  · rw [e, Session.memory_reload]

theorem Unheard.perform (hl : c.Lawful settings) (ho : c.Onboards settings s)
    (h : c.Unheard step) (m : Move) : (c.perform m).Unheard step := by
  intro s' shown early
  obtain ⟨reached, follows, onboards⟩ := ho.perform hl m
  obtain rfl : s' = reached := Option.some.inj (shown.symm.trans onboards.screen)
  -- Screens only go forward, so the screen before the move is an earlier one too.
  have before : s.progress < step.screen.progress := Nat.lt_of_le_of_lt follows.progress_le early
  obtain ⟨idle, unknown⟩ := h s ho.screen before
  refine ⟨fun answer awaits => ?_, (memory_perform hl idle m).trans unknown⟩
  rcases awaits_perform awaits with awaited | ⟨-, polled⟩
  · exact idle answer awaited
  · obtain ⟨s₀, hr⟩ := hl.renders
    obtain rfl : s = s₀ := Option.some.inj (ho.screen.symm.trans hr.screen)
    have hidden : step.feed.isShown c.page = false := OnboardingStep.not_isShown_of_early hr before
    exact Bool.false_ne_true (hidden.symm.trans polled)

/-! ## During a step -/

/-- Where the form of a step can be while the page shows the step. -/
structure Proceeds (settings : Settings) (c : Course) (step : OnboardingStep) : Prop where
  /-- A completion that is remembered is on its way. -/
  recorded : c.page.shutdown = false →
    c.session.memory.get step.feed = some Landing.complete → c.Underway step.form
  /-- In the outbox the form of the step is behind those of earlier screens. -/
  newest : c.Waiting step.form →
    ∃ last, c.page.outbox.getLast? = some last ∧ last.form = step.form
  /-- A frame that took the form leads to the next screen. -/
  leads : c.Taken step.form →
    c.session.pending = some (step.screen.successor settings.consensusBuilder)

theorem Proceeds.congr (h : c.Proceeds settings step) (es : c'.session = c.session)
    (eb : c'.batches = c.batches) : c'.Proceeds settings step := by
  obtain ⟨recorded, newest, leads⟩ := h
  constructor <;> simpa only [Underway, Waiting, Taken, page, es, eb]

/-- A loop that learns now that its step is complete submits the form of the step, while the page
shows the step. -/
theorem waiting_of_complete (hr : c.page.Renders c.Sent step.screen) {answer : Answer}
    (e : c'.session = c.session.land step.feed c.watch.now answer)
    (running : c'.page.shutdown = false)
    (learnt : c'.session.memory.get step.feed = some Landing.complete)
    (before : c.session.memory.get step.feed ≠ some Landing.complete) : c'.Waiting step.form := by
  rw [e, Session.land_memory, PerFeed.get_set_self, Option.or_eq_some_iff] at learnt
  rcases learnt with reported | ⟨-, known⟩
  · obtain ⟨report, read, status⟩ := Option.bind_eq_some_iff.1 reported
    have calls : c.called step.feed answer = some step.form :=
      Option.bind_eq_some_iff.2 ⟨report, read,
        (Report.call?_eq_goal_iff step.goal).2 ⟨Answer.feed_of_report? read, status, before⟩⟩
    obtain ⟨-, -, before, outbox⟩ := page_land_of_running e running
    refine ⟨⟨step.form, Screen.formAction⟩, ?_, rfl⟩
    rw [outbox]
    have listed : step.form ∈ step.screen.formNames := OnboardingStep.mem_formNames_iff.2 rfl
    exact List.mem_append_right _ (hr.mem_accepts_iff.2 ⟨calls, rfl, before, listed⟩)
  · exact absurd known before

/-- What a page takes while it shows a step is the form of the step, and stands behind the rest. -/
theorem Proceeds.newest_append (hr : c.page.Renders c.Sent step.screen)
    (h : c.Proceeds settings step) {called : Option String}
    (outbox : c'.page.outbox = c.page.outbox ++ c.page.accepts called)
    (waiting : c'.Waiting step.form) :
    ∃ last, c'.page.outbox.getLast? = some last ∧ last.form = step.form := by
  obtain ⟨x, hx, hform⟩ := waiting
  rw [outbox, List.getLast?_append]
  cases hlast : (c.page.accepts called).getLast? with
  | none =>
    rw [outbox, List.getLast?_eq_none_iff.1 hlast, List.append_nil] at hx
    exact h.newest ⟨x, hx, hform⟩
  | some last =>
    have listed := (hr.mem_accepts_iff.1 (List.mem_of_getLast? hlast)).2.2.2
    rw [step.formNames_screen, List.mem_singleton] at listed
    exact ⟨last, rfl, listed⟩

theorem Waiting.append (h : c.Waiting form) {taken : List Submission}
    (outbox : c'.page.outbox = c.page.outbox ++ taken) : c'.Waiting form := by
  obtain ⟨x, hx, hform⟩ := h
  refine ⟨x, ?_, hform⟩
  rw [outbox]
  exact List.mem_append_left _ hx

theorem not_waiting_of_empty (empty : c.page.outbox = []) : ¬ c.Waiting form := by
  rintro ⟨x, hx, -⟩
  rw [empty] at hx
  cases hx

theorem Proceeds.land (hl : c.Lawful settings) (shown : c.page.screen = some step.screen)
    (h : c.Proceeds settings step) {feed : Feed} {answer : Answer}
    (e : c'.session = c.session.land feed c.watch.now answer) (eb : c'.batches = c.batches) :
    c'.Proceeds settings step := by
  obtain ⟨s, hr⟩ := hl.renders
  obtain rfl : s = step.screen := Option.some.inj (hr.screen.symm.trans shown)
  have pending : c'.session.pending = c.session.pending := by rw [e]; rfl
  have taken : c'.Taken step.form ↔ c.Taken step.form := by rw [Taken, Taken, pending, eb]
  refine ⟨fun running learnt => ?_, fun waiting => ?_,
    fun ht => pending.trans (h.leads (taken.1 ht))⟩
  · obtain ⟨-, -, before, outbox⟩ := page_land_of_running e running
    -- Either the loop knew before, or it learns it from this answer and submits the form.
    by_cases known : c.session.memory.get step.feed = some Landing.complete
    · rcases h.recorded before known with waiting | ht
      · exact .inl (waiting.append outbox)
      · exact .inr (taken.2 ht)
    · have same : feed = step.feed := by
        by_contra differs
        rw [e, Session.land_memory, PerFeed.get_set_of_ne _ (Ne.symm differs)] at learnt
        exact known learnt
      subst same
      exact .inl (waiting_of_complete hr e running learnt known)
  · rcases page_land e with ⟨-, cleared, -⟩ | ⟨-, -, -, -, outbox⟩
    · have empty : c'.page.outbox = [] := by rw [cleared]; rfl
      exact absurd waiting (not_waiting_of_empty empty)
    · exact h.newest_append hr outbox waiting

/-- A frame that finds no form took none, so nothing that was remembered is lost. -/
theorem Proceeds.drain_of_empty (untaken : ¬ c.Taken step.form) (h : c.Proceeds settings step)
    (empty : c.page.outbox = []) (e : c'.session = c.session.drain)
    (eb : c'.batches = c.batches ++ [c.page.outbox]) : c'.Proceeds settings step := by
  have same : c'.session = c.session := e.trans (Session.drain_of_empty empty)
  refine ⟨fun running recorded => ?_, fun waiting => ?_, ?_⟩
  · rw [page, same] at running
    rw [same] at recorded
    rcases h.recorded running recorded with waiting | ht
    · exact absurd waiting (not_waiting_of_empty empty)
    · exact absurd ht untaken
  · rw [Waiting, page, same] at waiting
    exact absurd waiting (not_waiting_of_empty empty)
  · rintro ⟨-, batch, hb, x, hx, -⟩
    rw [eb, List.getLast?_concat] at hb
    obtain rfl := Option.some.inj hb
    rw [empty] at hx
    cases hx

/-- A frame takes the form of the step with all that is in the outbox, and leads where it leads. -/
theorem Proceeds.drain_of_getLast? (hl : c.Lawful settings)
    (shown : c.page.screen = some step.screen) (untaken : ¬ c.Taken step.form)
    (h : c.Proceeds settings step) {latest : Submission}
    (hlast : c.page.outbox.getLast? = some latest) (e : c'.session = c.session.drain)
    (eb : c'.batches = c.batches ++ [c.page.outbox]) : c'.Proceeds settings step := by
  rw [Session.drain_of_getLast? hlast] at e
  have taken : c'.batches.getLast? = some c.page.outbox := by rw [eb, List.getLast?_concat]
  have pending : c'.session.pending =
      some (c.session.settings.screenAfter latest.form c.page.screen) := by
    rw [e]
    rfl
  refine ⟨fun running recorded => ?_, fun waiting => ?_, ?_⟩
  · have shutdown : c'.page.shutdown = c.page.shutdown := by rw [page, e]; rfl
    have memory : c'.session.memory = c.session.memory := by rw [e]
    rcases h.recorded (shutdown ▸ running) (memory ▸ recorded) with waiting | ht
    · exact .inr ⟨by simp [pending], _, taken, waiting⟩
    · exact absurd ht untaken
  · have empty : c'.page.outbox = [] := by rw [page, e]
    exact absurd waiting (not_waiting_of_empty empty)
  · rintro ⟨-, batch, hb, waiting⟩
    obtain rfl := Option.some.inj (taken.symm.trans hb)
    obtain ⟨last, hlast', ends⟩ := h.newest waiting
    obtain rfl := Option.some.inj (hlast.symm.trans hlast')
    rw [pending, ends, shown, hl.settings, step.screenAfter_form]

theorem Proceeds.drain (hl : c.Lawful settings) (shown : c.page.screen = some step.screen)
    (h : c.Proceeds settings step) (stage : c.stage = .apart)
    (e : c'.session = c.session.drain) (eb : c'.batches = c.batches ++ [c.page.outbox]) :
    c'.Proceeds settings step := by
  have untaken : ¬ c.Taken step.form := by
    intro ht
    have other := ht.stage hl
    rw [stage] at other
    cases other
  cases hlast : c.page.outbox.getLast? with
  | none => exact h.drain_of_empty untaken (List.getLast?_eq_none_iff.1 hlast) e eb
  | some latest => exact h.drain_of_getLast? hl shown untaken hlast e eb

/-- A frame that leaves the page on the step had not taken its form. -/
theorem Proceeds.reload (shown : c'.page.screen = some step.screen)
    (h : c.Proceeds settings step) (e : c'.session = c.session.reload)
    (eb : c'.batches = c.batches) : c'.Proceeds settings step := by
  rcases c.session.reload_cases with ⟨-, er⟩ | ⟨next, hn, er⟩
  · exact h.congr (e.trans er) eb
  · rw [er] at e
    have loaded : c'.page = c.page.load next := by rw [page, e, page]
    have outbox : c'.page.outbox = c.page.outbox := by rw [loaded, Page.outbox_load]
    have memory : c'.session.memory = c.session.memory := by rw [e]
    refine ⟨fun running recorded => ?_, fun waiting => ?_, ?_⟩
    · rw [loaded, Page.shutdown_load] at running
      rcases h.recorded running (memory ▸ recorded) with waiting | ht
      · rw [Waiting, ← outbox] at waiting
        exact .inl waiting
      · -- The screen that is loaded would be the one after the step.
        have away : next = step.screen.successor settings.consensusBuilder :=
          Option.some.inj (hn.symm.trans (h.leads ht))
        simp only [loaded, Page.load, running, Bool.false_eq_true, if_false] at shown
        exact absurd (away.symm.trans (Option.some.inj shown)) (step.successor_ne _)
    · rw [Waiting, outbox] at waiting
      rw [outbox]
      exact h.newest waiting
    · rintro ⟨spent, -⟩
      rw [e] at spent
      exact absurd rfl spent

/-- When the page comes to a step, its loop remembers nothing yet, and what is in the outbox is from
the screen before. -/
theorem proceeds_of_arrival (hl : c.Lawful settings) (ho : c.Onboards settings s)
    (unheard : c.Unheard step) (other : s ≠ step.screen) (shown : c'.page.screen = some step.screen)
    (e : c'.session = c.session.reload) : c'.Proceeds settings step := by
  obtain ⟨s₀, hr⟩ := hl.renders
  obtain ⟨s', follows, onboards, -⟩ := ho.reload hr.outbox e
  obtain rfl : s' = step.screen := Option.some.inj (onboards.screen.symm.trans shown)
  rcases c.session.reload_cases with ⟨-, er⟩ | ⟨next, hn, er⟩
  · rw [page, e, er] at shown
    exact absurd (Option.some.inj (ho.screen.symm.trans shown)) other
  · have early := follows.progress_lt (Ne.symm other)
    rw [er] at e
    have outbox : c'.page.outbox = c.page.outbox := by rw [page, e]; exact Page.outbox_load _ _
    refine ⟨fun _ recorded => ?_, ?_, ?_⟩
    · rw [e] at recorded
      rw [(unheard s ho.screen early).2] at recorded
      cases recorded
    · rintro ⟨x, hx, hform⟩
      rw [outbox] at hx
      have listed : x.form ∈ s.formNames := ho.fresh (by simp [hn]) x hx
      rw [hform, OnboardingStep.mem_formNames_iff] at listed
      exact absurd listed other
    · rintro ⟨spent, -⟩
      rw [e] at spent
      exact absurd rfl spent

/-! ## All courses -/

/-- What holds of a step at every moment of a course. -/
structure Guided (settings : Settings) (c : Course) (step : OnboardingStep) : Prop where
  onboards : ∃ s, c.Onboards settings s
  unheard : c.Unheard step
  proceeds : c.page.screen = some step.screen → c.Proceeds settings step

theorem Guided.perform (hl : c.Lawful settings) (h : c.Guided settings step) (m : Move) :
    (c.perform m).Guided settings step := by
  obtain ⟨s, ho⟩ := h.onboards
  obtain ⟨s', -, ho'⟩ := ho.perform hl m
  refine ⟨⟨s', ho'⟩, h.unheard.perform hl ho m, fun shown => ?_⟩
  have aside : (c.perform m).session = c.session → (c.perform m).batches = c.batches →
      (c.perform m).Proceeds settings step := fun es eb =>
    (h.proceeds (by rwa [page, es] at shown)).congr es eb
  cases c.turn hl.orderly m with
  | aside e => exact aside (congrArg Account.session e) (congrArg Account.batches e)
  | post index s hm found e => exact aside (congrArg Account.session e) (congrArg Account.batches e)
  | request feed hm hs loop e =>
    exact aside (congrArg Account.session e) (congrArg Account.batches e)
  | land feed answer hm hw e =>
    have es := congrArg Account.session e
    have before : c.page.screen = some step.screen := (screen_land es).symm.trans shown
    exact (h.proceeds before).land hl before es (congrArg Account.batches e)
  | drain hm hs e =>
    have es : (c.perform m).session = c.session.drain := congrArg Account.session e
    have before : c.page.screen = some step.screen := by
      rw [page, es] at shown
      exact (c.session.screen_drain).symm.trans shown
    exact (h.proceeds before).drain hl before hs es (congrArg Account.batches e)
  | reload hm hs e =>
    have es := congrArg Account.session e
    by_cases there : s = step.screen
    · have before : c.page.screen = some step.screen := ho.screen.trans (congrArg some there)
      exact (h.proceeds before).reload shown es (congrArg Account.batches e)
    · exact proceeds_of_arrival hl ho h.unheard there shown es
  | draw hm hs e => exact aside (congrArg Account.session e) (congrArg Account.batches e)

theorem Guided.run (hl : c.Lawful settings) (h : c.Guided settings step) (moves : List Move) :
    (c.run moves).Guided settings step :=
  hl.run_invariant (Guided settings · step) (fun _ m hd h => h.perform hd m) h moves

theorem guided_run (settings : Settings) (store : Store) (script : Script) (now : Int)
    (moves : List Move) (step : OnboardingStep) :
    ((start settings store script now).run moves).Guided settings step := by
  have unheard : (start settings store script now).Unheard step := by
    intro s _ _
    refine ⟨?_, PerFeed.get_const none step.feed⟩
    rintro answer ⟨arrival, awaiting⟩
    rw [show (start settings store script now).watch.loops = .const .idle from rfl,
      PerFeed.get_const] at awaiting
    cases awaiting
  have proceeds : (start settings store script now).Proceeds settings step := by
    refine ⟨fun _ recorded => ?_, ?_, ?_⟩
    · rw [show (start settings store script now).session.memory = .const none from rfl,
        PerFeed.get_const] at recorded
      cases recorded
    · rintro ⟨x, hx, -⟩
      cases hx
    · rintro ⟨pending, -⟩
      exact absurd rfl pending
  exact Guided.run (lawful_start settings store script now)
    ⟨⟨_, onboards_start settings store script now⟩, unheard, fun _ => proceeds⟩ moves

/-! ## The next frame -/

/-- The moves `before` lead to the beginning of the next frame, and `between` are made when it has
taken forms and has not loaded what follows; all the while the page is not shut down. -/
structure NextFrame (c : Course) (before between : List Move) : Prop where
  first : ∀ m ∈ before, m ≠ .drain
  begins : (c.run before).stage = .apart
  pauses : ∀ m ∈ between, m ≠ .reload
  running : (((c.run before).perform .drain).run between).page.shutdown = false

/-- There can be a next frame, and whatever happens until it begins and during it, it comes to a
screen unless the page is shut down meanwhile. -/
def FrameLeadsTo (c : Course) (next : Screen) : Prop :=
  (∃ before between, c.NextFrame before between) ∧
    ∀ before between, c.NextFrame before between →
      ((((c.run before).perform .drain).run between).perform .reload).page.screen = some next

/-- The moves that finish a frame. -/
def remainder : Stage → List Move
  | .apart => []
  | .taken => [.reload, .draw]
  | .loaded => [.draw]

theorem Lawful.running_of_run (hl : c.Lawful settings) {moves : List Move}
    (h : (c.run moves).page.shutdown = false) : c.page.shutdown = false := by
  cases hs : c.page.shutdown with
  | false => rfl
  | true =>
    rw [(hl.closed_run hs moves).1] at h
    cases h

/-- A frame that is being made can be finished, and the next one made without anything between. -/
theorem nextFrame_remainder (running : c.page.shutdown = false) :
    c.NextFrame (remainder c.stage) [] := by
  have drained : ∀ d : Course, d.stage = .apart →
      (d.perform .drain).page.shutdown = d.page.shutdown := by
    intro d stage
    rw [page, (session_perform_drain stage).1, Session.shutdown_drain, ← page]
  cases stage : c.stage with
  | apart =>
    exact ⟨by simp [remainder], stage, by simp, (drained c stage).trans running⟩
  | taken =>
    have begins : (c.run (remainder .taken)).stage = .apart := by simp [remainder, perform, stage]
    have kept : (c.run (remainder .taken)).page.shutdown = c.page.shutdown := by
      have loaded : (c.run (remainder .taken)).page = c.session.reload.page := by
        simp only [remainder, run_cons, run_nil, perform, stage, if_true]
        rfl
      rw [loaded, Session.shutdown_reload, ← page]
    exact ⟨by simp [remainder], begins, by simp, (drained _ begins).trans (kept.trans running)⟩
  | loaded =>
    have begins : (c.run (remainder .loaded)).stage = .apart := by simp [remainder, perform, stage]
    have kept : (c.run (remainder .loaded)).page = c.page := by
      simp only [remainder, run_cons, run_nil, perform, stage, if_true]
      rfl
    exact ⟨by simp [remainder], begins, by simp, (drained _ begins).trans (kept ▸ running)⟩

/-- The form of the step that the page shows waits for a frame. -/
structure Awaited (c : Course) (step : OnboardingStep) : Prop where
  pending : c.session.pending = none
  screen : c.page.screen = some step.screen
  waiting : c.page.shutdown = false → c.Waiting step.form

/-- Only a frame that takes forms ends the wait. -/
theorem Awaited.perform (hl : c.Lawful settings) (h : c.Awaited step) {m : Move}
    (hm : m ≠ .drain) : (c.perform m).Awaited step := by
  obtain ⟨pending, screen, waiting⟩ := h
  rcases session_perform hl.orderly m with e | ⟨feed, answer, -, -, e⟩ | ⟨drain, -, -⟩ | ⟨-, -, e⟩
  · constructor <;> simpa only [Waiting, page, e]
  · have idle : (c.perform m).session.pending = none := by
      rw [e]
      exact pending
    refine ⟨idle, (screen_land e).trans screen, fun running => ?_⟩
    obtain ⟨-, -, before, outbox⟩ := page_land_of_running e running
    exact (waiting before).append outbox
  · exact absurd drain hm
  · have same : (c.perform m).session = c.session := e.trans (Session.reload_of_idle pending)
    constructor <;> simpa only [Waiting, page, same]

/-- A frame that took forms comes to the screen that they lead to. -/
theorem Lawful.loads_pending (hl : c.Lawful settings) (taken : c.stage = .taken) {next : Screen}
    (pending : c.session.pending = some next) {between : List Move}
    (hb : ∀ m ∈ between, m ≠ .reload) (running : (c.run between).page.shutdown = false) :
    ((c.run between).perform .reload).page.screen = some next := by
  have kept : (c.run between).stage = .taken ∧ (c.run between).session.pending = some next := by
    refine hl.run_while (P := fun d => d.stage = .taken ∧ d.session.pending = some next)
      (fun d m hd hm h => ?_) ⟨taken, pending⟩ hb
    obtain ⟨stage, same⟩ := taken_perform hd.orderly h.1 hm
    exact ⟨stage, same.trans h.2⟩
  rw [page, session_perform_reload kept.1, Session.reload_of_pending kept.2]
  simp only [Page.load, show (c.run between).session.page.shutdown = false from running]
  rfl

theorem Awaited.frameLeadsTo (hl : c.Lawful settings) (hg : c.Guided settings step)
    (h : c.Awaited step) (running : c.page.shutdown = false) :
    c.FrameLeadsTo (step.screen.successor settings.consensusBuilder) := by
  refine ⟨⟨_, _, nextFrame_remainder running⟩, ?_⟩
  rintro before between ⟨hb, begins, hr, last⟩
  have hd : (c.run before).Lawful settings := hl.run before
  have awaited : (c.run before).Awaited step :=
    hl.run_while (P := (Awaited · step)) (fun _ _ hd hm h => h.perform hd hm) h hb
  have ended : ((c.run before).run (.drain :: between)).page.shutdown = false := last
  have proceeds := (hg.run hl before).proceeds awaited.screen
  obtain ⟨latest, hlast, ends⟩ := proceeds.newest (awaited.waiting (hd.running_of_run ended))
  obtain ⟨drained, taken⟩ := session_perform_drain begins
  refine (hd.perform .drain).loads_pending taken ?_ hr last
  rw [drained, Session.drain_of_getLast? hlast, ← step.screenAfter_form, ← ends,
    ← awaited.screen, ← hd.settings]
  rfl

/-- While the page shows a step whose loop remembers that it is complete, the form of the step is on
its way; and if no frame has taken it, the next one leads onwards. -/
theorem Guided.underway (hl : c.Lawful settings) (hg : c.Guided settings step)
    (running : c.page.shutdown = false) (shown : c.page.screen = some step.screen)
    (complete : c.session.memory.get step.feed = some Landing.complete) :
    c.Underway step.form ∧ (c.session.pending = none →
      c.FrameLeadsTo (step.screen.successor settings.consensusBuilder)) := by
  have underway : c.Underway step.form := (hg.proceeds shown).recorded running complete
  refine ⟨underway, fun pending => ?_⟩
  rcases underway with waiting | ⟨taken, -⟩
  · exact Awaited.frameLeadsTo hl hg ⟨pending, shown, fun _ => waiting⟩ running
  · exact absurd pending taken

/-- **Onboarding is never stuck.** At every moment of a course that is not shut down: if the page
shows bootstrapping and its loop remembers that it is complete, the form that ends it is in the
outbox or in a batch that a frame took, with the screen that follows pending; and so for the building
of the consensus. If no screen is pending, the next frame leaves bootstrapping for the screen that
the settings name, and the building of the consensus for the wallet. -/
theorem onboarding_never_stuck (settings : Settings) (store : Store) (script : Script) (now : Int)
    (moves : List Move)
    (running : ((start settings store script now).run moves).page.shutdown = false) :
    let c := (start settings store script now).run moves
    (c.page.screen = some .bootstrapper →
      c.session.memory.get .bootstrapper = some Landing.complete →
        c.Underway FormName.refreshBootstrapper ∧
        (c.session.pending = none →
          c.FrameLeadsTo (if settings.consensusBuilder then .consensusBuilder else .wallet true))) ∧
    (c.page.screen = some .consensusBuilder →
      c.session.memory.get .consensusBuilder = some Landing.complete →
        c.Underway FormName.refreshConsensusBuilder ∧
        (c.session.pending = none → c.FrameLeadsTo (.wallet true))) := by
  intro c
  have hl : c.Lawful settings := lawful_run settings store script now moves
  have guided : ∀ step, c.Guided settings step := guided_run settings store script now moves
  exact ⟨Guided.underway hl (guided .bootstrapping) running,
    Guided.underway hl (guided .consensusBuilding) running⟩

/-- Bootstrapping is reported as complete a second time between the moment at which a frame takes its
form and the one at which it loads the building of the consensus. The form that is left over from
this does not keep the next frame from reaching the wallet. -/
theorem onboarding_never_stuck_with_leftover :
    let script : Script := ⟨((PerFeed.const []).set .bootstrapper
      [⟨.ok ["100%"], 0⟩, ⟨.ok ["50%"], 0⟩, ⟨.ok ["100%"], 0⟩]).set .consensusBuilder
      [⟨.ok ["100%"], 0⟩], fun _ _ => ⟨none, 0⟩⟩
    let c := (start .default .empty script 0).run
      [.chore .startPolling, .chore (.beginLoop .bootstrapper), .chore (.beginLoop .consensusBuilder),
        .tick .bootstrapper, .land .bootstrapper, .drain,
        .tick .bootstrapper, .land .bootstrapper, .tick .bootstrapper, .land .bootstrapper,
        .reload, .draw, .tick .consensusBuilder, .land .consensusBuilder]
    (c.page.shutdown = false ∧ c.page.screen = some .consensusBuilder ∧
      c.session.memory.get .consensusBuilder = some Landing.complete ∧
      c.page.outbox.map Submission.form =
        [FormName.refreshBootstrapper, FormName.refreshConsensusBuilder]) ∧
    c.Underway FormName.refreshConsensusBuilder ∧
    ((c.perform .drain).perform .reload).page.screen = some (.wallet true) := by
  intro script c
  have running : c.page.shutdown = false := by decide +kernel
  have shown : c.page.screen = some .consensusBuilder := by decide +kernel
  have complete : c.session.memory.get .consensusBuilder = some Landing.complete := by decide +kernel
  obtain ⟨underway, leads⟩ :=
    (onboarding_never_stuck .default .empty script 0 _ running).2 shown complete
  refine ⟨⟨running, shown, complete, by decide +kernel⟩, underway, ?_⟩
  have pending : c.session.pending = none := by decide +kernel
  have next : c.NextFrame [] [] := by
    refine ⟨by simp, by decide +kernel, by simp, ?_⟩
    simp only [run_nil]
    decide +kernel
  have reached := (leads pending).2 [] [] next
  simp only [run_nil] at reached
  exact reached

end Course

end WalletWatch
