import WalletWatch.Proofs.Course.Turn
import WalletWatch.Proofs.Poll.Landing
/-!
# The state of a course

What holds at every moment of a course, whatever its moves. A move changes what loops and frames
share in one of three ways or not at all (`session_perform`), so a law of the shared state is proved
for these three. In this way the page always shows its screen, a screen is pending only while a frame
is between taking the forms and loading it, and each loop remembers the status of the last report it
received (`Lawful`, `lawful_run`).
-/

namespace WalletWatch

namespace Page

@[simp] theorem outbox_load (p : Page) (s : Screen) : (p.load s).outbox = p.outbox := by
  unfold load
  split <;> rfl

@[simp] theorem shutdown_load (p : Page) (s : Screen) : (p.load s).shutdown = p.shutdown := by
  unfold load
  split <;> rfl

/-- A page that is shut down does not load any screen. -/
theorem load_of_shutdown {p : Page} (h : p.shutdown = true) (s : Screen) : p.load s = p := by
  simp [load, h]

end Page

namespace Session

theorem land_page (s : Session) (feed : Feed) (now : Int) (answer : Answer) :
    (s.land feed now answer).page =
      (Landing.ofAnswer feed now (s.memory.get feed) s.page answer).page := rfl

theorem land_memory (s : Session) (feed : Feed) (now : Int) (answer : Answer) :
    (s.land feed now answer).memory = s.memory.set feed
      (((Answer.report? feed answer).bind Report.status?).or (s.memory.get feed)) := by
  rw [← Landing.memory_ofAnswer feed now (s.memory.get feed) s.page answer]
  rfl

theorem drain_of_empty {s : Session} (h : s.page.outbox = []) : s.drain = s := by
  simp only [drain, screenAfterOutbox, h, List.getLast?_nil, Option.map_none]

theorem drain_of_getLast? {s : Session} {last : Submission}
    (h : s.page.outbox.getLast? = some last) :
    s.drain = { s with
      page := { s.page with outbox := [] }
      pending := some (s.settings.screenAfter last.form s.page.screen) } := by
  simp only [drain, screenAfterOutbox, h, Option.map_some]
  rfl

theorem reload_of_idle {s : Session} (h : s.pending = none) : s.reload = s := by
  simp only [reload, h]

theorem reload_of_pending {s : Session} {next : Screen} (h : s.pending = some next) :
    s.reload = { s with page := s.page.load next, pending := none } := by
  simp only [reload, h]

/-- Taking no forms changes nothing; otherwise the last form settles the screen that follows. -/
theorem drain_cases (s : Session) :
    (s.page.outbox = [] ∧ s.drain = s) ∨
    (∃ last, last ∈ s.page.outbox ∧ s.drain = { s with
      page := { s.page with outbox := [] }
      pending := some (s.settings.screenAfter last.form s.page.screen) }) := by
  cases h : s.page.outbox.getLast? with
  | none =>
    have empty := List.getLast?_eq_none_iff.1 h
    exact .inl ⟨empty, drain_of_empty empty⟩
  | some last => exact .inr ⟨last, List.mem_of_getLast? h, drain_of_getLast? h⟩

/-- No screen is loaded if none is pending. -/
theorem reload_cases (s : Session) :
    (s.pending = none ∧ s.reload = s) ∨
    (∃ next, s.pending = some next ∧
      s.reload = { s with page := s.page.load next, pending := none }) := by
  cases h : s.pending with
  | none => exact .inl ⟨rfl, reload_of_idle h⟩
  | some next => exact .inr ⟨next, rfl, reload_of_pending h⟩

theorem memory_drain (s : Session) : s.drain.memory = s.memory := by
  rcases s.drain_cases with ⟨-, e⟩ | ⟨last, -, e⟩ <;> rw [e]

theorem memory_reload (s : Session) : s.reload.memory = s.memory := by
  rcases s.reload_cases with ⟨-, e⟩ | ⟨next, -, e⟩ <;> rw [e]

theorem shutdown_drain (s : Session) : s.drain.page.shutdown = s.page.shutdown := by
  rcases s.drain_cases with ⟨-, e⟩ | ⟨last, -, e⟩ <;> rw [e]

theorem screen_drain (s : Session) : s.drain.page.screen = s.page.screen := by
  rcases s.drain_cases with ⟨-, e⟩ | ⟨last, -, e⟩ <;> rw [e]

/-- Loading a screen takes no form away. -/
theorem outbox_reload (s : Session) : s.reload.page.outbox = s.page.outbox := by
  rcases s.reload_cases with ⟨-, e⟩ | ⟨next, -, e⟩ <;> rw [e]
  exact s.page.outbox_load next

theorem shutdown_reload (s : Session) : s.reload.page.shutdown = s.page.shutdown := by
  rcases s.reload_cases with ⟨-, e⟩ | ⟨next, -, e⟩ <;> rw [e]
  exact s.page.shutdown_load next

end Session

namespace Course

variable {c : Course}

/-- The reports that a feed sent, in the order in which they landed. -/
def reports (c : Course) (feed : Feed) : List Report :=
  c.landed.filterMap fun landed =>
    if landed.1 = feed then Answer.report? feed landed.2 else none

/-- The status in the last report of a feed, of those that have one. -/
def lastStatus (c : Course) (feed : Feed) : Option String :=
  ((c.reports feed).filterMap Report.status?).getLast?

/-- Whether a colour was sent in a report on the height. -/
def Sent (c : Course) (tag : String) : Prop :=
  ∃ r, .blockHeight r ∈ c.reports .blockHeight ∧ r.tag = tag

/-- The form that an answer calls for when it lands now. -/
def called (c : Course) (feed : Feed) (answer : Answer) : Option String :=
  Answer.call? feed (c.session.memory.get feed) c.page answer

/-- Whether an answer ends its loop when it lands now. -/
def Stops (c : Course) (feed : Feed) (answer : Answer) : Prop :=
  (c.session.landing feed c.watch.now answer).next = .stop

/-! ## What a move does to the shared state -/

/-- A move leaves the shared state as it is, or an answer lands, or the forms are taken, or the
screen that follows is loaded. -/
theorem session_perform (ho : c.watch.Orderly) (m : Move) :
    (c.perform m).session = c.session ∨
    (∃ feed answer, m = .land feed ∧ c.Awaits feed answer ∧
      (c.perform m).session = c.session.land feed c.watch.now answer) ∨
    (m = .drain ∧ c.stage = .apart ∧ (c.perform m).session = c.session.drain) ∨
    (m = .reload ∧ c.stage = .taken ∧ (c.perform m).session = c.session.reload) := by
  cases c.turn ho m with
  | aside e => exact .inl (congrArg Account.session e)
  | post index s hm found e => exact .inl (congrArg Account.session e)
  | request feed hm shown loop e => exact .inl (congrArg Account.session e)
  | land feed answer hm hw e =>
    exact .inr (.inl ⟨feed, answer, hm, hw, congrArg Account.session e⟩)
  | drain hm hs e => exact .inr (.inr (.inl ⟨hm, hs, congrArg Account.session e⟩))
  | reload hm hs e => exact .inr (.inr (.inr ⟨hm, hs, congrArg Account.session e⟩))
  | draw hm hs e => exact .inl (congrArg Account.session e)

theorem session_perform_land {feed : Feed} {answer : Answer} (hw : c.Awaits feed answer) :
    (c.perform (.land feed)).session = c.session.land feed c.watch.now answer := by
  obtain ⟨arrival, hw⟩ := hw
  rw [perform_land_of_awaiting hw]
  exact Watch.session_land c.watch feed answer

theorem session_perform_drain (stage : c.stage = .apart) :
    (c.perform .drain).session = c.session.drain ∧ (c.perform .drain).stage = .taken := by
  simp only [perform, stage, if_true]
  exact ⟨rfl, trivial⟩

theorem session_perform_reload (stage : c.stage = .taken) :
    (c.perform .reload).session = c.session.reload := by
  simp only [perform, stage, if_true]
  rfl

/-- What lands clears the page, or puts the form that it calls for behind the others. -/
theorem page_land {c' : Course} {feed : Feed} {answer : Answer}
    (e : c'.session = c.session.land feed c.watch.now answer) :
    (c.Stops feed answer ∧ c'.page = c.page.shutDown.touch c.watch.now ∧
      c.called feed answer = none) ∨
    (¬ c.Stops feed answer ∧ c'.page.screen = c.page.screen ∧ c'.page.forms = c.page.forms ∧
      c'.page.shutdown = c.page.shutdown ∧
      c'.page.outbox = c.page.outbox ++ c.page.accepts (c.called feed answer)) := by
  have landed : c'.page = (c.session.landing feed c.watch.now answer).page := by rw [page, e]; rfl
  rw [landed]
  cases Landing.effect_ofAnswer feed c.watch.now (c.session.memory.get feed) c.page answer with
  | ended next cleared quiet uncalled => exact .inl ⟨next, cleared, uncalled⟩
  | landed next screen forms shutdown outbox =>
    exact .inr ⟨next, screen, forms, shutdown, outbox⟩

theorem screen_land {c' : Course} {feed : Feed} {answer : Answer}
    (e : c'.session = c.session.land feed c.watch.now answer) :
    c'.page.screen = c.page.screen := by
  rcases page_land e with ⟨-, cleared, -⟩ | ⟨-, screen, -⟩
  · rw [cleared]
    rfl
  · exact screen

/-- What lands and does not end the page leaves screen and forms alone. -/
theorem page_land_of_running {c' : Course} {feed : Feed} {answer : Answer}
    (e : c'.session = c.session.land feed c.watch.now answer)
    (running : c'.page.shutdown = false) :
    ¬ c.Stops feed answer ∧ c'.page.screen = c.page.screen ∧ c.page.shutdown = false ∧
      c'.page.outbox = c.page.outbox ++ c.page.accepts (c.called feed answer) := by
  rcases page_land e with ⟨-, cleared, -⟩ | ⟨goes, screen, -, shutdown, outbox⟩
  · rw [cleared] at running
    cases running
  · exact ⟨goes, screen, shutdown ▸ running, outbox⟩

/-- A landing adds its answer to those that landed, and nothing else does. -/
theorem landed_perform (ho : c.watch.Orderly) (m : Move) :
    (c.perform m).landed = c.landed ∨
    (∃ feed answer, m = .land feed ∧ c.Awaits feed answer ∧
      (c.perform m).landed = c.landed ++ [(feed, answer)]) := by
  cases c.turn ho m with
  | aside e => exact .inl (congrArg Account.landed e)
  | post index s hm found e => exact .inl (congrArg Account.landed e)
  | request feed hm shown loop e => exact .inl (congrArg Account.landed e)
  | land feed answer hm hw e => exact .inr ⟨feed, answer, hm, hw, congrArg Account.landed e⟩
  | drain hm hs e => exact .inl (congrArg Account.landed e)
  | reload hm hs e => exact .inl (congrArg Account.landed e)
  | draw hm hs e => exact .inl (congrArg Account.landed e)

/-- The report that lands is the last of its feed. -/
theorem reports_land {feed : Feed} {answer : Answer} (hw : c.Awaits feed answer) (other : Feed) :
    (c.perform (.land feed)).reports other =
      c.reports other ++ if feed = other then (Answer.report? feed answer).toList else [] := by
  obtain ⟨arrival, hw⟩ := hw
  simp only [perform_land_of_awaiting hw, reports, List.filterMap_append, List.filterMap_cons,
    List.filterMap_nil]
  by_cases hf : feed = other
  · simp only [hf, if_true]
    cases Answer.report? other answer <;> rfl
  · simp only [hf, if_false]

theorem settings_perform (ho : c.watch.Orderly) (m : Move) :
    (c.perform m).session.settings = c.session.settings := by
  rcases session_perform ho m with e | ⟨feed, answer, -, -, e⟩ | ⟨-, -, e⟩ | ⟨-, -, e⟩
  · rw [e]
  · rw [e]
    rfl
  · rw [e]
    rcases c.session.drain_cases with ⟨-, e⟩ | ⟨last, -, e⟩ <;> rw [e]
  · rw [e]
    rcases c.session.reload_cases with ⟨-, e⟩ | ⟨next, -, e⟩ <;> rw [e]

/-! ## Frames -/

/-- A screen is pending only between the taking of forms and the loading of what follows. -/
def Framed (c : Course) : Prop :=
  c.session.pending ≠ none → c.stage = .taken

/-- What a move does to the frame that is being made, and to the screen that is pending. -/
theorem frame_perform (ho : c.watch.Orderly) (m : Move) :
    ((c.perform m).stage = c.stage ∧ (c.perform m).session.pending = c.session.pending) ∨
    (m = .drain ∧ c.stage = .apart ∧ (c.perform m).stage = .taken) ∨
    (m = .reload ∧ c.stage = .taken ∧ (c.perform m).session = c.session.reload) ∨
    (m = .draw ∧ c.stage = .loaded ∧ (c.perform m).session.pending = c.session.pending) := by
  cases c.turn ho m with
  | aside e => exact .inl ⟨congrArg Account.stage e, congrArg (·.session.pending) e⟩
  | post index s hm found e =>
    exact .inl ⟨congrArg Account.stage e, congrArg (·.session.pending) e⟩
  | request feed hm shown loop e =>
    exact .inl ⟨congrArg Account.stage e, congrArg (·.session.pending) e⟩
  | land feed answer hm hw e =>
    exact .inl ⟨congrArg Account.stage e, congrArg (·.session.pending) e⟩
  | drain hm hs e => exact .inr (.inl ⟨hm, hs, congrArg Account.stage e⟩)
  | reload hm hs e => exact .inr (.inr (.inl ⟨hm, hs, congrArg Account.session e⟩))
  | draw hm hs e => exact .inr (.inr (.inr ⟨hm, hs, congrArg (·.session.pending) e⟩))

theorem framed_perform (ho : c.watch.Orderly) (h : c.Framed) (m : Move) :
    (c.perform m).Framed := by
  intro pending
  rcases frame_perform ho m with ⟨stage, same⟩ | ⟨-, -, taken⟩ | ⟨-, -, e⟩ | ⟨-, loaded, same⟩
  · exact stage.trans (h (same ▸ pending))
  · exact taken
  · rw [e] at pending
    rcases c.session.reload_cases with ⟨idle, er⟩ | ⟨next, -, er⟩
    · rw [er] at pending
      exact absurd idle pending
    · rw [er] at pending
      exact absurd rfl pending
  · have taken := h (same ▸ pending)
    rw [loaded] at taken
    cases taken

/-- A frame that took the forms goes on when it loads what follows, and keeps it pending until
then. -/
theorem taken_perform (ho : c.watch.Orderly) (taken : c.stage = .taken) {m : Move}
    (hm : m ≠ .reload) :
    (c.perform m).stage = .taken ∧ (c.perform m).session.pending = c.session.pending := by
  rcases frame_perform ho m with ⟨stage, same⟩ | ⟨-, other, -⟩ | ⟨reload, -, -⟩ | ⟨-, other, -⟩
  · exact ⟨stage.trans taken, same⟩
  · rw [taken] at other
    cases other
  · exact absurd reload hm
  · rw [taken] at other
    cases other

/-! ## The page -/

theorem sent_perform (ho : c.watch.Orderly) {tag : String} (h : c.Sent tag) (m : Move) :
    (c.perform m).Sent tag := by
  obtain ⟨r, hr, rfl⟩ := h
  refine ⟨r, ?_, rfl⟩
  rcases landed_perform ho m with e | ⟨feed, answer, -, -, e⟩
  · rwa [reports, e]
  · rw [reports, e, List.filterMap_append]
    exact List.mem_append_left _ hr

/-- The colour of a report was sent when the report has landed. -/
theorem sent_land {answer : Answer} {r : HeightReport} (hw : c.Awaits .blockHeight answer)
    (hr : Answer.report? .blockHeight answer = some (.blockHeight r)) :
    (c.perform (.land .blockHeight)).Sent r.tag := by
  refine ⟨r, ?_, rfl⟩
  simp [reports_land hw, hr]

/-- The page shows its screen after a move if it did before. -/
theorem renders_perform (ho : c.watch.Orderly) {s : Screen} (h : c.page.Renders c.Sent s)
    (m : Move) : ∃ s', (c.perform m).page.Renders (c.perform m).Sent s' := by
  have grown : c.page.Renders (c.perform m).Sent s := h.mono fun _ ht => sent_perform ho ht m
  rcases session_perform ho m with e | ⟨feed, answer, rfl, hw, e⟩ | ⟨-, -, e⟩ | ⟨-, -, e⟩
  · exact ⟨s, by rwa [page, e]⟩
  · refine ⟨s, ?_⟩
    rw [page, e, Session.land_page]
    refine grown.ofAnswer feed c.watch.now _ fun r hr => ?_
    obtain rfl : Feed.blockHeight = feed := Answer.feed_of_report? hr
    exact sent_land hw hr
  · refine ⟨s, ?_⟩
    rcases c.session.drain_cases with ⟨-, ed⟩ | ⟨last, -, ed⟩
    · rwa [page, e, ed]
    · rw [page, e, ed]
      exact grown.setOutbox fun _ => rfl
  · rcases c.session.reload_cases with ⟨-, er⟩ | ⟨next, -, er⟩
    · exact ⟨s, by rwa [page, e, er]⟩
    · refine ⟨if c.page.shutdown then s else next, ?_⟩
      have loaded : (c.perform m).page = c.page.load next := by rw [page, e, er, page]
      rw [loaded]
      exact grown.load next

/-! ## What loops remember -/

/-- A loop remembers the status of the last report that it received. -/
def Remembers (c : Course) : Prop :=
  ∀ feed, c.session.memory.get feed = c.lastStatus feed

theorem lastStatus_land {feed : Feed} {answer : Answer} (hw : c.Awaits feed answer)
    (other : Feed) :
    (c.perform (.land feed)).lastStatus other =
      if feed = other then
        ((Answer.report? feed answer).bind Report.status?).or (c.lastStatus other)
      else c.lastStatus other := by
  rw [lastStatus, lastStatus, reports_land hw]
  split
  · rw [List.filterMap_append, List.getLast?_append]
    cases Answer.report? feed answer with
    | none => rfl
    | some report => cases hs : report.status? <;> simp [hs]
  · rw [List.append_nil]

theorem remembers_perform (ho : c.watch.Orderly) (h : c.Remembers) (m : Move) :
    (c.perform m).Remembers := by
  intro other
  rcases landed_perform ho m with e | ⟨feed, answer, rfl, hw, -⟩
  · rw [lastStatus, reports, e]
    refine Eq.trans ?_ (h other)
    rcases session_perform ho m with es | ⟨feed, answer, rfl, ⟨arrival, hw⟩, -⟩ | ⟨-, -, es⟩ |
      ⟨-, -, es⟩
    · rw [es]
    · simp [perform_land_of_awaiting hw] at e
    · rw [es, Session.memory_drain]
    · rw [es, Session.memory_reload]
  · rw [lastStatus_land hw other]
    obtain ⟨arrival, hw⟩ := hw
    simp only [session, perform_land_of_awaiting hw, Watch.session_land, Session.land_memory]
    by_cases hf : feed = other
    · subst hf
      simp only [PerFeed.get_set_self, if_true]
      exact congrArg _ (h feed)
    · simp only [hf, if_false, PerFeed.get_set_of_ne _ (Ne.symm hf)]
      exact h other

/-! ## All courses -/

/-- What holds at every moment of a course of a watch with some settings. -/
structure Lawful (settings : Settings) (c : Course) : Prop where
  settings : c.session.settings = settings
  orderly : c.watch.Orderly
  framed : c.Framed
  renders : ∃ s, c.page.Renders c.Sent s
  remembers : c.Remembers

theorem Lawful.perform {settings : Settings} (h : c.Lawful settings) (m : Move) :
    (c.perform m).Lawful settings where
  settings := (settings_perform h.orderly m).trans h.settings
  orderly := orderly_perform h.orderly m
  framed := framed_perform h.orderly h.framed m
  renders := by
    obtain ⟨s, hs⟩ := h.renders
    exact renders_perform h.orderly hs m
  remembers := remembers_perform h.orderly h.remembers m

theorem Lawful.run {settings : Settings} (h : c.Lawful settings) (moves : List Move) :
    (c.run moves).Lawful settings :=
  run_invariant (Lawful settings) (fun _ m h => h.perform m) h moves

variable (settings : Settings) (store : Store) (script : Script) (now : Int)

theorem lawful_start : (start settings store script now).Lawful settings where
  settings := rfl
  orderly := ⟨fun _ feed => PerFeed.get_const _ feed, by simp [start, ofWatch, Watch.ofSettings]⟩
  framed := fun h => absurd rfl h
  renders := ⟨settings.startScreen, Page.renders_ofScreen _ settings.startScreen⟩
  remembers := fun feed => PerFeed.get_const none feed

theorem lawful_run (moves : List Move) :
    ((start settings store script now).run moves).Lawful settings :=
  (lawful_start settings store script now).run moves

variable {settings}

/-- What holds at some moment of a course and survives every move of some sort holds as long as only
such moves are made. -/
theorem Lawful.run_while {P : Course → Prop} {sort : Move → Prop}
    (keep : ∀ c m, c.Lawful settings → sort m → P c → P (c.perform m)) (h : c.Lawful settings)
    (first : P c) {moves : List Move} (hm : ∀ m ∈ moves, sort m) : P (c.run moves) := by
  induction moves generalizing c with
  | nil => exact first
  | cons m moves ih =>
    have kept : P (c.perform m) := keep c m h (hm m List.mem_cons_self) first
    exact ih (h.perform m) kept fun m' hm' => hm m' (List.mem_cons_of_mem m hm')

/-- What holds at some moment of a course and survives every lawful move holds from then on. -/
theorem Lawful.run_invariant (P : Course → Prop)
    (keep : ∀ c m, c.Lawful settings → P c → P (c.perform m)) (h : c.Lawful settings) (first : P c)
    (moves : List Move) : P (c.run moves) :=
  h.run_while (fun c m hl _ => keep c m hl) first (fun _ _ => trivial)

end Course

end WalletWatch
