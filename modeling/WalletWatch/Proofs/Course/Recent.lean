import Mathlib.Data.List.Induction
import WalletWatch.Proofs.Course.State
import WalletWatch.Proofs.Page.Writing
/-!
# What a page shows

A page that is not shut down is the template of its screen, with the reports written on it that
landed since it was loaded last, one after the other (`Course.Written`, `written_run`). Which reports
these are is read off the moves of a course and not off the page (`Course.recentFrom`): a landing adds
its report, and a load forgets them all, whatever was on its way then.
-/

namespace WalletWatch

namespace Report

/-- What some reports make of an element, one after the other. -/
def writeAll (reports : List Report) (e : Element) : Element :=
  reports.foldl (fun e report => report.write e) e

@[simp] theorem writeAll_nil (e : Element) : writeAll [] e = e := rfl

@[simp] theorem writeAll_append (first second : List Report) (e : Element) :
    writeAll (first ++ second) e = writeAll second (writeAll first e) := by
  rw [writeAll, List.foldl_append]
  rfl

@[simp] theorem writeAll_singleton (report : Report) (e : Element) :
    writeAll [report] e = report.write e := rfl

@[simp] theorem id_writeAll (reports : List Report) (e : Element) :
    (writeAll reports e).id = e.id := by
  induction reports using List.reverseRecOn with
  | nil => rfl
  | append_singleton reports report ih => rw [writeAll_append, writeAll_singleton, id_write, ih]

@[simp] theorem kind_writeAll (reports : List Report) (e : Element) :
    (writeAll reports e).kind = e.kind := by
  induction reports using List.reverseRecOn with
  | nil => rfl
  | append_singleton reports report ih => rw [writeAll_append, writeAll_singleton, kind_write, ih]

/-- Reports leave a class name as it is, or one on the height gave it its colour. -/
theorem className_writeAll (reports : List Report) (e : Element) :
    (writeAll reports e).className = e.className ∨
      (e.hasClass ClassName.status = true ∧ ∃ r, .blockHeight r ∈ reports ∧
        (writeAll reports e).className = Page.statusClass r.tag) := by
  induction reports using List.reverseRecOn with
  | nil => exact .inl rfl
  | append_singleton reports report ih =>
    rw [writeAll_append, writeAll_singleton]
    rcases className_write report (writeAll reports e) with kept | ⟨r, rfl, carried, coloured⟩
    · rw [kept]
      rcases ih with same | ⟨status, r, hr, coloured⟩
      · exact .inl same
      · exact .inr ⟨status, r, List.mem_append_left _ hr, coloured⟩
    · have status : e.hasClass ClassName.status = true := by
        rcases ih with same | ⟨status, -⟩
        · rwa [Element.hasClass_congr same] at carried
        · exact status
      exact .inr ⟨status, r, by simp, coloured⟩

end Report

namespace Course

variable {settings : Settings} {c : Course}

/-- The reports that land in a move. -/
def arrivals (c : Course) (m : Move) : List Report :=
  ((c.perform m).landed.drop c.landed.length).filterMap fun landed =>
    Answer.report? landed.1 landed.2

/-- Whether a move loads a screen. -/
def loads (c : Course) : Move → Bool
  | .reload => c.stage == .taken && c.session.pending.isSome && !c.page.shutdown
  | _ => false

/-- The reports that landed since the page was loaded last, after one more move. -/
def recentAfter (c : Course) (recent : List Report) (m : Move) : List Report :=
  if c.loads m then [] else recent ++ c.arrivals m

/-- The reports that landed since the page was loaded last, after some more moves. -/
def recentFrom (c : Course) (recent : List Report) : List Move → List Report
  | [] => recent
  | m :: moves => (c.perform m).recentFrom (c.recentAfter recent m) moves

/-- A course begins with the page loaded. -/
def recent (c : Course) (moves : List Move) : List Report :=
  c.recentFrom [] moves

theorem arrivals_of_landed {m : Move} (h : (c.perform m).landed = c.landed) :
    c.arrivals m = [] := by
  rw [arrivals, h, List.drop_length]
  rfl

theorem arrivals_land {feed : Feed} {answer : Answer} (hw : c.Awaits feed answer) :
    c.arrivals (.land feed) = (Answer.report? feed answer).toList := by
  obtain ⟨arrival, hw⟩ := hw
  simp only [arrivals, perform_land_of_awaiting hw, List.drop_left, List.filterMap_cons,
    List.filterMap_nil]
  cases Answer.report? feed answer <;> rfl

/-- A move that loads a screen loads the one that was pending. -/
theorem page_of_loads {m : Move} (h : c.loads m = true) :
    ∃ next, c.session.pending = some next ∧ c.page.shutdown = false ∧
      (c.perform m).page = c.page.load next := by
  cases m with
  | reload =>
    simp only [loads, Bool.and_eq_true, beq_iff_eq, Option.isSome_iff_exists,
      Bool.not_eq_true'] at h
    obtain ⟨⟨stage, next, pending⟩, running⟩ := h
    refine ⟨next, pending, running, ?_⟩
    rw [page, session_perform_reload stage, Session.reload_of_pending pending, page]
  | _ => cases h

/-- A move that neither loads a screen nor lets an answer land leaves screen and elements alone. -/
theorem Lawful.shows_of_not_loads (hl : c.Lawful settings) {m : Move} (h : c.loads m = false)
    (landed : (c.perform m).landed = c.landed) :
    (c.perform m).page.screen = c.page.screen ∧ (c.perform m).page.elements = c.page.elements ∧
      (c.perform m).page.shutdown = c.page.shutdown := by
  rcases session_perform hl.orderly m with e | ⟨feed, answer, rfl, ⟨arrival, hw⟩, -⟩ | ⟨-, -, e⟩ |
    ⟨rfl, stage, e⟩
  · rw [page, e]
    exact ⟨rfl, rfl, rfl⟩
  · simp [perform_land_of_awaiting hw] at landed
  · rw [page, e]
    rcases c.session.drain_cases with ⟨-, ed⟩ | ⟨last, -, ed⟩ <;> rw [ed] <;> exact ⟨rfl, rfl, rfl⟩
  · rw [page, e]
    rcases c.session.reload_cases with ⟨-, er⟩ | ⟨next, pending, er⟩
    · rw [er]
      exact ⟨rfl, rfl, rfl⟩
    · have closed : c.page.shutdown = true := by simpa [loads, stage, pending] using h
      rw [er]
      simp only [Page.load_of_shutdown (show c.session.page.shutdown = true from closed)]
      exact ⟨rfl, rfl, rfl⟩

/-- What lands is written on the elements if it is a report, unless it ends the page. -/
theorem Lawful.elements_land (hl : c.Lawful settings) {feed : Feed} {answer : Answer}
    (hw : c.Awaits feed answer) (running : (c.perform (.land feed)).page.shutdown = false) :
    (c.perform (.land feed)).page.elements =
      c.page.elements.map (Report.writeAll (c.arrivals (.land feed))) := by
  obtain ⟨s, hr⟩ := hl.renders
  have session := session_perform_land hw
  have goes : ¬ c.Stops feed answer := (page_land_of_running session running).1
  have landed : (c.perform (.land feed)).page =
      (Landing.ofAnswer feed c.watch.now (c.session.memory.get feed) c.page answer).page := by
    rw [page, session, Session.land_page]
    rfl
  rw [landed, arrivals_land hw]
  rcases Landing.ofAnswer_eq feed c.watch.now (c.session.memory.get feed) c.page answer with
    ⟨report, read, e⟩ | ⟨unread, failure, e⟩
  · have goes : (Landing.ofReport c.watch.now (c.session.memory.get feed) c.page report).next ≠
        .stop := e ▸ goes
    rw [e, read, Landing.elements_ofReport hr.distinct _ _ goes]
    rfl
  · have goes : (Landing.ofFailure feed c.watch.now (c.session.memory.get feed) c.page
        failure).next ≠ .stop := e ▸ goes
    rw [e, unread]
    refine Eq.trans ?_ (List.map_id' _).symm
    cases feed with
    | heartbeat => exact absurd rfl goes
    | _ => rfl

/-- What a page shows is its template with some reports written on it, all of which landed. -/
structure Written (c : Course) (reports : List Report) : Prop where
  elements : c.page.shutdown = false → ∃ s, c.page.screen = some s ∧
    c.page.elements = s.elements.map (Report.writeAll reports)
  landed : ∀ report ∈ reports, report ∈ c.reports report.feed

theorem mem_reports_perform (ho : c.watch.Orderly) {feed : Feed} {report : Report}
    (h : report ∈ c.reports feed) (m : Move) : report ∈ (c.perform m).reports feed := by
  rcases landed_perform ho m with e | ⟨feed, answer, -, -, e⟩
  · rwa [reports, e]
  · rw [reports, e, List.filterMap_append]
    exact List.mem_append_left _ h

theorem mem_reports_of_arrivals {feed : Feed} {answer : Answer} (hw : c.Awaits feed answer)
    {report : Report} (h : report ∈ c.arrivals (.land feed)) :
    report ∈ (c.perform (.land feed)).reports report.feed := by
  rw [arrivals_land hw, Option.mem_toList] at h
  obtain rfl : report.feed = feed := Answer.feed_of_report? h
  rw [reports_land hw, if_pos rfl, h]
  exact List.mem_append_right _ List.mem_cons_self

theorem Written.perform (hl : c.Lawful settings) {reports : List Report} (h : c.Written reports)
    (m : Move) : (c.perform m).Written (c.recentAfter reports m) := by
  have before : ∀ report ∈ reports, report ∈ (c.perform m).reports report.feed :=
    fun report hr => mem_reports_perform hl.orderly (h.landed report hr) m
  cases loading : c.loads m with
  | true =>
    obtain ⟨next, -, running, loaded⟩ := page_of_loads loading
    have none : c.recentAfter reports m = [] := by rw [recentAfter, loading, if_pos rfl]
    rw [none]
    refine ⟨fun _ => ⟨next, ?_, ?_⟩, by simp⟩
    · simp [loaded, Page.load, running]
    · have blank : Report.writeAll [] = id := rfl
      simp [loaded, Page.load, running, blank]
  | false =>
    have more : c.recentAfter reports m = reports ++ c.arrivals m := by
      rw [recentAfter, loading, if_neg Bool.false_ne_true]
    rw [more]
    rcases landed_perform hl.orderly m with same | ⟨feed, answer, rfl, hw, -⟩
    · obtain ⟨screen, elements, shutdown⟩ := hl.shows_of_not_loads loading same
      rw [arrivals_of_landed same, List.append_nil]
      refine ⟨fun running => ?_, before⟩
      rw [screen, elements]
      exact h.elements (shutdown ▸ running)
    · refine ⟨fun running => ?_, ?_⟩
      · obtain ⟨-, screen, before, -⟩ := page_land_of_running (session_perform_land hw) running
        obtain ⟨s, hs, elements⟩ := h.elements before
        refine ⟨s, screen.trans hs, ?_⟩
        rw [hl.elements_land hw running, elements, List.map_map]
        exact List.map_congr_left fun e _ => (Report.writeAll_append reports _ e).symm
      · intro report hr
        rcases List.mem_append.1 hr with old | new
        · exact before report old
        · exact mem_reports_of_arrivals hw new

theorem Written.run (hl : c.Lawful settings) {reports : List Report} (h : c.Written reports)
    (moves : List Move) : (c.run moves).Written (c.recentFrom reports moves) := by
  induction moves generalizing c reports with
  | nil => exact h
  | cons m moves ih => exact ih (hl.perform m) (h.perform hl m)

/-- **What a page shows.** At every moment of a course the page is shut down, or it is the template of
its screen with the reports written on it that landed since it was loaded. -/
theorem written_run (settings : Settings) (store : Store) (script : Script) (now : Int)
    (moves : List Move) :
    ((start settings store script now).run moves).Written
      ((start settings store script now).recent moves) := by
  refine Written.run (lawful_start settings store script now) ⟨fun _ => ?_, by simp⟩ moves
  exact ⟨settings.startScreen, rfl, (List.map_id' _).symm⟩

end Course

end WalletWatch
