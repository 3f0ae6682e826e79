import WalletWatch.Proofs.Course.Deeds
import WalletWatch.Proofs.Page.Rendering
/-!
# What a landing does

A report may call for a form (`Report.call?`), and the page takes the form if it has it
(`Page.accepts`). Apart from that form, which is put behind the others in the outbox, a landing
leaves screen, forms and outbox alone; only the end that a heartbeat brings clears the page
(`Landing.effect_ofAnswer`). The events of a landing tell exactly which form was taken
(`Landing.deeds_ofAnswer`), and a page still shows its screen after it (`Page.Renders.ofAnswer`).
-/

namespace WalletWatch

namespace Page

/-- What a page takes of a form that is called for: the first form of that name, if it has one. -/
def accepts (p : Page) (form : Option String) : List Submission :=
  ((form.bind fun name => p.forms.find? (·.name == name)).map
    fun f => ⟨f.name, f.action⟩).toList

@[simp] theorem accepts_none (p : Page) : p.accepts none = [] := rfl

theorem accepts_of_no_forms {p : Page} (h : p.forms = []) (form : Option String) :
    p.accepts form = [] := by
  cases form <;> simp [accepts, h]

theorem accepts_congr {p q : Page} (h : p.forms = q.forms) (form : Option String) :
    p.accepts form = q.accepts form := by
  simp only [accepts, h]

/-- A page that shows a screen takes the forms of that screen, with the action they all have. -/
theorem accepts_of_forms {p : Page} {s : Screen} (h : p.forms = s.forms) (name : String) :
    p.accepts (some name) = if name ∈ s.formNames then [⟨name, Screen.formAction⟩] else [] := by
  have found : ∀ names : List String,
      (names.map fun n => (⟨n, Screen.formAction⟩ : Form)).find? (·.name == name) =
        if name ∈ names then some ⟨name, Screen.formAction⟩ else none := by
    intro names
    induction names with
    | nil => rfl
    | cons n names ih =>
      rw [List.map_cons, List.find?_cons, ih]
      by_cases hn : n = name
      · simp [hn]
      · have differs : (n == name) = false := by simpa using hn
        simp [differs, Ne.symm hn]
  simp only [accepts, Option.bind_some, h, Screen.forms, found]
  split <;> rfl

/-- Submitting a form puts what the page takes of it behind the outbox, and notes it. -/
theorem submitIf_eq (p : Page) (reason : Bool) (form : String) (event : Event) :
    p.submitIf reason form event =
      let taken := p.accepts (if reason then some form else none)
      ({ p with outbox := p.outbox ++ taken }, taken.map fun _ => event) := by
  cases reason with
  | false => simp [submitIf]
  | true =>
    simp only [submitIf, submit?, accepts, if_true, Option.bind_some]
    cases p.forms.find? (·.name == form) <;> simp

end Page

/-! ## What a report calls for -/

/-- The form that a report calls for on a page, in view of what its loop remembers. -/
def Report.call? (memory : Option String) (page : Page) : Report → Option String
  | .bootstrapper status =>
    if Landing.entered Landing.complete status memory then some FormName.refreshBootstrapper
    else none
  | .consensusBuilder status =>
    if Landing.entered Landing.complete status memory then some FormName.refreshConsensusBuilder
    else none
  | .blockHeight r =>
    if Landing.entered Landing.synchronized r.status memory then some FormName.refresh else none
  | .balance r =>
    let confirmed := page.writeText ClassName.confirmed r.confirmed
    if confirmed.showsOtherUnconfirmed r.unconfirmed && confirmed.isLastPage then
      some FormName.refreshTransactions
    else none
  | .heartbeat _ => none

/-- The status that a report gives its loop to remember. -/
def Report.status? : Report → Option String
  | .bootstrapper status | .consensusBuilder status => some status
  | .blockHeight r => some r.status
  | .balance _ | .heartbeat _ => none

/-- A report that is repeated calls for no form, as its status has just been read. Only a balance
has none. -/
theorem Report.call?_repeated {report : Report} (status : report.feed ≠ .balance)
    (memory : Option String) (page : Page) :
    report.call? (report.status?.or memory) page = none := by
  have known (mark status : String) : Landing.entered mark status (some status) = false := by
    simp only [Landing.entered, Bool.and_eq_false_imp, beq_iff_eq]
    rintro rfl
    exact bne_self_eq_false' ..
  cases report with
  | balance r => exact absurd rfl status
  | heartbeat alive => rfl
  | _ => simp only [call?, status?, Option.some_or, known, Bool.false_eq_true, if_false]

/-- How many fields the report of a feed is read from. -/
def Feed.arity : Feed → Nat
  | .balance => 5
  | .blockHeight => 3
  | .bootstrapper | .consensusBuilder | .heartbeat => 1

/-- The report that an answer to the poll of a feed is, if it is one. -/
def Answer.report? (feed : Feed) (answer : Answer) : Option Report :=
  (answer.bind (Report.ofFields feed)).toOption

/-- A report is read for the feed that was polled. -/
theorem Answer.feed_of_report? {feed : Feed} {answer : Answer} {report : Report}
    (h : Answer.report? feed answer = some report) : report.feed = feed := by
  have read : ∀ fields, Report.ofFields feed fields = .ok report → report.feed = feed := by
    intro fields hr
    have mapped : ∀ {α : Type} {e : Except Failure α} {g : α → Report}, e.map g = .ok report →
        ∃ a, g a = report := by
      rintro α (_ | a) g hg
      · cases hg
      · exact ⟨a, Except.ok.inj hg⟩
    cases feed <;> obtain ⟨a, rfl⟩ := mapped hr <;> rfl
  cases answer with
  | error failure => simp [Answer.report?, Except.bind, Except.toOption] at h
  | ok fields =>
    simp only [Answer.report?, Except.bind] at h
    cases hr : Report.ofFields feed fields with
    | error failure => simp [hr, Except.toOption] at h
    | ok r =>
      simp only [hr, Except.toOption, Option.some.injEq] at h
      exact read fields (h ▸ hr)

/-- The form that an answer calls for: that of its report. -/
def Answer.call? (feed : Feed) (memory : Option String) (page : Page) (answer : Answer) :
    Option String :=
  (Answer.report? feed answer).bind (·.call? memory page)

namespace Landing

variable {feed : Feed} {now : Int} {memory : Option String} {page : Page} {answer : Answer}

/-- A landing is that of its report, or that of a failure. -/
theorem ofAnswer_eq (feed : Feed) (now : Int) (memory : Option String) (page : Page)
    (answer : Answer) :
    (∃ report, Answer.report? feed answer = some report ∧
      ofAnswer feed now memory page answer = ofReport now memory page report) ∨
    (Answer.report? feed answer = none ∧ ∃ failure,
      ofAnswer feed now memory page answer = ofFailure feed now memory page failure) := by
  unfold ofAnswer Answer.report?
  cases answer.bind (Report.ofFields feed) with
  | ok report => exact .inl ⟨report, rfl, rfl⟩
  | error failure => exact .inr ⟨rfl, failure, rfl⟩

/-- What a landing may do to a page: end it with no form called for, or leave all but its elements
alone and put the form that is called for behind the outbox. -/
inductive Effect (page : Page) (now : Int) (form : Option String) (l : Landing) : Prop
  | ended (next : l.next = .stop) (cleared : l.page = page.shutDown.touch now)
      (quiet : l.events.filterMap Event.deed? = []) (uncalled : form = none)
  | landed (next : l.next ≠ .stop) (screen : l.page.screen = page.screen)
      (forms : l.page.forms = page.forms) (shutdown : l.page.shutdown = page.shutdown)
      (outbox : l.page.outbox = page.outbox ++ page.accepts form)

theorem effect_ofReport (now : Int) (memory : Option String) (page : Page) (report : Report) :
    Effect page now (report.call? memory page) (ofReport now memory page report) := by
  cases report with
  | bootstrapper status =>
    refine .landed (by simp [ofReport, ofProgress]) ?_ ?_ ?_ ?_ <;>
      simp only [ofReport, ofProgress, Page.submitIf_eq] <;> rfl
  | consensusBuilder status =>
    refine .landed (by simp [ofReport, ofProgress]) ?_ ?_ ?_ ?_ <;>
      simp only [ofReport, ofProgress, Page.submitIf_eq] <;> rfl
  | blockHeight r =>
    refine .landed (by simp [ofReport, ofHeight]) ?_ ?_ ?_ ?_ <;>
      simp only [ofReport, ofHeight, Page.submitIf_eq] <;> rfl
  | balance r =>
    refine .landed (by simp [ofReport, ofBalance]) ?_ ?_ ?_ ?_ <;>
      simp only [ofReport, ofBalance, Page.submitIf_eq] <;> rfl
  | heartbeat alive =>
    cases alive with
    | true => exact .landed (by simp [ofReport]) rfl rfl rfl (by simp [ofReport, Report.call?])
    | false => exact .ended rfl rfl rfl rfl

theorem effect_ofFailure (feed : Feed) (now : Int) (memory : Option String) (page : Page)
    (failure : Failure) : Effect page now none (ofFailure feed now memory page failure) := by
  cases feed with
  | heartbeat => exact .ended rfl rfl rfl rfl
  | bootstrapper => exact .landed (by simp [ofFailure]) rfl rfl rfl (by simp [ofFailure])
  | consensusBuilder => exact .landed (by simp [ofFailure]) rfl rfl rfl (by simp [ofFailure])
  | blockHeight => exact .landed (by simp [ofFailure]) rfl rfl rfl (by simp [ofFailure])
  | balance => exact .landed (by simp [ofFailure]) rfl rfl rfl (by simp [ofFailure])

theorem effect_ofAnswer (feed : Feed) (now : Int) (memory : Option String) (page : Page)
    (answer : Answer) :
    Effect page now (Answer.call? feed memory page answer)
      (ofAnswer feed now memory page answer) := by
  rcases ofAnswer_eq feed now memory page answer with ⟨report, hr, e⟩ | ⟨hr, failure, e⟩
  · rw [e, Answer.call?, hr]
    exact effect_ofReport now memory page report
  · rw [e, Answer.call?, hr]
    exact effect_ofFailure feed now memory page failure

/-- Only a heartbeat ends its loop. -/
theorem feed_of_stop (h : (ofAnswer feed now memory page answer).next = .stop) :
    feed = .heartbeat := by
  rcases ofAnswer_eq feed now memory page answer with ⟨report, hr, e⟩ | ⟨-, failure, e⟩
  · rw [e] at h
    rw [← Answer.feed_of_report? hr]
    cases report with
    | heartbeat alive => rfl
    | _ => cases h
  · rw [e] at h
    cases feed with
    | heartbeat => rfl
    | _ => cases h

theorem memory_ofReport (now : Int) (memory : Option String) (page : Page) (report : Report) :
    (ofReport now memory page report).memory = report.status?.or memory := by
  cases report with
  | heartbeat alive => cases alive <;> rfl
  | _ => rfl

/-- A loop remembers the status of the last report that had one. -/
theorem memory_ofAnswer (feed : Feed) (now : Int) (memory : Option String) (page : Page)
    (answer : Answer) :
    (ofAnswer feed now memory page answer).memory =
      ((Answer.report? feed answer).bind Report.status?).or memory := by
  rcases ofAnswer_eq feed now memory page answer with ⟨report, hr, e⟩ | ⟨hr, failure, e⟩
  · rw [e, hr]
    exact memory_ofReport now memory page report
  · rw [e, hr]
    cases feed <;> rfl

/-- After a report the loop goes on in a second, unless the report is a heartbeat. -/
theorem next_ofReport {report : Report} (data : report.feed ≠ .heartbeat) (now : Int)
    (memory : Option String) (page : Page) :
    (ofReport now memory page report).next = .after .data := by
  cases report with
  | heartbeat alive => exact absurd rfl data
  | _ => rfl

theorem goesOn_ofReport {report : Report} (data : report.feed ≠ .heartbeat) (now : Int)
    (memory : Option String) (page : Page) : (ofReport now memory page report).next ≠ .stop := by
  rw [next_ofReport data]
  exact Next.noConfusion

/-- A report that is no heartbeat leaves all but the elements and the outbox alone, and puts the form
that it calls for behind the others. -/
theorem kept_ofReport {report : Report} (data : report.feed ≠ .heartbeat) (now : Int)
    (memory : Option String) (page : Page) :
    let landed := ofReport now memory page report
    landed.page.screen = page.screen ∧ landed.page.forms = page.forms ∧
      landed.page.shutdown = page.shutdown ∧
      landed.page.outbox = page.outbox ++ page.accepts (report.call? memory page) := by
  cases effect_ofReport now memory page report with
  | ended next => exact absurd next (goesOn_ofReport data now memory page)
  | landed _ screen forms shutdown outbox => exact ⟨screen, forms, shutdown, outbox⟩

/-! ## Events -/

/-- One event for each form that was taken tells which form it was. -/
theorem deeds_taken {taken : List Submission} {event : Event} {x : Submission}
    (all : ∀ y ∈ taken, y = x) (tells : event.deed? = some (.accept x)) :
    (taken.map fun _ => event).filterMap Event.deed? = taken.map .accept := by
  rw [List.eq_replicate_of_mem all]
  simp [tells]

/-- What a submission notes of itself tells which form was taken. -/
theorem deeds_submitIf {p : Page} {form : String} {event : Event}
    (plain : ∀ x ∈ p.accepts (some form), x = ⟨form, Screen.formAction⟩)
    (tells : event.deed? = some (.accept ⟨form, Screen.formAction⟩)) (reason : Bool) :
    (p.submitIf reason form event).2.filterMap Event.deed? =
      (p.accepts (if reason then some form else none)).map .accept := by
  rw [Page.submitIf_eq]
  cases reason with
  | false => rfl
  | true => exact deeds_taken plain tells

theorem deeds_ofReport (now : Int) (memory : Option String) {page : Page}
    (plain : ∀ form, ∀ x ∈ page.accepts (some form), x = ⟨form, Screen.formAction⟩)
    (report : Report) :
    (ofReport now memory page report).events.filterMap Event.deed? =
      (page.accepts (report.call? memory page)).map .accept := by
  cases report with
  | bootstrapper status => exact deeds_submitIf (plain _) rfl _
  | consensusBuilder status => exact deeds_submitIf (plain _) rfl _
  | blockHeight r => exact deeds_submitIf (plain _) rfl _
  | balance r =>
    have confirmed := Page.accepts_congr (q := page)
      (p := page.writeText ClassName.confirmed r.confirmed) rfl
    rw [Report.call?, ← confirmed]
    exact deeds_submitIf (fun x hx => plain _ x (by rwa [confirmed] at hx)) rfl _
  | heartbeat alive => cases alive <;> rfl

/-- The events of a landing tell which form the page took. -/
theorem deeds_ofAnswer (feed : Feed) (now : Int) (memory : Option String) {page : Page}
    (plain : ∀ form, ∀ x ∈ page.accepts (some form), x = ⟨form, Screen.formAction⟩)
    (answer : Answer) :
    (ofAnswer feed now memory page answer).events.filterMap Event.deed? =
      (page.accepts (Answer.call? feed memory page answer)).map .accept := by
  rcases ofAnswer_eq feed now memory page answer with ⟨report, hr, e⟩ | ⟨hr, failure, e⟩
  · rw [e, Answer.call?, hr]
    exact deeds_ofReport now memory plain report
  · rw [e, Answer.call?, hr]
    cases feed <;> rfl

end Landing

/-! ## What is shown after a landing -/

namespace Page.Renders

variable {sent : String → Prop} {s : Screen} {p : Page}

/-- What a page that shows a screen takes of a form. -/
theorem accepts (h : p.Renders sent s) (name : String) :
    p.accepts (some name) =
      if p.shutdown = false ∧ name ∈ s.formNames then [⟨name, Screen.formAction⟩] else [] := by
  cases hs : p.shutdown with
  | true => simpa using accepts_of_no_forms (h.empty hs).2.1 (some name)
  | false => simpa using accepts_of_forms (h.forms_of_open hs) name

/-- A form that is taken is the one that was called for, with the action of all forms. -/
theorem accepts_plain (h : p.Renders sent s) (form : String) :
    ∀ x ∈ p.accepts (some form), x = ⟨form, Screen.formAction⟩ := by
  rw [h.accepts]
  split <;> simp

/-- A form is taken if it was called for, is one of the screen, and the page is not shut down. -/
theorem mem_accepts_iff (h : p.Renders sent s) {form : Option String} {x : Submission} :
    x ∈ p.accepts form ↔
      form = some x.form ∧ x.action = Screen.formAction ∧ p.shutdown = false ∧
        x.form ∈ s.formNames := by
  cases form with
  | none => simp
  | some name =>
    rw [h.accepts]
    constructor
    · intro hx
      split at hx
      · next hn =>
        obtain rfl := List.mem_singleton.1 hx
        exact ⟨rfl, rfl, hn⟩
      · cases hx
    · rintro ⟨e, action, hn⟩
      obtain rfl := Option.some.inj e
      rw [if_pos hn, List.mem_singleton, ← action]

/-- A page that submits a form still shows its screen. -/
theorem submitIf (h : p.Renders sent s) (reason : Bool) (form : String) (event : Event) :
    (p.submitIf reason form event).1.Renders sent s := by
  rw [submitIf_eq]
  refine h.setOutbox fun hs => ?_
  rw [h.outbox hs, accepts_of_no_forms (h.empty hs).2.1, List.append_nil]

theorem ofReport (h : p.Renders sent s) (now : Int) (memory : Option String) {report : Report}
    (hs : ∀ r, report = .blockHeight r → sent r.tag) :
    (Landing.ofReport now memory p report).page.Renders sent s := by
  cases report with
  | bootstrapper status => exact ((h.submitIf _ _ _).writeText _ _).touch now
  | consensusBuilder status => exact ((h.submitIf _ _ _).writeText _ _).touch now
  | blockHeight r => exact ((h.submitIf _ _ _).showHeight (hs r rfl)).touch now
  | balance r => exact (((h.writeText _ _).submitIf _ _ _).showUnconfirmed r).touch now
  | heartbeat alive =>
    cases alive with
    | true => exact h
    | false => exact h.shutDown.touch now

/-- After a landing a page still shows its screen, with a colour more that was sent if a height was
reported. -/
theorem ofAnswer (h : p.Renders sent s) (feed : Feed) (now : Int) (memory : Option String)
    {answer : Answer}
    (hs : ∀ r, Answer.report? feed answer = some (.blockHeight r) → sent r.tag) :
    (Landing.ofAnswer feed now memory p answer).page.Renders sent s := by
  rcases Landing.ofAnswer_eq feed now memory p answer with ⟨report, hr, e⟩ | ⟨-, failure, e⟩
  · rw [e]
    exact h.ofReport now memory fun r he => hs r (he ▸ hr)
  · rw [e]
    cases feed with
    | heartbeat => exact h.shutDown.touch now
    | _ => exact h

end Page.Renders

end WalletWatch
