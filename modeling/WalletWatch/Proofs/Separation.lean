import WalletWatch.Proofs.Shape
/-!
# The order of two reports

In a template each element is for the reports of one feed at most (`Screen.writes_unique`), so it does
not matter in which order two reports of different feeds land. What is written on the status element
is the exception: its class name takes up the colour that the server sends, and if this names a class
of another feed, reports of that feed are written there as well. The order of two reports does not
matter as long as they do not meet there (`Page.Meets`), and the forms that they submit depend on it
only if one of them disturbs what a balance is compared with (`Page.Disturbs`).
-/

namespace WalletWatch

/-- A colour names a class on which the reports of a feed are written. -/
def Feed.NamedBy (feed : Feed) (tag : String) : Prop :=
  ∃ className ∈ feed.classes, className ∈ Text.words tag

theorem Feed.status_mem_classes_iff {feed : Feed} :
    ClassName.status ∈ feed.classes ↔ feed = .blockHeight := by
  cases feed <;> decide

/-- Two reports meet on a status element: the colour of one makes it an element for the other, or the
class name that it has makes it one for both. -/
inductive Report.MeetsOn (a b : Report) (e : Element) : Prop
  | first (r : HeightReport) (height : a = .blockHeight r) (named : b.feed.NamedBy r.tag)
  | second (r : HeightReport) (height : b = .blockHeight r) (named : a.feed.NamedBy r.tag)
  | shown (neither : a.feed ≠ .blockHeight ∧ b.feed ≠ .blockHeight)
      (both : a.feed.Writes e ∧ b.feed.Writes e)

/-- A report disturbs what a balance is compared with: its colour gives a status element the class of
the unconfirmed balance, or the element has this class and the report is written there. -/
inductive Report.DisturbsOn (report : Report) (e : Element) : Prop
  | colour (r : HeightReport) (height : report = .blockHeight r)
      (named : ClassName.unconfirmed ∈ Text.words r.tag)
  | shown (carried : e.hasClass ClassName.unconfirmed = true) (written : report.feed.Writes e)

/-- Two reports meet on a page. -/
def Page.Meets (p : Page) (a b : Report) : Prop :=
  ∃ e ∈ p.elementsOf ClassName.status, a.MeetsOn b e

/-- A report disturbs what a balance is compared with on a page. -/
def Page.Disturbs (p : Page) (report : Report) : Prop :=
  ∃ e ∈ p.elementsOf ClassName.status, report.DisturbsOn e

/-! ## Two reports on one element -/

namespace Report

variable {a b : Report} {e : Element} {r : HeightReport}

/-- Two reports that leave the class name alone do not see each other on an element that is not for
both of them. -/
theorem write_comm_of_kept (keptA : (a.write e).className = e.className)
    (keptB : (b.write e).className = e.className) (apart : ¬ (a.feed.Writes e ∧ b.feed.Writes e)) :
    b.write (a.write e) = a.write (b.write e) := by
  by_cases forA : a.feed.Writes e
  · have notB : ¬ b.feed.Writes e := fun forB => apart ⟨forA, forB⟩
    have after : ¬ b.feed.Writes (a.write e) := by
      rwa [Feed.writes_congr keptA (id_write a e)]
    rw [write_of_untouched notB, write_of_untouched after]
  · have after : ¬ a.feed.Writes (b.write e) := by
      rwa [Feed.writes_congr keptB (id_write b e)]
    rw [write_of_untouched forA, write_of_untouched after]

/-- On the status element a report on the height wins over any other that is not for the element in
its new colour. -/
theorem write_comm_of_status (status : e.hasClass ClassName.status = true) (id : e.id = none)
    (other : b.feed ≠ .blockHeight) (quiet : ¬ b.feed.NamedBy r.tag) :
    b.write ((blockHeight r).write e) = (blockHeight r).write (b.write e) := by
  have className := className_write_of_feed_ne other e
  have status' : (b.write e).hasClass ClassName.status = true := by
    rwa [Element.hasClass_congr className]
  have value : (b.write e).value = e.value := by
    refine value_write b ?_
    rw [Element.hasId, id]
    rfl
  have coloured : ¬ b.feed.Writes
      { e with text := r.status, className := Page.statusClass r.tag } := by
    rintro (⟨name, listed, carried⟩ | ⟨name, -, named⟩)
    · rcases (Element.hasClass_of_statusClass rfl).1 carried with rfl | word
      · exact other (Feed.status_mem_classes_iff.1 listed)
      · exact quiet ⟨name, listed, word⟩
    · rw [Element.hasId, id] at named
      cases named
  rw [write_blockHeight_of_status r status, write_blockHeight_of_status r status',
    write_of_untouched coloured, kind_write, id_write, label_write, value]

end Report

/-! ## Two reports on a page -/

/-- An element of a template is for the reports of one feed at most, and one with the status class
has no id. -/
theorem Screen.writes_unique {s : Screen} {t : Element} (ht : t ∈ s.elements) :
    (∀ f g : Feed, f.Writes t → g.Writes t → f = g) ∧
      (t.hasClass ClassName.status = true → t.id = none) := by
  have all : ∀ t ∈ s.elements, (∀ f ∈ Feed.all, ∀ g ∈ Feed.all, f.Writes t → g.Writes t → f = g) ∧
      (t.hasClass ClassName.status = true → t.id = none) :=
    s.forall_elements (by decide) (by decide) (by decide) (by decide)
  exact ⟨fun f g => (all t ht).1 f f.mem_all g g.mem_all, (all t ht).2⟩

namespace Page

variable {p q : Page} {s : Screen} {reports : List Report} {a b : Report} {e : Element}

/-- An element that a page shows is for the reports of one feed at most, unless it carries the status
class. -/
theorem writes_unique_of_written (shown : p.elements = s.elements.map (Report.writeAll reports))
    (he : e ∈ p.elements) (plain : e.hasClass ClassName.status = false) {f g : Feed}
    (hf : f.Writes e) (hg : g.Writes e) : f = g := by
  rw [shown] at he
  obtain ⟨t, ht, rfl⟩ := List.mem_map.1 he
  rw [hasClass_status_writeAll] at plain
  have className : (Report.writeAll reports t).className = t.className := by
    rcases Report.className_writeAll reports t with same | ⟨status, -⟩
    · exact same
    · rw [plain] at status
      cases status
  have id := Report.id_writeAll reports t
  exact (Screen.writes_unique ht).1 f g ((Feed.writes_congr className id f).1 hf)
    ((Feed.writes_congr className id g).1 hg)

theorem id_of_status (shown : p.elements = s.elements.map (Report.writeAll reports))
    (he : e ∈ p.elements) (status : e.hasClass ClassName.status = true) : e.id = none := by
  rw [shown] at he
  obtain ⟨t, ht, rfl⟩ := List.mem_map.1 he
  rw [hasClass_status_writeAll] at status
  exact (Report.id_writeAll reports t).trans ((Screen.writes_unique ht).2 status)

/-- Two reports of different feeds that do not meet on a page make the same of each of its elements
in both orders. -/
theorem write_comm (shown : p.elements = s.elements.map (Report.writeAll reports))
    (differ : a.feed ≠ b.feed) (apart : ¬ p.Meets a b) (he : e ∈ p.elements) :
    b.write (a.write e) = a.write (b.write e) := by
  cases status : e.hasClass ClassName.status with
  | false =>
    -- No class name is overwritten here, so the template tells whose the element is.
    have kept : ∀ report : Report, (report.write e).className = e.className := by
      intro report
      rcases report.className_write e with same | ⟨r, -, carried, -⟩
      · exact same
      · rw [status] at carried
        cases carried
    refine Report.write_comm_of_kept (kept a) (kept b) ?_
    rintro ⟨forA, forB⟩
    exact differ (writes_unique_of_written shown he status forA forB)
  | true =>
    have id := id_of_status shown he status
    have apart : ¬ a.MeetsOn b e := fun meets => apart ⟨e, List.mem_filter.2 ⟨he, status⟩, meets⟩
    -- A report on the height wins if it comes last, so the other must not write here if it is first.
    by_cases heightA : a.feed = .blockHeight
    · obtain ⟨r, rfl⟩ := Report.exists_of_feed_blockHeight heightA
      have other : b.feed ≠ .blockHeight := fun same => differ (heightA.trans same.symm)
      exact Report.write_comm_of_status status id other fun named => apart (.first r rfl named)
    · by_cases heightB : b.feed = .blockHeight
      · obtain ⟨r, rfl⟩ := Report.exists_of_feed_blockHeight heightB
        exact (Report.write_comm_of_status status id heightA
          fun named => apart (.second r rfl named)).symm
      · refine Report.write_comm_of_kept (Report.className_write_of_feed_ne heightA e)
          (Report.className_write_of_feed_ne heightB e) fun both => ?_
        exact apart (.shown ⟨heightA, heightB⟩ both)

/-! ## What a balance is compared with -/

/-- A report of another feed that does not disturb what a balance is compared with leaves it alone. -/
theorem elementsOf_unconfirmed_of_write
    (shown : p.elements = s.elements.map (Report.writeAll reports)) (other : a.feed ≠ .balance)
    (calm : ¬ p.Disturbs a) (written : q.elements = p.elements.map a.write) :
    q.elementsOf ClassName.unconfirmed = p.elementsOf ClassName.unconfirmed := by
  have untouched : ∀ e ∈ p.elements, e.hasClass ClassName.unconfirmed = true →
      ¬ a.feed.Writes e := by
    intro e he carried touches
    cases status : e.hasClass ClassName.status with
    | false =>
      have balance : Feed.balance.Writes e :=
        .inl ⟨ClassName.unconfirmed, by simp [Feed.classes], carried⟩
      exact other (writes_unique_of_written shown he status touches balance)
    | true => exact calm ⟨e, List.mem_filter.2 ⟨he, status⟩, .shown carried touches⟩
  refine elementsOf_of_map written (fun e he => ?_) fun e he carried =>
    Report.write_of_untouched (untouched e he carried)
  rcases a.className_write e with same | ⟨r, rfl, status, coloured⟩
  · exact Element.hasClass_congr same _
  · have own : (Report.blockHeight r).feed.Writes e :=
      .inl ⟨ClassName.status, Feed.status_mem_classes_iff.2 rfl, status⟩
    have before : ¬ e.hasClass ClassName.unconfirmed = true :=
      fun carried => untouched e he carried own
    have after : ¬ ((Report.blockHeight r).write e).hasClass ClassName.unconfirmed = true := by
      rw [Element.hasClass_of_statusClass coloured]
      rintro (named | named)
      · exact absurd named (by decide)
      · exact calm ⟨e, List.mem_filter.2 ⟨he, status⟩, .colour r rfl named⟩
    rw [Bool.eq_false_iff.2 before, Bool.eq_false_iff.2 after]

/-- What a report calls for does not depend on a report of another feed, unless that one disturbs what
a balance is compared with. -/
theorem call?_of_write (shown : p.elements = s.elements.map (Report.writeAll reports))
    (differ : a.feed ≠ b.feed) (calm : b.feed = .balance → ¬ p.Disturbs a)
    (written : q.elements = p.elements.map a.write) (memory : Option String) :
    b.call? memory q = b.call? memory p := by
  cases b with
  | balance r =>
    have seen := elementsOf_unconfirmed_of_write shown differ (calm rfl) written
    have shown' : q.elements = s.elements.map (Report.writeAll (reports ++ [a])) := by
      rw [written, shown, List.map_map]
      exact List.map_congr_left fun t _ => (Report.writeAll_append reports [a] t).symm
    have last : q.isLastPage = p.isLastPage := by
      rw [Bool.eq_iff_iff, isLastPage_of_written shown, isLastPage_of_written shown']
    simp only [Report.call?, showsOtherUnconfirmed, elementsOf_writeText, seen,
      isLastPage_writeText, last]
  | bootstrapper status => rfl
  | consensusBuilder status => rfl
  | blockHeight r => rfl
  | heartbeat alive => rfl

end Page

/-! ## Landing in either order -/

namespace Session

variable {st : Session} {a b : Report} {x y : Answer}

theorem land_page_of_report? (read : Answer.report? a.feed x = some a) (now : Int) :
    (st.land a.feed now x).page =
      (Landing.ofReport now (st.memory.get a.feed) st.page a).page := by
  rw [land_page]
  rcases Landing.ofAnswer_eq a.feed now (st.memory.get a.feed) st.page x with
    ⟨report, read', e⟩ | ⟨unread, -⟩
  · obtain rfl := Option.some.inj (read.symm.trans read')
    rw [e]
  · rw [read] at unread
    cases unread

/-- What a report that is no heartbeat does to a page: it is written on the elements, and the form
that it calls for is put behind the others if the page has it. -/
theorem land_report (distinct : st.page.Distinct) (read : Answer.report? a.feed x = some a)
    (data : a.feed ≠ .heartbeat) (now : Int) :
    (st.land a.feed now x).page.elements = st.page.elements.map a.write ∧
      (st.land a.feed now x).page.forms = st.page.forms ∧
      (st.land a.feed now x).page.outbox = st.page.outbox ++
        st.page.accepts (a.call? (st.memory.get a.feed) st.page) := by
  obtain ⟨-, forms, -, outbox⟩ := Landing.kept_ofReport data now (st.memory.get a.feed) st.page
  rw [land_page_of_report? read]
  exact ⟨Landing.elements_ofReport distinct now _ (Landing.goesOn_ofReport data now _ _), forms,
    outbox⟩

/-- Two reports of different feeds are written on the elements one after the other, and the second
calls for a form in view of what the first left. -/
theorem land_two (distinct : st.page.Distinct) (readA : Answer.report? a.feed x = some a)
    (readB : Answer.report? b.feed y = some b) (differ : a.feed ≠ b.feed)
    (dataA : a.feed ≠ .heartbeat) (dataB : b.feed ≠ .heartbeat) (t u : Int) :
    ((st.land a.feed t x).land b.feed u y).page.elements =
        st.page.elements.map (fun e => b.write (a.write e)) ∧
      ((st.land a.feed t x).land b.feed u y).page.outbox = st.page.outbox ++
        (st.page.accepts (a.call? (st.memory.get a.feed) st.page) ++
          st.page.accepts (b.call? (st.memory.get b.feed) (st.land a.feed t x).page)) := by
  obtain ⟨elements, forms, outbox⟩ := land_report distinct readA dataA t
  have distinct' : (st.land a.feed t x).page.Distinct := distinct.map elements (Report.id_write a)
  obtain ⟨elements', -, outbox'⟩ := land_report distinct' readB dataB u
  have memory : (st.land a.feed t x).memory.get b.feed = st.memory.get b.feed := by
    rw [land_memory, PerFeed.get_set_of_ne _ (Ne.symm differ)]
  rw [elements', elements, List.map_map, outbox', outbox, memory, Page.accepts_congr forms,
    List.append_assoc]
  exact ⟨rfl, rfl⟩

end Session

namespace Course

/-- **The order of two reports.** At every moment of a course at which the page is not shut down, two
reports of different feeds, neither of them a heartbeat, leave the same elements in both orders unless
they meet on the status element. They submit the same forms, each as often, unless one is a balance
and the other disturbs what it is compared with. -/
theorem reports_commute_apart (settings : Settings) (store : Store) (script : Script) (now : Int)
    (moves : List Move) (a b : Report) (x y : Answer) (t u : Int)
    (running : ((start settings store script now).run moves).page.shutdown = false)
    (readA : Answer.report? a.feed x = some a) (readB : Answer.report? b.feed y = some b)
    (differ : a.feed ≠ b.feed) (dataA : a.feed ≠ .heartbeat) (dataB : b.feed ≠ .heartbeat) :
    let c := (start settings store script now).run moves
    let ab := (c.session.land a.feed t x).land b.feed u y
    let ba := (c.session.land b.feed t y).land a.feed u x
    (¬ c.page.Meets a b → ab.page.elements = ba.page.elements) ∧
      ((a.feed = .balance → ¬ c.page.Disturbs b) → (b.feed = .balance → ¬ c.page.Disturbs a) →
        ab.page.outbox.Perm ba.page.outbox) := by
  intro c ab ba
  have hl : c.Lawful settings := lawful_run settings store script now moves
  obtain ⟨s, hr⟩ := hl.renders
  obtain ⟨s', -, shown⟩ := (written_run settings store script now moves).elements running
  have distinct : c.session.page.Distinct := hr.distinct
  obtain ⟨elements, outbox⟩ := Session.land_two distinct readA readB differ dataA dataB t u
  obtain ⟨elements', outbox'⟩ :=
    Session.land_two distinct readB readA (Ne.symm differ) dataB dataA t u
  refine ⟨fun apart => ?_, fun calmB calmA => ?_⟩
  · rw [elements, elements']
    exact List.map_congr_left fun e he => Page.write_comm shown differ apart he
  · have callB := Page.call?_of_write shown differ calmA
      (Session.land_report distinct readA dataA t).1 (c.session.memory.get b.feed)
    have callA := Page.call?_of_write shown (Ne.symm differ) calmB
      (Session.land_report distinct readB dataB t).1 (c.session.memory.get a.feed)
    rw [outbox, outbox', callA, callB]
    exact List.perm_append_comm.append_left _

/-- A colour that was sent before may even name a class of the balance: the report on the height
that follows overwrites what the balance wrote there, in both orders. -/
theorem reports_commute_after_odd_colour :
    let script : Script := ⟨(PerFeed.const []).set .blockHeight
      [⟨.ok ["7", "Scanning", "confirmed"], 0⟩], fun _ _ => ⟨none, 0⟩⟩
    let height : Answer := .ok ["8", "Scanning", "green"]
    let balance : Answer := .ok ["1", "2", "3", "4", "Shrimp"]
    let c := (start { Settings.default with startScreen := .wallet true } .empty script 0).run
      [.chore .startPolling, .chore (.beginLoop .blockHeight), .tick .blockHeight,
        .land .blockHeight]
    let ab := (c.session.land .blockHeight 1 height).land .balance 2 balance
    let ba := (c.session.land .balance 1 balance).land .blockHeight 2 height
    (c.page.elementsOf ClassName.status).map Element.className = ["status confirmed"] ∧
      ab.page.elements = ba.page.elements ∧ ab.page.outbox.Perm ba.page.outbox := by
  intro script height balance c ab ba
  have status : c.page.elementsOf ClassName.status = [⟨.text, none, "status confirmed", "Status",
      "Scanning", ""⟩] := by decide
  have running : c.page.shutdown = false := by decide
  obtain ⟨elements, outbox⟩ := reports_commute_apart
    { Settings.default with startScreen := .wallet true } .empty script 0 _
    (.blockHeight ⟨"8", "Scanning", "green"⟩) (.balance ⟨"1", "2", "3", "4", "Shrimp"⟩)
    height balance 1 2 running rfl rfl (by decide) (by decide) (by decide)
  refine ⟨by rw [status]; rfl, elements ?_, outbox (fun h => by cases h) fun _ => ?_⟩
  · rintro ⟨e, -, meets⟩
    cases meets with
    | first r height named =>
      obtain rfl := Report.blockHeight.inj height
      revert named
      simp only [Feed.NamedBy]
      decide
    | second r height named => cases height
    | shown neither both => exact neither.1 rfl
  · rintro ⟨e, mem, disturbs⟩
    cases disturbs with
    | colour r height named =>
      obtain rfl := Report.blockHeight.inj height
      revert named
      decide
    | shown carried written =>
      rw [show (c.page.elementsOf ClassName.status) = _ from status, List.mem_singleton] at mem
      subst mem
      revert carried
      decide

/-- A colour that names the class of the unconfirmed balance makes the status element one of the
balance. The order of two reports then decides what it shows, and whether a form is submitted. -/
theorem reports_disagree_on_colour :
    let height : Answer := .ok ["7", "Scanning", "unconfirmed"]
    let balance : Answer := .ok ["1", "2", "3", "4", "Shrimp"]
    let c := (start { Settings.default with startScreen := .wallet true } .empty
      ⟨.const [], fun _ _ => ⟨none, 0⟩⟩ 0).run []
    let ab := (c.session.land .blockHeight 1 height).land .balance 2 balance
    let ba := (c.session.land .balance 1 balance).land .blockHeight 2 height
    (c.page.shutdown = false ∧
      Answer.report? .blockHeight height = some (.blockHeight ⟨"7", "Scanning", "unconfirmed"⟩) ∧
      Answer.report? .balance balance = some (.balance ⟨"1", "2", "3", "4", "Shrimp"⟩)) ∧
    ((ab.page.elementsOf ClassName.status).map Element.text = ["2"] ∧
      (ba.page.elementsOf ClassName.status).map Element.text = ["Scanning"] ∧
      ab.page.elements ≠ ba.page.elements) ∧
    ¬ ab.page.outbox.Perm ba.page.outbox := by
  decide +kernel

end Course

end WalletWatch
