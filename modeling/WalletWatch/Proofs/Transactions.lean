import WalletWatch.Proofs.Course.Recent
import WalletWatch.Proofs.Shape
import WalletWatch.Proofs.Transition
/-!
# When transactions are refreshed

The loop of the balance remembers nothing: it compares a balance with the one that the page shows. In
every course in which no colour of the server carries the class of the unconfirmed balance, the page
shows the one that was told last since the page was loaded, and none before
(`Report.writeAll_unconfirmed`). So it is the history of reports and loads that decides whether a
balance submits the form.
-/

namespace WalletWatch

deriving instance DecidableEq for Activity

namespace Report

def balance? : Report → Option BalanceReport
  | balance r => some r
  | _ => none

/-- The balance that some reports told last. -/
def lastBalance? (reports : List Report) : Option BalanceReport :=
  (reports.filterMap balance?).getLast?

/-- Whether a balance is another one than the last that was told, blanks at the ends aside
(`Text.trim_eq_iff`). A balance of blanks (`Text.isBlankText_iff`) tells nothing that another one
could differ from. -/
def Unsettles (reports : List Report) (r : BalanceReport) : Prop :=
  ∃ u, lastBalance? reports = some u ∧ Text.isBlankText u.unconfirmed = false ∧
    Text.trim u.unconfirmed ≠ Text.trim r.unconfirmed

variable {e : Element}

/-- Of all reports only those on the balance are for the element of the unconfirmed balance. -/
theorem write_unconfirmed (className : e.className = ClassName.unconfirmed) (id : e.id = none)
    (report : Report) :
    report.write e = { e with text := (report.balance?.map (·.unconfirmed)).getD e.text } := by
  have own : ∀ name, e.hasClass name = true ↔ name = ClassName.unconfirmed := by
    have word : Text.words ClassName.unconfirmed = [ClassName.unconfirmed] := by decide
    intro name
    rw [Element.hasClass_iff, className, word, List.mem_singleton]
  have noId : ∀ name, e.hasId name = false := by
    intro name
    rw [Element.hasId, id]
    rfl
  have foreign : ∀ feed : Feed, feed ≠ .balance → ¬ feed.Writes e := by
    intro feed other
    have classes : ∀ name ∈ feed.classes, name ≠ ClassName.unconfirmed := by
      cases feed with
      | balance => exact absurd rfl other
      | _ => decide
    have ids : feed.ids = [] := by
      cases feed with
      | balance => exact absurd rfl other
      | _ => rfl
    rintro (⟨name, hn, carried⟩ | ⟨name, hn, -⟩)
    · exact classes name hn ((own name).1 carried)
    · rw [ids] at hn
      cases hn
  cases report with
  | balance r =>
    have others : ∀ name, name ≠ ClassName.unconfirmed → e.hasClass name = false :=
      fun name differs => Bool.eq_false_iff.2 fun carried => differs ((own name).1 carried)
    have confirmed := others ClassName.confirmed (by decide)
    have unconfirmed := (own ClassName.unconfirmed).2 rfl
    have spfFunds : ({ e with text := r.unconfirmed } : Element).hasClass ClassName.spfFunds =
        false := (Element.hasClass_congr rfl _).trans (others ClassName.spfFunds (by decide))
    have nowhere : ∀ name, ({ e with text := r.unconfirmed } : Element).hasId name = false :=
      fun name => (Element.hasId_congr rfl name).trans (noId name)
    rw [write, Element.writeText_of_not_hasClass confirmed,
      Element.writeText_of_hasClass unconfirmed, Element.writeText_of_not_hasClass spfFunds,
      Element.writeTextOf_of_not_hasId (nowhere _), Element.writeValueOf_of_not_hasId (nowhere _)]
    rfl
  | bootstrapper status => exact write_of_untouched (foreign _ (by simp [feed]))
  | consensusBuilder status => exact write_of_untouched (foreign _ (by simp [feed]))
  | blockHeight r => exact write_of_untouched (foreign _ (by simp [feed]))
  | heartbeat alive => rfl

/-- The element of the unconfirmed balance shows what was told of it last. -/
theorem writeAll_unconfirmed (className : e.className = ClassName.unconfirmed) (id : e.id = none)
    (reports : List Report) :
    writeAll reports e =
      { e with text := ((lastBalance? reports).map (·.unconfirmed)).getD e.text } := by
  induction reports using List.reverseRecOn with
  | nil => rfl
  | append_singleton reports report ih =>
    have before : (writeAll reports e).className = ClassName.unconfirmed := by rw [ih, className]
    rw [writeAll_append, writeAll_singleton,
      write_unconfirmed before ((id_writeAll reports e).trans id), ih, lastBalance?, lastBalance?,
      List.filterMap_append, List.getLast?_append]
    cases report <;> rfl

end Report

namespace Page

variable {p : Page} {s : Screen} {reports : List Report}

/-- Colours that do not name the class of the unconfirmed balance leave it to the template who
carries this class. -/
theorem hasClass_unconfirmed_writeAll
    (colours : ∀ r, .blockHeight r ∈ reports → ClassName.unconfirmed ∉ Text.words r.tag)
    {t : Element} (ht : t ∈ s.elements) :
    (Report.writeAll reports t).hasClass ClassName.unconfirmed = true ↔
      t.className = ClassName.unconfirmed := by
  have own : ∀ t ∈ s.elements, (t.hasClass ClassName.unconfirmed = true ↔
      t.className = ClassName.unconfirmed) ∧ (t.hasClass ClassName.status = true →
        t.className ≠ ClassName.unconfirmed) :=
    s.forall_elements (by decide) (by decide) (by decide) (by decide)
  rcases Report.className_writeAll reports t with same | ⟨status, r, hr, coloured⟩
  · rw [Element.hasClass_congr same]
    exact (own t ht).1
  · rw [Element.hasClass_of_statusClass coloured]
    refine iff_of_false ?_ ((own t ht).2 status)
    rintro (e | named)
    · exact absurd e (by decide)
    · exact colours r hr named

theorem template_unconfirmed (s : Screen) : ∀ t ∈ s.elements,
    t.className = ClassName.unconfirmed → t.id = none ∧ t.text = "" :=
  s.forall_elements (by decide) (by decide) (by decide) (by decide)

/-- A wallet shows another balance just when another one was told since it was loaded. -/
theorem showsOtherUnconfirmed_of_written {lastPage : Bool}
    (shown : p.elements = (Screen.wallet lastPage).elements.map (Report.writeAll reports))
    (colours : ∀ r, .blockHeight r ∈ reports → ClassName.unconfirmed ∉ Text.words r.tag)
    (r : BalanceReport) :
    p.showsOtherUnconfirmed r.unconfirmed = true ↔ Report.Unsettles reports r := by
  let told := ((Report.lastBalance? reports).map (·.unconfirmed)).getD ""
  have texts : ∀ t ∈ (Screen.wallet lastPage).elements, t.className = ClassName.unconfirmed →
      (Report.writeAll reports t).text = told := by
    intro t ht className
    obtain ⟨id, text⟩ := template_unconfirmed _ t ht className
    rw [Report.writeAll_unconfirmed className id, text]
  have there : ∃ t ∈ (Screen.wallet lastPage).elements, t.className = ClassName.unconfirmed := by
    cases lastPage <;> decide
  have found : p.showsOtherUnconfirmed r.unconfirmed = true ↔
      Text.isBlankText told = false ∧ Text.trim told ≠ Text.trim r.unconfirmed := by
    simp only [showsOtherUnconfirmed, elementsOf, shown, List.any_eq_true, List.mem_filter,
      List.mem_map, Bool.and_eq_true, Bool.not_eq_true', bne_iff_ne]
    constructor
    · rintro ⟨e, ⟨⟨t, ht, rfl⟩, carried⟩, differs⟩
      rwa [texts t ht ((hasClass_unconfirmed_writeAll colours ht).1 carried)] at differs
    · intro differs
      obtain ⟨t, ht, className⟩ := there
      refine ⟨_, ⟨⟨t, ht, rfl⟩, (hasClass_unconfirmed_writeAll colours ht).2 className⟩, ?_⟩
      rwa [texts t ht className]
  rw [found, Report.Unsettles]
  cases last : Report.lastBalance? reports with
  | none =>
    have blank : told = "" := by simp only [told, last]; rfl
    rw [blank]
    exact iff_of_false (fun differs => absurd differs.1 (by decide)) (by simp)
  | some u =>
    have filled : told = u.unconfirmed := by simp only [told, last]; rfl
    simp [filled]

/-- What a balance calls for does not depend on the confirmed balance that is written first. -/
theorem call?_balance (shown : p.elements = s.elements.map (Report.writeAll reports))
    (colours : ∀ r, .blockHeight r ∈ reports → ClassName.unconfirmed ∉ Text.words r.tag)
    (memory : Option String) (r : BalanceReport) :
    (Report.balance r).call? memory p =
      if p.showsOtherUnconfirmed r.unconfirmed && p.isLastPage then
        some FormName.refreshTransactions
      else none := by
  have apart : ∀ e ∈ p.elements, e.hasClass ClassName.unconfirmed = true →
      e.writeText ClassName.confirmed r.confirmed = e := by
    intro e he carried
    rw [shown] at he
    obtain ⟨t, ht, rfl⟩ := List.mem_map.1 he
    have className := (hasClass_unconfirmed_writeAll colours ht).1 carried
    have kept : (Report.writeAll reports t).className = ClassName.unconfirmed := by
      rw [Report.writeAll_unconfirmed className (template_unconfirmed s t ht className).1, className]
    refine Element.writeText_of_not_hasClass ?_
    rw [Element.hasClass, kept]
    decide
  have seen : (p.writeText ClassName.confirmed r.confirmed).elementsOf ClassName.unconfirmed =
      p.elementsOf ClassName.unconfirmed :=
    elementsOf_of_map (elements_writeText p _ _) (fun e _ => Element.hasClass_writeText _) apart
  simp only [Report.call?, showsOtherUnconfirmed, seen, isLastPage_writeText]
  rfl

end Page

namespace Course

variable {settings : Settings} {c : Course}

/-- **When transactions are refreshed.** In a course in which no colour that was sent names the class
of the unconfirmed balance, a balance that lands submits the form just when the page is not shut down,
shows a wallet on its last page, and was told another balance since it was loaded; it does so once.
On any other screen, and as the first balance after a load, it submits nothing. -/
theorem balance_refreshes_transactions (settings : Settings) (store : Store) (script : Script)
    (now : Int) (moves : List Move) (answer : Answer) (r : BalanceReport)
    (colours : ∀ tag, ((start settings store script now).run moves).Sent tag →
      ClassName.unconfirmed ∉ Text.words tag)
    (awaits : ((start settings store script now).run moves).Awaits .balance answer)
    (read : Answer.report? .balance answer = some (.balance r)) :
    let c := (start settings store script now).run moves
    let recent := (start settings store script now).recent moves
    let unsettled := c.page.shutdown = false ∧ c.page.screen = some (.wallet true) ∧
      Report.Unsettles recent r
    (unsettled → c.queued (.land .balance) = [⟨FormName.refreshTransactions, Screen.formAction⟩]) ∧
      (¬ unsettled → c.queued (.land .balance) = []) ∧
      (c.page.screen ≠ some (.wallet true) → c.queued (.land .balance) = []) ∧
      (Report.lastBalance? recent = none → c.queued (.land .balance) = []) := by
  intro c recent unsettled
  have hl : c.Lawful settings := lawful_run settings store script now moves
  obtain ⟨s, hr⟩ := hl.renders
  have written := written_run settings store script now moves
  have own : ∀ r, .blockHeight r ∈ recent → ClassName.unconfirmed ∉ Text.words r.tag :=
    fun r hr => colours r.tag ⟨r, written.landed _ hr, rfl⟩
  have queued : c.queued (.land .balance) = c.page.accepts (c.called .balance answer) :=
    queued_land awaits
  have call : c.called .balance answer =
      (Report.balance r).call? (c.session.memory.get .balance) c.page := by
    rw [called, Answer.call?, read]
    rfl
  have yes : unsettled →
      c.queued (.land .balance) = [⟨FormName.refreshTransactions, Screen.formAction⟩] := by
    rintro ⟨running, screen, unsettles⟩
    obtain ⟨s', hs', shown⟩ := written.elements running
    obtain rfl : s' = .wallet true := Option.some.inj (hs'.symm.trans screen)
    obtain rfl : s = .wallet true := Option.some.inj (hr.screen.symm.trans screen)
    have other := (Page.showsOtherUnconfirmed_of_written shown own r).2 unsettles
    have last := (Page.isLastPage_of_written shown).2 rfl
    rw [queued, call, Page.call?_balance shown own, other, last, Bool.and_self, if_pos rfl,
      hr.accepts, if_pos ⟨running, by decide⟩]
  have no : ¬ unsettled → c.queued (.land .balance) = [] := by
    intro settled
    cases running : c.page.shutdown with
    | true => rw [queued, Page.accepts_of_no_forms (hr.empty running).2.1]
    | false =>
      obtain ⟨s', hs', shown⟩ := written.elements running
      have quiet : (c.page.showsOtherUnconfirmed r.unconfirmed && c.page.isLastPage) = false := by
        rw [Bool.and_eq_false_imp]
        intro other
        rw [Bool.eq_false_iff, ne_eq, Page.isLastPage_of_written shown]
        rintro rfl
        exact settled ⟨running, hs', (Page.showsOtherUnconfirmed_of_written shown own r).1 other⟩
      rw [queued, call, Page.call?_balance shown own, quiet, if_neg Bool.false_ne_true,
        Page.accepts_none]
  refine ⟨yes, no, fun elsewhere => no fun h => elsewhere h.2.1, fun first => no ?_⟩
  rintro ⟨-, -, u, last, -⟩
  rw [first] at last
  cases last

/-- A colour that names the class of the confirmed balance, and writes it on the status, does not
change what a new balance is compared with. -/
theorem balance_refreshes_transactions_beside_odd_colour :
    let first : BalanceReport := ⟨"1", "5.00", "0", "0", "Shrimp"⟩
    let second : Answer := .ok ["1", " 7.50 ", "0", "0", "Shrimp"]
    let script : Script := ⟨((PerFeed.const []).set .balance
      [⟨.ok ["1", "5.00", "0", "0", "Shrimp"], 0⟩, ⟨second, 0⟩]).set .blockHeight
      [⟨.ok ["7", "Scanning", "confirmed blue"], 0⟩], fun _ _ => ⟨none, 0⟩⟩
    let moves : List Move := [.chore .startPolling, .chore (.beginLoop .balance),
      .chore (.beginLoop .blockHeight), .tick .blockHeight, .land .blockHeight, .tick .balance,
      .land .balance, .tick .balance]
    let opened := start { Settings.default with startScreen := .wallet true } .empty script 0
    let c := opened.run moves
    (c.Awaits .balance second ∧ Report.lastBalance? (opened.recent moves) = some first) ∧
      c.queued (.land .balance) = [⟨FormName.refreshTransactions, "/"⟩] := by
  intro first second script moves opened c
  have colours : ∀ tag, c.Sent tag → ClassName.unconfirmed ∉ Text.words tag := by
    have heights : c.reports .blockHeight = [.blockHeight ⟨"7", "Scanning", "confirmed blue"⟩] := by
      decide +kernel
    rintro tag ⟨r, hr, rfl⟩
    rw [heights, List.mem_singleton] at hr
    obtain rfl := Report.blockHeight.inj hr
    decide
  have loop : c.watch.loops.get .balance = .awaiting second 0 := by decide +kernel
  have awaits : c.Awaits .balance second := ⟨0, loop⟩
  have told : Report.lastBalance? (opened.recent moves) = some first := by decide +kernel
  obtain ⟨refreshes, -⟩ := balance_refreshes_transactions
    { Settings.default with startScreen := .wallet true } .empty script 0 moves second
    ⟨"1", " 7.50 ", "0", "0", "Shrimp"⟩ colours awaits rfl
  exact ⟨⟨awaits, told⟩, refreshes ⟨by decide, by decide, first, told, by decide, by decide⟩⟩

end Course

end WalletWatch
