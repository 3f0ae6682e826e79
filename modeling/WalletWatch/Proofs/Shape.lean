import WalletWatch.Proofs.Course.Recent
/-!
# The shape of a page

Whatever is reported, in every course, a page that is not shut down keeps the shape of its screen's
template: its forms, and its elements with their order, kinds, ids and labels. A marker stays blank,
because no report is for one (`Screen.untouched_of_marker`), and only the button of the whale size
gets a value. Of the class names only that of the status element changes, and it keeps its first word.
So each loop finds its elements on every such page, whatever words the colours of the server have.
-/

namespace WalletWatch

/-- What may be written on an element: nothing on a marker, and a value on one button only. -/
structure Element.Reserved (e : Element) : Prop where
  marker : e.kind = .marker → e.text = "" ∧ e.value = ""
  value : e.value ≠ "" → e.id = some ElementId.whaleSizeButton

namespace Report

variable {e : Element}

theorem value_write (report : Report) (h : e.hasId ElementId.whaleSizeButton = false) :
    (report.write e).value = e.value := by
  cases report with
  | balance r =>
    have button : ∀ e' : Element, e'.id = e.id →
        (e'.writeValueOf ElementId.whaleSizeButton (Page.whaleText r.whaleSize)).value = e'.value :=
      fun e' id => by rw [Element.writeValueOf_of_not_hasId (by rwa [Element.hasId_congr id])]
    rw [write]
    refine (button _ ?_).trans ?_ <;> simp
  | bootstrapper status => simp [write]
  | consensusBuilder status => simp [write]
  | blockHeight r => simp [write]
  | heartbeat alive => rfl

theorem value_writeAll (reports : List Report) (h : e.hasId ElementId.whaleSizeButton = false) :
    (writeAll reports e).value = e.value := by
  induction reports using List.reverseRecOn with
  | nil => rfl
  | append_singleton reports report ih =>
    have other : (writeAll reports e).hasId ElementId.whaleSizeButton = false := by
      rwa [Element.hasId_congr (id_writeAll reports e)]
    rw [writeAll_append, writeAll_singleton, value_write report other, ih]

theorem writeAll_of_untouched (reports : List Report) (h : ∀ feed : Feed, ¬ feed.Writes e) :
    writeAll reports e = e := by
  induction reports with
  | nil => rfl
  | cons report reports ih =>
    rw [writeAll, List.foldl_cons, write_of_untouched (h report.feed)]
    exact ih

end Report

namespace Screen

theorem untouched_of_marker {s : Screen} {t : Element} (ht : t ∈ s.elements)
    (marker : t.kind = .marker) (feed : Feed) : ¬ feed.Writes t := by
  have all : ∀ t ∈ s.elements, t.kind = .marker → ∀ feed ∈ Feed.all, ¬ feed.Writes t :=
    s.forall_elements (by decide) (by decide) (by decide) (by decide)
  exact all t ht marker feed feed.mem_all

theorem blank_of_mem_elements {s : Screen} {t : Element} (ht : t ∈ s.elements) :
    t.text = "" ∧ t.value = "" :=
  s.forall_elements (P := fun t => t.text = "" ∧ t.value = "") (by decide) (by decide) (by decide)
    (by decide) t ht

end Screen

/-- Reports leave what is reserved on an element of a template. -/
theorem Report.reserved_writeAll (reports : List Report) {s : Screen} {t : Element}
    (ht : t ∈ s.elements) : (writeAll reports t).Reserved := by
  obtain ⟨text, value⟩ := Screen.blank_of_mem_elements ht
  refine ⟨fun marker => ?_, fun valued => ?_⟩
  · rw [kind_writeAll] at marker
    rw [writeAll_of_untouched reports (Screen.untouched_of_marker ht marker)]
    exact ⟨text, value⟩
  · cases button : t.hasId ElementId.whaleSizeButton with
    | true => rw [id_writeAll, eq_of_beq button]
    | false => exact absurd ((value_writeAll reports button).trans value) valued

/-! ## What is found on a page -/

namespace Page

variable {p : Page} {s : Screen} {reports : List Report}

/-- An element that is written on keeps its place, its id and its classes but for the status class. -/
theorem element?_of_written (shown : p.elements = s.elements.map (Report.writeAll reports))
    (id : String) :
    p.element? id = (s.elements.find? (·.hasId id)).map (Report.writeAll reports) := by
  have ids : (fun e : Element => e.hasId id) ∘ Report.writeAll reports = (·.hasId id) :=
    funext fun e => Element.hasId_congr (Report.id_writeAll reports e) id
  rw [element?, shown, List.find?_map, ids]

theorem hasClass_status_writeAll (reports : List Report) (e : Element) :
    (Report.writeAll reports e).hasClass ClassName.status = e.hasClass ClassName.status := by
  rcases Report.className_writeAll reports e with same | ⟨status, r, -, coloured⟩
  · exact Element.hasClass_congr same _
  · rw [status, Element.hasClass_of_statusClass coloured]
    exact .inl rfl

theorem elementsOf_status_of_written
    (shown : p.elements = s.elements.map (Report.writeAll reports)) :
    p.elementsOf ClassName.status =
      (s.elements.filter (·.hasClass ClassName.status)).map (Report.writeAll reports) := by
  have status : (fun e : Element => e.hasClass ClassName.status) ∘ Report.writeAll reports =
      (·.hasClass ClassName.status) := funext (hasClass_status_writeAll reports)
  rw [elementsOf, shown, List.filter_map, status]

/-- A class other than that of the status is found on a page if its template has it. -/
theorem hasClass_of_written (shown : p.elements = s.elements.map (Report.writeAll reports))
    {t : Element} (ht : t ∈ s.elements) {className : String} (carried : t.hasClass className = true)
    (other : t.hasClass ClassName.status = false) : p.hasClass className = true := by
  refine List.any_eq_true.2 ⟨Report.writeAll reports t, shown ▸ List.mem_map_of_mem ht, ?_⟩
  rcases Report.className_writeAll reports t with same | ⟨status, -⟩
  · rwa [Element.hasClass_congr same]
  · rw [other] at status
    cases status

/-- The marker of the last page says which screen is shown. -/
theorem isLastPage_of_written (shown : p.elements = s.elements.map (Report.writeAll reports)) :
    p.isLastPage = true ↔ s = .wallet true := by
  have marker : ∀ t ∈ s.elements, t.hasId ElementId.isLastPage = true → t.kind = .marker :=
    s.forall_elements (by decide) (by decide) (by decide) (by decide)
  have blank : (s.elements.find? (·.hasId ElementId.isLastPage)).map (Report.writeAll reports) =
      s.elements.find? (·.hasId ElementId.isLastPage) := by
    cases found : s.elements.find? (·.hasId ElementId.isLastPage) with
    | none => rfl
    | some t =>
      have ht := List.mem_of_find?_eq_some found
      have untouched := Screen.untouched_of_marker ht (marker t ht (List.find?_some found))
      rw [Option.map_some, Report.writeAll_of_untouched reports untouched]
  rw [isLastPage, element?_of_written shown, blank]
  clear shown marker blank
  rcases s with _ | _ | lastPage
  · decide
  · decide
  · cases lastPage <;> decide

/-- On a wallet one element carries the status class, and the loops of the wallet find theirs. -/
theorem wallet_of_written {lastPage : Bool}
    (shown : p.elements = (Screen.wallet lastPage).elements.map (Report.writeAll reports)) :
    (p.elementsOf ClassName.status).length = 1 ∧ Feed.blockHeight.isShown p = true ∧
      Feed.balance.isShown p = true := by
  refine ⟨?_, ?_, ?_⟩
  · rw [elementsOf_status_of_written shown, List.length_map]
    cases lastPage <;> decide
  · exact hasClass_of_written shown List.mem_cons_self (by decide) (by decide)
  · rw [Feed.isShown, element?_of_written shown, Option.isSome_map]
    cases lastPage <;> decide

end Page

namespace Course

/-- **A page keeps its template.** At every moment of a course at which the page is not shut down, it
has the forms of its screen, all with one action, and the elements of its screen in their order. A
class name is that of the template, or that of the status element with a colour that was sent; markers
stay blank, and one button only has a value. So ids are not found twice, a wallet has one element for
the status and shows what its loops report on, and the marker of the last page tells the screen. -/
theorem page_keeps_template (settings : Settings) (store : Store) (script : Script) (now : Int)
    (moves : List Move)
    (running : ((start settings store script now).run moves).page.shutdown = false) :
    let c := (start settings store script now).run moves
    ∃ s, c.page.screen = some s ∧
      (c.page.forms = s.forms ∧ ∀ form ∈ c.page.forms, form.action = "/") ∧
      List.Forall₂ (Element.Fits c.Sent) s.elements c.page.elements ∧
      (∀ e ∈ c.page.elements, e.Reserved) ∧
      (c.page.elements.filterMap (·.id)).Nodup ∧
      (∀ lastPage, s = .wallet lastPage →
        (c.page.elementsOf ClassName.status).length = 1 ∧
          c.session.shows .blockHeight = true ∧ c.session.shows .balance = true) ∧
      (c.page.isLastPage = true ↔ s = .wallet true) := by
  intro c
  have hl : c.Lawful settings := lawful_run settings store script now moves
  obtain ⟨s, hr⟩ := hl.renders
  obtain ⟨s', hs', shown⟩ := (written_run settings store script now moves).elements running
  obtain rfl : s = s' := Option.some.inj (hr.screen.symm.trans hs')
  refine ⟨s, hr.screen, ⟨hr.forms_of_open running, ?_⟩, ?_, ?_, hr.distinct, ?_,
    Page.isLastPage_of_written shown⟩
  · intro form hform
    rw [hr.forms_of_open running, Screen.forms] at hform
    obtain ⟨name, -, rfl⟩ := List.mem_map.1 hform
    rfl
  · have whole : Page.plan s c.page.shutdown = s.elements := by
      rw [Page.plan, running]
      rfl
    exact whole ▸ hr.elements
  · intro e he
    rw [shown] at he
    obtain ⟨t, ht, rfl⟩ := List.mem_map.1 he
    exact Report.reserved_writeAll _ ht
  · rintro lastPage rfl
    exact Page.wallet_of_written shown

/-- A colour with the words of other classes makes the status element a target of the balance too,
and neither the marker nor the shape of the page gives way. -/
theorem page_keeps_template_for_odd_colour :
    let script : Script := ⟨((PerFeed.const []).set .blockHeight
      [⟨.ok ["7", "Scanning", " confirmed true"], 0⟩]).set .balance
      [⟨.ok ["1", "2", "3", "4", "Shrimp"], 0⟩], fun _ _ => ⟨none, 0⟩⟩
    let c := (start { Settings.default with startScreen := .wallet true } .empty script 0).run
      [.chore .startPolling, .chore (.beginLoop .blockHeight), .chore (.beginLoop .balance),
        .tick .blockHeight, .land .blockHeight, .tick .balance, .land .balance]
    (c.page.shutdown = false ∧ c.page.screen = some (.wallet true) ∧
      (c.page.elementsOf ClassName.status).map (fun e => (e.className, e.text)) =
        [("status  confirmed true", "1")]) ∧
      c.page.isLastPage = true ∧ ∀ e ∈ c.page.elements, e.Reserved := by
  intro script c
  have running : c.page.shutdown = false := by decide
  have screen : c.page.screen = some (.wallet true) := by decide
  obtain ⟨s, hs, -, -, reserved, -, -, last⟩ := page_keeps_template
    { Settings.default with startScreen := .wallet true } .empty script 0 _ running
  have wallet : s = .wallet true := Option.some.inj (hs.symm.trans screen)
  exact ⟨⟨running, screen, by decide⟩, last.2 wallet, reserved⟩

end Course

end WalletWatch
