import WalletWatch.Proofs.Poll.Landing
/-!
# Reports, element by element

A report is written on each element by itself (`Report.write`): as long as no two elements of a page
have one id, a landing that does not end the page replaces every element by what the report makes of
it (`Landing.elements_ofReport`). An element keeps its kind, id and label whatever is written, and its
class name unless it carries the status class; and it stays as it is if the report is for none of its
classes and not for its id (`Report.write_of_untouched`). A report overwrites what an earlier one of
its feed wrote (`Report.write_absorb`).
-/

namespace WalletWatch

/-! ## The words of a status class -/

/-- A blank between two texts separates their words. -/
theorem Text.words_append_space (a b : String) : words (a ++ " " ++ b) = words a ++ words b := by
  have chars : (a ++ " " ++ b).toList = a.toList ++ ' ' :: b.toList := by simp
  rw [words, chars, wordsOf_append_cons a.toList isBlank_space, List.map_append]
  rfl

/-- The words of a status class are the class that it keeps, and those of the colour. -/
theorem Page.words_statusClass (tag : String) :
    Text.words (statusClass tag) = ClassName.status :: Text.words tag := by
  have own : Text.words ClassName.status = [ClassName.status] := by decide
  rw [statusClass, Text.words_append_space, own, List.singleton_append]

namespace Element

theorem hasClass_iff {className : String} {e : Element} :
    e.hasClass className = true ↔ className ∈ Text.words e.className := by
  rw [hasClass, List.contains_iff_mem]

/-- An element with a status class carries that class and the words of the colour. -/
theorem hasClass_of_statusClass {tag className : String} {e : Element}
    (h : e.className = Page.statusClass tag) :
    e.hasClass className = true ↔ className = ClassName.status ∨ className ∈ Text.words tag := by
  rw [hasClass_iff, h, Page.words_statusClass, List.mem_cons]

/-! ## Writing on one element

What becomes of an element when something is written by class or by id. -/

def writeText (className text : String) (e : Element) : Element :=
  { e with text := if e.hasClass className then text else e.text }

def writeClassName (className newName : String) (e : Element) : Element :=
  { e with className := if e.hasClass className then newName else e.className }

def writeTextOf (id text : String) (e : Element) : Element :=
  { e with text := if e.hasId id then text else e.text }

def writeValueOf (id value : String) (e : Element) : Element :=
  { e with value := if e.hasId id then value else e.value }

theorem hasClass_congr {e e' : Element} (h : e'.className = e.className) (className : String) :
    e'.hasClass className = e.hasClass className := by
  rw [hasClass, hasClass, h]

theorem hasId_congr {e e' : Element} (h : e'.id = e.id) (id : String) :
    e'.hasId id = e.hasId id := by
  rw [hasId, hasId, h]

section Cases

variable {e : Element} {name text : String}

@[simp] theorem className_writeText : (e.writeText name text).className = e.className := rfl

@[simp] theorem className_writeTextOf : (e.writeTextOf name text).className = e.className := rfl

@[simp] theorem className_writeValueOf : (e.writeValueOf name text).className = e.className := rfl

@[simp] theorem id_writeText : (e.writeText name text).id = e.id := rfl

@[simp] theorem id_writeTextOf : (e.writeTextOf name text).id = e.id := rfl

@[simp] theorem value_writeText : (e.writeText name text).value = e.value := rfl

@[simp] theorem value_writeClassName : (e.writeClassName name text).value = e.value := rfl

@[simp] theorem value_writeTextOf : (e.writeTextOf name text).value = e.value := rfl

@[simp] theorem hasClass_writeText (className : String) :
    (e.writeText name text).hasClass className = e.hasClass className :=
  hasClass_congr rfl className

theorem writeText_of_hasClass (h : e.hasClass name = true) :
    e.writeText name text = { e with text } := by
  simp [writeText, h]

theorem writeText_of_not_hasClass (h : e.hasClass name = false) : e.writeText name text = e := by
  simp [writeText, h]

theorem writeText_eq :
    e.writeText name text = if e.hasClass name then { e with text } else e := by
  cases carried : e.hasClass name with
  | true => exact writeText_of_hasClass carried
  | false => exact writeText_of_not_hasClass carried

theorem writeClassName_of_hasClass (h : e.hasClass name = true) :
    e.writeClassName name text = { e with className := text } := by
  simp [writeClassName, h]

theorem writeClassName_of_not_hasClass (h : e.hasClass name = false) :
    e.writeClassName name text = e := by
  simp [writeClassName, h]

theorem writeTextOf_of_not_hasId (h : e.hasId name = false) : e.writeTextOf name text = e := by
  simp [writeTextOf, h]

theorem writeValueOf_of_not_hasId (h : e.hasId name = false) : e.writeValueOf name text = e := by
  simp [writeValueOf, h]

end Cases

end Element

/-! ## Writing on a page -/

/-- If no two items have one key, changing the first item with a key changes all that have it. -/
theorem updateFirst_eq_map {α κ : Type} [DecidableEq κ] {key : α → Option κ} (k : κ)
    (change : α → α) {as : List α} (distinct : (as.filterMap key).Nodup) :
    updateFirst (key · == some k) change as =
      as.map fun a => if key a == some k then change a else a := by
  induction as with
  | nil => rfl
  | cons a as ih =>
    rw [updateFirst, List.map_cons]
    by_cases here : key a = some k
    · have others : ∀ b ∈ as, (if key b == some k then change b else b) = b := by
        intro b hb
        rw [List.filterMap_cons_some here, List.nodup_cons] at distinct
        have differs : key b ≠ some k := fun hk => distinct.1 (List.mem_filterMap.2 ⟨b, hb, hk⟩)
        simp [differs]
      simp only [here, beq_self_eq_true, if_true, List.map_congr_left others, List.map_id']
    · have rest : (as.filterMap key).Nodup :=
        distinct.sublist ((List.sublist_cons_self a as).filterMap key)
      simp [here, ih rest]

namespace Page

variable {p : Page}

/-- No two elements have one id. -/
def Distinct (p : Page) : Prop :=
  (p.elements.filterMap (·.id)).Nodup

/-- Elements keep their ids under a change that does. -/
theorem Distinct.map (h : p.Distinct) {q : Page} {change : Element → Element}
    (e : q.elements = p.elements.map change) (keep : ∀ e, (change e).id = e.id) : q.Distinct := by
  have same : (fun e => (change e).id) = (·.id) := funext keep
  rwa [Distinct, e, List.filterMap_map, Function.comp_def, same]

theorem distinct_plan (s : Screen) (shutdown : Bool) :
    ((plan s shutdown).filterMap (·.id)).Nodup := by
  cases shutdown with
  | true => exact List.nodup_nil
  | false =>
    rcases s with _ | _ | lastPage
    · decide
    · decide
    · cases lastPage <;> decide

theorem ids_eq_of_fits {sent : String → Prop} {ts es : List Element}
    (h : List.Forall₂ (Element.Fits sent) ts es) : es.filterMap (·.id) = ts.filterMap (·.id) := by
  induction h with
  | nil => rfl
  | cons fits _ ih => simp only [List.filterMap_cons, fits.id, ih]

theorem Renders.distinct {sent : String → Prop} {s : Screen} (h : p.Renders sent s) :
    p.Distinct := by
  rw [Distinct, ids_eq_of_fits h.elements]
  exact distinct_plan s p.shutdown

theorem elements_writeText (p : Page) (className text : String) :
    (p.writeText className text).elements = p.elements.map (.writeText className text) := by
  refine List.map_congr_left fun e _ => ?_
  simp only [Element.writeText]
  split <;> rfl

theorem elements_writeClassName (p : Page) (className newName : String) :
    (p.writeClassName className newName).elements =
      p.elements.map (.writeClassName className newName) := by
  refine List.map_congr_left fun e _ => ?_
  simp only [Element.writeClassName]
  split <;> rfl

theorem elements_writeTextOf (h : p.Distinct) (id text : String) :
    (p.writeTextOf id text).elements = p.elements.map (.writeTextOf id text) := by
  refine (updateFirst_eq_map id _ h).trans (List.map_congr_left fun e _ => ?_)
  simp only [Element.writeTextOf, Element.hasId]
  split <;> simp only [*] <;> rfl

theorem elements_writeValueOf (h : p.Distinct) (id value : String) :
    (p.writeValueOf id value).elements = p.elements.map (.writeValueOf id value) := by
  refine (updateFirst_eq_map id _ h).trans (List.map_congr_left fun e _ => ?_)
  simp only [Element.writeValueOf, Element.hasId]
  split <;> simp only [*] <;> rfl

/-- A change that keeps who carries a class, and leaves these alone, is not seen through the class. -/
theorem elementsOf_of_map {q : Page} {change : Element → Element} {className : String}
    (e : q.elements = p.elements.map change)
    (carries : ∀ e ∈ p.elements, (change e).hasClass className = e.hasClass className)
    (alone : ∀ e ∈ p.elements, e.hasClass className = true → change e = e) :
    q.elementsOf className = p.elementsOf className := by
  have found : p.elements.filter ((·.hasClass className) ∘ change) = p.elementsOf className :=
    List.filter_congr carries
  rw [elementsOf, e, List.filter_map, found]
  have same : ∀ e ∈ p.elementsOf className, change e = id e := by
    intro e he
    obtain ⟨he, carried⟩ := List.mem_filter.1 he
    exact alone e he carried
  rw [List.map_congr_left same, List.map_id]

theorem elementsOf_writeText (p : Page) (name text className : String) :
    (p.writeText name text).elementsOf className =
      (p.elementsOf className).map (.writeText name text) := by
  have classes : (fun e : Element => e.hasClass className) ∘ Element.writeText name text =
      (·.hasClass className) := rfl
  rw [elementsOf, elements_writeText, List.filter_map, classes]
  rfl

theorem isLastPage_writeText (p : Page) (className text : String) :
    (p.writeText className text).isLastPage = p.isLastPage := by
  have ids : ((·.hasId ElementId.isLastPage) ∘ Element.writeText className text) =
      (·.hasId ElementId.isLastPage) := rfl
  rw [isLastPage, isLastPage, element?, element?, elements_writeText, List.find?_map, ids,
    Option.any_map]
  rfl

end Page

namespace Report

/-- What a report makes of an element. -/
def write : Report → Element → Element
  | .bootstrapper status, e => e.writeText ClassName.bootstrapperProgress status
  | .consensusBuilder status, e => e.writeText ClassName.consensusBuilderProgress status
  | .blockHeight r, e =>
    ((e.writeText ClassName.blockHeight r.height).writeText ClassName.status
      r.status).writeClassName ClassName.status (Page.statusClass r.tag)
  | .balance r, e =>
    ((((e.writeText ClassName.confirmed r.confirmed).writeText ClassName.unconfirmed
      r.unconfirmed).writeText ClassName.spfFunds r.spfFunds).writeTextOf ElementId.whaleSize
      (Page.whaleText r.whaleSize)).writeValueOf ElementId.whaleSizeButton
      (Page.whaleText r.whaleSize)
  | .heartbeat _, e => e

variable (report : Report) (e : Element)

@[simp] theorem kind_write : (report.write e).kind = e.kind := by
  cases report <;> simp only [write, Element.writeText, Element.writeClassName,
    Element.writeTextOf, Element.writeValueOf]

@[simp] theorem id_write : (report.write e).id = e.id := by
  cases report <;> simp only [write, Element.writeText, Element.writeClassName,
    Element.writeTextOf, Element.writeValueOf]

@[simp] theorem label_write : (report.write e).label = e.label := by
  cases report <;> simp only [write, Element.writeText, Element.writeClassName,
    Element.writeTextOf, Element.writeValueOf]

end Report

/-! ## Landings -/

namespace Page

variable {p : Page}

theorem elements_submitIf (p : Page) (reason : Bool) (form : String) (event : Event) :
    (p.submitIf reason form event).1.elements = p.elements := by
  rw [submitIf_eq]

theorem elements_showHeight (p : Page) (r : HeightReport) :
    (p.showHeight r).elements = p.elements.map (Report.blockHeight r).write := by
  rw [showHeight, elements_writeClassName, elements_writeText, elements_writeText, List.map_map,
    List.map_map]
  rfl

theorem elements_showUnconfirmed (h : p.Distinct) (r : BalanceReport) {q : Page}
    (e : q.elements = p.elements.map (.writeText ClassName.confirmed r.confirmed)) :
    (q.showUnconfirmed r).elements = p.elements.map (Report.balance r).write := by
  have dq : q.Distinct := h.map e fun _ => rfl
  have du : (q.writeText ClassName.unconfirmed r.unconfirmed).Distinct :=
    dq.map (elements_writeText q _ _) fun _ => rfl
  have ds : ((q.writeText ClassName.unconfirmed r.unconfirmed).writeText ClassName.spfFunds
      r.spfFunds).Distinct := du.map (elements_writeText _ _ _) fun _ => rfl
  have dw : (((q.writeText ClassName.unconfirmed r.unconfirmed).writeText ClassName.spfFunds
      r.spfFunds).writeTextOf ElementId.whaleSize (whaleText r.whaleSize)).Distinct :=
    ds.map (elements_writeTextOf ds _ _) fun _ => rfl
  rw [showUnconfirmed, elements_writeValueOf dw, elements_writeTextOf ds, elements_writeText,
    elements_writeText, e, List.map_map, List.map_map, List.map_map, List.map_map]
  rfl

end Page

/-- A report that is written by class alone is written on the elements of any page one by one. -/
theorem Landing.elements_ofReport_of_classes (now : Int) (memory : Option String) (p : Page)
    {report : Report} (classes : report.feed ≠ .balance)
    (running : (ofReport now memory p report).next ≠ .stop) :
    (ofReport now memory p report).page.elements = p.elements.map report.write := by
  cases report with
  | bootstrapper status =>
    refine (Page.elements_writeText _ _ _).trans ?_
    rw [Page.elements_submitIf]
    rfl
  | consensusBuilder status =>
    refine (Page.elements_writeText _ _ _).trans ?_
    rw [Page.elements_submitIf]
    rfl
  | blockHeight r =>
    refine (Page.elements_showHeight _ r).trans ?_
    rw [Page.elements_submitIf]
  | balance r => exact absurd rfl classes
  | heartbeat alive =>
    cases alive with
    | true => exact (List.map_id' p.elements).symm
    | false => exact absurd rfl running

/-- A report that does not end the page is written on its elements one by one. -/
theorem Landing.elements_ofReport {p : Page} (h : p.Distinct) (now : Int)
    (memory : Option String) {report : Report}
    (running : (ofReport now memory p report).next ≠ .stop) :
    (ofReport now memory p report).page.elements = p.elements.map report.write := by
  cases report with
  | balance r =>
    refine Page.elements_showUnconfirmed h r ?_
    rw [Page.elements_submitIf, Page.elements_writeText]
  | _ => exact elements_ofReport_of_classes now memory p nofun running

/-! ## What a report is for -/

namespace Feed

/-- The classes on which the reports of a feed are written. -/
def classes : Feed → List String
  | bootstrapper => [ClassName.bootstrapperProgress]
  | consensusBuilder => [ClassName.consensusBuilderProgress]
  | blockHeight => [ClassName.blockHeight, ClassName.status]
  | balance => [ClassName.confirmed, ClassName.unconfirmed, ClassName.spfFunds]
  | heartbeat => []

/-- The ids to which the reports of a feed are written. -/
def ids : Feed → List String
  | balance => [ElementId.whaleSize, ElementId.whaleSizeButton]
  | _ => []

/-- Whether the reports of a feed are for an element: for one of its classes, or for its id. -/
def Writes (feed : Feed) (e : Element) : Prop :=
  (∃ className ∈ feed.classes, e.hasClass className = true) ∨
    ∃ id ∈ feed.ids, e.hasId id = true

instance (feed : Feed) (e : Element) : Decidable (feed.Writes e) :=
  inferInstanceAs (Decidable (_ ∨ _))

theorem writes_congr {e e' : Element} (className : e'.className = e.className) (id : e'.id = e.id)
    (feed : Feed) : feed.Writes e' ↔ feed.Writes e := by
  simp only [Writes, Element.hasClass_congr className, Element.hasId_congr id]

end Feed

namespace Report

variable {report : Report} {e : Element}

/-- A report leaves alone what it is not for. -/
theorem write_of_untouched (h : ¬ report.feed.Writes e) : report.write e = e := by
  simp only [Feed.Writes, not_or, not_exists, not_and, Bool.not_eq_true] at h
  obtain ⟨classes, ids⟩ := h
  cases report with
  | bootstrapper status => exact Element.writeText_of_not_hasClass (classes _ List.mem_cons_self)
  | consensusBuilder status =>
    exact Element.writeText_of_not_hasClass (classes _ List.mem_cons_self)
  | blockHeight r =>
    have height := classes ClassName.blockHeight (by simp [feed, Feed.classes])
    have status := classes ClassName.status (by simp [feed, Feed.classes])
    rw [write, Element.writeText_of_not_hasClass height, Element.writeText_of_not_hasClass status,
      Element.writeClassName_of_not_hasClass status]
  | balance r =>
    have confirmed := classes ClassName.confirmed (by simp [feed, Feed.classes])
    have unconfirmed := classes ClassName.unconfirmed (by simp [feed, Feed.classes])
    have spfFunds := classes ClassName.spfFunds (by simp [feed, Feed.classes])
    have size := ids ElementId.whaleSize (by simp [feed, Feed.ids])
    have button := ids ElementId.whaleSizeButton (by simp [feed, Feed.ids])
    rw [write, Element.writeText_of_not_hasClass confirmed,
      Element.writeText_of_not_hasClass unconfirmed, Element.writeText_of_not_hasClass spfFunds,
      Element.writeTextOf_of_not_hasId size, Element.writeValueOf_of_not_hasId button]
  | heartbeat alive => rfl

/-- A report on the height gives the status element its status and its colour. -/
theorem write_blockHeight_of_status (r : HeightReport)
    (h : e.hasClass ClassName.status = true) :
    (blockHeight r).write e =
      { e with text := r.status, className := Page.statusClass r.tag } := by
  have kept : (e.writeText ClassName.blockHeight r.height).hasClass ClassName.status = true := by
    rwa [Element.hasClass_writeText]
  have written : ((e.writeText ClassName.blockHeight r.height).writeText ClassName.status
      r.status).hasClass ClassName.status = true := by
    rwa [Element.hasClass_writeText]
  rw [write, Element.writeClassName_of_hasClass written, Element.writeText_of_hasClass kept]
  rfl

/-- A class name is overwritten only by the height, and only where the status class is carried. -/
theorem className_write (report : Report) (e : Element) :
    (report.write e).className = e.className ∨
      ∃ r, report = .blockHeight r ∧ e.hasClass ClassName.status = true ∧
        (report.write e).className = Page.statusClass r.tag := by
  cases report with
  | blockHeight r =>
    cases h : e.hasClass ClassName.status with
    | true => exact .inr ⟨r, rfl, rfl, by rw [write_blockHeight_of_status r h]⟩
    | false =>
      left
      rw [write, Element.writeClassName_of_not_hasClass (by simpa using h)]
      simp
  | bootstrapper status => exact .inl (by simp [write])
  | consensusBuilder status => exact .inl (by simp [write])
  | balance r => exact .inl (by simp [write])
  | heartbeat alive => exact .inl rfl

theorem className_write_of_feed_ne (h : report.feed ≠ .blockHeight) (e : Element) :
    (report.write e).className = e.className := by
  rcases report.className_write e with same | ⟨r, rfl, -, -⟩
  · exact same
  · exact absurd rfl h

/-! ## Overwriting -/

theorem exists_of_feed_blockHeight (h : report.feed = .blockHeight) :
    ∃ r, report = .blockHeight r := by
  cases report with
  | blockHeight r => exact ⟨r, rfl⟩
  | _ => cases h

theorem exists_of_feed_balance (h : report.feed = .balance) : ∃ r, report = .balance r := by
  cases report with
  | balance r => exact ⟨r, rfl⟩
  | _ => cases h

/-- Where the status class is not carried, a report on the height is its height and no more. -/
theorem write_blockHeight_of_plain (r : HeightReport)
    (plain : e.hasClass ClassName.status = false) :
    (blockHeight r).write e = e.writeText ClassName.blockHeight r.height := by
  have kept : (e.writeText ClassName.blockHeight r.height).hasClass ClassName.status = false := by
    rwa [Element.hasClass_writeText]
  rw [write, Element.writeText_of_not_hasClass kept, Element.writeClassName_of_not_hasClass kept]

/-- A report overwrites what an earlier report of its feed wrote. -/
theorem write_absorb {a b : Report} (same : a.feed = b.feed) (e : Element) :
    b.write (a.write e) = b.write e := by
  have text : ∀ name old new, (e.writeText name old).writeText name new = e.writeText name new := by
    intro name old new
    simp only [Element.writeText, Element.hasClass, Element.mk.injEq, true_and, and_true]
    grind
  cases b with
  | bootstrapper status =>
    cases a with
    | bootstrapper => exact text _ _ _
    | _ => cases same
  | consensusBuilder status =>
    cases a with
    | consensusBuilder => exact text _ _ _
    | _ => cases same
  | blockHeight r =>
    obtain ⟨old, rfl⟩ := exists_of_feed_blockHeight same
    cases status : e.hasClass ClassName.status with
    | true =>
      have kept : ((blockHeight old).write e).hasClass ClassName.status = true := by
        rw [write_blockHeight_of_status old status, Element.hasClass_of_statusClass rfl]
        exact .inl rfl
      rw [write_blockHeight_of_status r kept, write_blockHeight_of_status old status,
        write_blockHeight_of_status r status]
    | false =>
      have kept : ((blockHeight old).write e).hasClass ClassName.status = false := by
        rwa [write_blockHeight_of_plain old status, Element.hasClass_writeText]
      rw [write_blockHeight_of_plain r kept, write_blockHeight_of_plain old status,
        write_blockHeight_of_plain r status]
      exact text _ _ _
  | balance r =>
    cases a with
    | balance old =>
      -- What is written depends on class and id, and a balance changes neither.
      simp only [write, Element.writeText, Element.writeTextOf, Element.writeValueOf,
        Element.hasClass, Element.hasId, Element.mk.injEq, true_and]
      constructor <;> grind
    | _ => cases same
  | heartbeat alive =>
    cases a with
    | heartbeat => rfl
    | _ => cases same

end Report

end WalletWatch
