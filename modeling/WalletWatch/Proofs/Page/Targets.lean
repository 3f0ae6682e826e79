import Mathlib.Data.List.Induction
import WalletWatch.Proofs.Page.Writing
/-!
# The targets of a report

On which elements of a page a report is written, whatever page it is: classes may overlap, and several
elements may have one id, of which the first counts (`Page.IsFirst`). On such a page an element is no
longer written by itself, as its place matters, so a balance is described index by index
(`Landing.elements_ofReport_balance`). No report changes by what its targets are found, but for the
status class, and what overwrites that carries it again; so a report that is repeated finds the same
targets, and changes no element (`Landing.report_writes_targets`).
-/

namespace WalletWatch

/-! ## First items -/

/-- Changing the first item that satisfies a test changes the one at the index where it is found. -/
theorem updateFirst_eq_mapIdx {α : Type} (test : α → Bool) (change : α → α) (as : List α) :
    updateFirst test change as =
      as.mapIdx fun index a => if as.findIdx? test = some index then change a else a := by
  induction as with
  | nil => rfl
  | cons a as ih =>
    rw [updateFirst, List.mapIdx_cons]
    cases found : test a with
    | true =>
      have first : (a :: as).findIdx? test = some 0 := by rw [List.findIdx?_cons, found]; rfl
      have others : (as.mapIdx fun index b => if some 0 = some (index + 1) then change b else b) =
          as := List.mapIdx_eq_iff.2 fun index => by simp
      simp only [first, others, if_true]
    | false =>
      have later (index : Nat) : (a :: as).findIdx? test = some (index + 1) ↔
          as.findIdx? test = some index := by
        rw [List.findIdx?_cons, found]
        simp
      have notHere : (a :: as).findIdx? test ≠ some 0 := by
        rw [List.findIdx?_cons, found]
        simp
      simp only [later, notHere, ih, if_false, Bool.false_eq_true]

namespace Page

variable {p q : Page}

/-- Whether the element at an index is the first one with an id. -/
def IsFirst (p : Page) (id : String) (index : Nat) : Prop :=
  p.elements.findIdx? (·.hasId id) = some index

instance (p : Page) (id : String) (index : Nat) : Decidable (p.IsFirst id index) :=
  inferInstanceAs (Decidable (_ = _))

/-- Which element is the first with an id is settled by the ids of all. -/
theorem isFirst_congr (h : q.elements.map (·.id) = p.elements.map (·.id)) (id : String)
    (index : Nat) : q.IsFirst id index ↔ p.IsFirst id index := by
  have byIds (es : List Element) :
      es.findIdx? (·.hasId id) = (es.map (·.id)).findIdx? (· == some id) := by
    rw [List.findIdx?_map]
    rfl
  rw [IsFirst, IsFirst, byIds, byIds, h]

theorem getElem?_updateId (p : Page) (id : String) (change : Element → Element) (index : Nat) :
    (p.updateId id change).elements[index]? =
      p.elements[index]?.map fun e => if p.IsFirst id index then change e else e := by
  have first := updateFirst_eq_mapIdx (·.hasId id) change p.elements
  rw [updateId, first, List.getElem?_mapIdx]
  rfl

theorem ids_writeTextOf (p : Page) (id text : String) :
    (p.writeTextOf id text).elements.map (·.id) = p.elements.map (·.id) := by
  refine List.ext_getElem? fun index => ?_
  rw [List.getElem?_map, List.getElem?_map, writeTextOf, getElem?_updateId, Option.map_map]
  congr 1
  funext e
  simp only [Function.comp_apply]
  split <;> rfl

end Page

/-! ## Several texts on one element -/

namespace Element

/-- The last of some texts, each for a class, whose class an element carries. -/
def lastText? (texts : List (String × String)) (e : Element) : Option String :=
  (texts.filter fun text => e.hasClass text.1).getLast?.map (·.2)

theorem lastText?_congr {e e' : Element} (h : e'.className = e.className)
    (texts : List (String × String)) : e'.lastText? texts = e.lastText? texts := by
  simp only [lastText?, hasClass_congr h]

theorem lastText?_append_singleton (texts : List (String × String)) (text : String × String)
    (e : Element) : e.lastText? (texts ++ [text]) =
      if e.hasClass text.1 then some text.2 else e.lastText? texts := by
  rw [lastText?, lastText?, List.filter_append]
  cases carried : e.hasClass text.1 <;> simp [carried]

/-- Of several texts that are written by class one after the other, an element keeps the last one
whose class it carries. -/
theorem foldl_writeText (texts : List (String × String)) (e : Element) :
    texts.foldl (fun e text => e.writeText text.1 text.2) e =
      { e with text := (e.lastText? texts).getD e.text } := by
  induction texts using List.reverseRecOn with
  | nil => rfl
  | append_singleton texts text ih =>
    rw [List.foldl_append, ih, lastText?_append_singleton]
    change writeText text.1 text.2 _ = _
    cases carried : e.hasClass text.1 with
    | true => exact writeText_of_hasClass carried
    | false => exact writeText_of_not_hasClass carried

end Element

/-! ## A balance -/

namespace BalanceReport

/-- The amounts of a balance, by the classes on which they are written, in the order of writing. -/
def amounts (r : BalanceReport) : List (String × String) :=
  [("confirmed", r.confirmed), ("unconfirmed", r.unconfirmed), ("spf_funds", r.spfFunds)]

/-- What a balance makes of the element at an index of a page: it shows the last amount whose class
it carries, and the size of the wallet if it is the first with the id that the size is for. -/
def writeAt (r : BalanceReport) (p : Page) (index : Nat) (e : Element) : Element :=
  { e with
    text := if p.IsFirst "whale_size" index then "Whale Size: " ++ r.whaleSize
      else (e.lastText? r.amounts).getD e.text
    value := if p.IsFirst "whale_size_button" index then "Whale Size: " ++ r.whaleSize
      else e.value }

/-- What a balance makes of an element depends on the page by the ids on it alone. -/
theorem writeAt_congr {p q : Page} (h : q.elements.map (·.id) = p.elements.map (·.id))
    (r : BalanceReport) (index : Nat) : r.writeAt q index = r.writeAt p index := by
  funext e
  simp only [writeAt, Page.isFirst_congr h]

/-- A balance that is written again writes what it wrote. -/
theorem writeAt_writeAt (r : BalanceReport) (p : Page) (index : Nat) (e : Element) :
    r.writeAt p index (r.writeAt p index e) = r.writeAt p index e := by
  have same : (r.writeAt p index e).lastText? r.amounts = e.lastText? r.amounts :=
    Element.lastText?_congr rfl _
  rw [writeAt, same]
  simp only [writeAt, Element.mk.injEq, true_and]
  constructor
  · split
    · rfl
    · cases e.lastText? r.amounts <;> rfl
  · split <;> rfl

end BalanceReport

namespace Page

/-- A page with the amounts of a balance on it. -/
theorem elements_amounts (p : Page) (r : BalanceReport) :
    (((p.writeText ClassName.confirmed r.confirmed).writeText ClassName.unconfirmed
      r.unconfirmed).writeText ClassName.spfFunds r.spfFunds).elements =
      p.elements.map fun e => { e with text := (e.lastText? r.amounts).getD e.text } := by
  rw [elements_writeText, elements_writeText, elements_writeText, List.map_map, List.map_map]
  exact List.map_congr_left fun e _ => Element.foldl_writeText r.amounts e

theorem getElem?_showUnconfirmed (p : Page) (r : BalanceReport) (index : Nat) :
    ((p.writeText ClassName.confirmed r.confirmed).showUnconfirmed r).elements[index]? =
      p.elements[index]?.map (r.writeAt p index) := by
  have shown := elements_amounts p r
  rw [showUnconfirmed]
  generalize ((p.writeText ClassName.confirmed r.confirmed).writeText ClassName.unconfirmed
    r.unconfirmed).writeText ClassName.spfFunds r.spfFunds = q at shown ⊢
  have ids : q.elements.map (·.id) = p.elements.map (·.id) := by
    rw [shown, List.map_map]
    rfl
  have size : q.IsFirst ElementId.whaleSize index ↔ p.IsFirst "whale_size" index :=
    isFirst_congr ids _ _
  have button : (q.writeTextOf ElementId.whaleSize (whaleText r.whaleSize)).IsFirst
      ElementId.whaleSizeButton index ↔ p.IsFirst "whale_size_button" index :=
    isFirst_congr ((ids_writeTextOf q _ _).trans ids) _ _
  rw [writeValueOf, getElem?_updateId]
  simp only [button]
  rw [writeTextOf, getElem?_updateId, shown, List.getElem?_map, Option.map_map, Option.map_map]
  simp only [size]
  congr 1
  funext e
  simp only [Function.comp_apply, BalanceReport.writeAt]
  by_cases sized : p.IsFirst "whale_size" index <;>
    by_cases pressed : p.IsFirst "whale_size_button" index <;>
    simp only [sized, pressed, if_true, if_false] <;> rfl

end Page

/-! ## Landings -/

/-- On the elements with the status class a report on the height writes its status and its colour,
and on the others with the class of the height its height. -/
theorem Report.write_blockHeight (r : HeightReport) (e : Element) :
    (blockHeight r).write e =
      if e.hasClass "status" then { e with text := r.status, className := "status " ++ r.tag }
      else if e.hasClass "block_height" then { e with text := r.height } else e := by
  have colour : Page.statusClass r.tag = "status " ++ r.tag :=
    congrArg (· ++ r.tag) (by decide : "status" ++ " " = "status ")
  rw [← colour]
  cases status : e.hasClass "status" with
  | true => exact write_blockHeight_of_status r status
  | false =>
    exact (write_blockHeight_of_plain r status).trans Element.writeText_eq

/-- What no report changes of an element. -/
def Element.frame (e : Element) : Option String × ElementKind × String :=
  (e.id, e.kind, e.label)

namespace Landing

variable {report : Report}

section

variable (now : Int) (memory : Option String) (p : Page)

theorem elements_ofReport_balance (r : BalanceReport) :
    (ofReport now memory p (.balance r)).page.elements = p.elements.mapIdx (r.writeAt p) := by
  refine List.ext_getElem? fun index => ?_
  rw [List.getElem?_mapIdx, ← Page.getElem?_showUnconfirmed]
  change (Page.showUnconfirmed (Page.submitIf _ _ _ _).1 r).elements[index]? = _
  rw [Page.submitIf_eq]
  rfl

theorem elements_ofReport_of_data (data : report.feed ≠ .heartbeat)
    (classes : report.feed ≠ .balance) :
    (ofReport now memory p report).page.elements = p.elements.map report.write :=
  elements_ofReport_of_classes now memory p classes (goesOn_ofReport data now memory p)

/-- What a report keeps of each element it keeps of the page. -/
theorem map_elements_ofReport {β : Type} {view : Element → β} (data : report.feed ≠ .heartbeat)
    (write : ∀ e, view (report.write e) = view e)
    (writeAt : ∀ (r : BalanceReport) index e, view (r.writeAt p index e) = view e) :
    (ofReport now memory p report).page.elements.map view = p.elements.map view := by
  by_cases classes : report.feed = .balance
  · obtain ⟨r, rfl⟩ := Report.exists_of_feed_balance classes
    rw [elements_ofReport_balance]
    refine List.ext_getElem? fun index => ?_
    rw [List.getElem?_map, List.getElem?_mapIdx, List.getElem?_map, Option.map_map]
    exact congrArg (Option.map · _) (funext (writeAt r index))
  · rw [elements_ofReport_of_data now memory p data classes, List.map_map]
    exact List.map_congr_left fun e _ => write e

theorem frames_ofReport (data : report.feed ≠ .heartbeat) :
    (ofReport now memory p report).page.elements.map Element.frame =
      p.elements.map Element.frame := by
  refine map_elements_ofReport now memory p data (fun e => ?_) fun _ _ _ => rfl
  simp only [Element.frame, Report.id_write, Report.kind_write, Report.label_write]

/-- Only a report on the height overwrites class names. -/
theorem classNames_ofReport (data : report.feed ≠ .heartbeat) (other : report.feed ≠ .blockHeight) :
    (ofReport now memory p report).page.elements.map (·.className) =
      p.elements.map (·.className) :=
  map_elements_ofReport now memory p data (Report.className_write_of_feed_ne other)
    fun _ _ _ => rfl

/-- A report that is repeated finds its targets as it left them. -/
theorem elements_repeated (data : report.feed ≠ .heartbeat) (later : Int) :
    let landed := ofReport now memory p report
    (ofReport later landed.memory landed.page report).page.elements = landed.page.elements := by
  intro landed
  by_cases classes : report.feed = .balance
  · obtain ⟨r, rfl⟩ := Report.exists_of_feed_balance classes
    have written : landed.page.elements = p.elements.mapIdx (r.writeAt p) :=
      elements_ofReport_balance now memory p r
    have ids : landed.page.elements.map (·.id) = p.elements.map (·.id) :=
      map_elements_ofReport now memory p data (Report.id_write _) fun _ _ _ => rfl
    have same : r.writeAt landed.page = r.writeAt p :=
      funext fun index => BalanceReport.writeAt_congr ids r index
    rw [elements_ofReport_balance, same, written, List.mapIdx_mapIdx]
    congr 1
    funext index e
    exact r.writeAt_writeAt p index e
  · have written : landed.page.elements = p.elements.map report.write :=
      elements_ofReport_of_data now memory p data classes
    rw [elements_ofReport_of_data later landed.memory landed.page data classes, written,
      List.map_map]
    exact List.map_congr_left fun e _ => Report.write_absorb rfl e

theorem outbox_repeated (data : report.feed ≠ .heartbeat) (status : report.feed ≠ .balance)
    (later : Int) :
    let landed := ofReport now memory p report
    (ofReport later landed.memory landed.page report).page.outbox = landed.page.outbox := by
  intro landed
  have quiet : report.call? landed.memory landed.page = none := by
    rw [memory_ofReport]
    exact report.call?_repeated status memory landed.page
  obtain ⟨-, -, -, outbox⟩ := kept_ofReport data later landed.memory landed.page
  rw [outbox, quiet, Page.accepts_none, List.append_nil]

end

/-- **A report is written on its targets, and on nothing else.** On any page, whatever classes and ids
its elements have, a report on the height gives the elements with the status class its status and its
colour, and the others with the class of the height its height. A balance gives an element the last
amount whose class it carries; then the first elements with the two ids of the size show the size. A
step of onboarding gives its status to the elements of its class. Otherwise nothing on the page
changes, and a report that lands again changes no element; only a balance can then submit a form. -/
theorem report_writes_targets (now : Int) (memory : Option String) (p : Page) :
    let land := ofReport now memory p
    (∀ r : HeightReport, (land (.blockHeight r)).page.elements = p.elements.map fun e =>
      if e.hasClass "status" then { e with text := r.status, className := "status " ++ r.tag }
      else if e.hasClass "block_height" then { e with text := r.height } else e) ∧
    (∀ r : BalanceReport, (land (.balance r)).page.elements = p.elements.mapIdx (r.writeAt p)) ∧
    (∀ status, (land (.bootstrapper status)).page.elements = p.elements.map fun e =>
      if e.hasClass "bootstrapper-progress" then { e with text := status } else e) ∧
    (∀ status, (land (.consensusBuilder status)).page.elements = p.elements.map fun e =>
      if e.hasClass "consensus-builder-progress" then { e with text := status } else e) ∧
    ∀ report : Report, report.feed ≠ .heartbeat →
      let landed := land report
      (landed.page.elements.map Element.frame = p.elements.map Element.frame ∧
        (report.feed ≠ .blockHeight →
          landed.page.elements.map (·.className) = p.elements.map (·.className)) ∧
        landed.page.forms = p.forms ∧ landed.page.screen = p.screen ∧
        landed.page.shutdown = p.shutdown) ∧
      ∀ later,
        let again := ofReport later landed.memory landed.page report
        again.page.elements = landed.page.elements ∧
          (report.feed ≠ .balance → again.page.outbox = landed.page.outbox) := by
  intro land
  have byElement (report : Report) (data : report.feed ≠ .heartbeat)
      (classes : report.feed ≠ .balance) {change : Element → Element}
      (each : ∀ e, report.write e = change e) :
      (land report).page.elements = p.elements.map change := by
    rw [elements_ofReport_of_data now memory p data classes]
    exact List.map_congr_left fun e _ => each e
  refine ⟨?_, elements_ofReport_balance now memory p, ?_, ?_, ?_⟩
  · intro r
    exact byElement (.blockHeight r) nofun nofun (Report.write_blockHeight r)
  · intro status
    exact byElement (.bootstrapper status) nofun nofun fun _ => Element.writeText_eq
  · intro status
    exact byElement (.consensusBuilder status) nofun nofun fun _ => Element.writeText_eq
  · intro report data
    obtain ⟨screen, forms, shutdown, -⟩ := kept_ofReport data now memory p
    refine ⟨⟨frames_ofReport now memory p data, classNames_ofReport now memory p data, forms,
      screen, shutdown⟩, ?_⟩
    intro later
    exact ⟨elements_repeated now memory p data later,
      fun status => outbox_repeated now memory p data status later⟩

/-- A page on which classes overlap and an id stands twice, and a colour that names other classes. -/
theorem report_writes_targets_overlapping :
    let size : Element := ⟨.text, some "whale_size", "spf_funds status confirmed", "a", "", ""⟩
    let copy : Element := ⟨.text, some "whale_size", "confirmed unconfirmed", "b", "", ""⟩
    let height : Element := ⟨.button, none, "block_height status", "c", "", "x"⟩
    let p : Page := ⟨none, [size, copy, height], [], false, none, []⟩
    let r : HeightReport := ⟨"7", "Synchronized", " unconfirmed block_height"⟩
    let colour := "status  unconfirmed block_height"
    let balance : BalanceReport := ⟨"1", "2", "3", "4", "Shrimp"⟩
    let landed := ofReport 0 none p (.blockHeight r)
    (Report.blockHeight r).feed ≠ .heartbeat ∧
      landed.page.elements = [{ size with className := colour, text := "Synchronized" }, copy,
        { height with className := colour, text := "Synchronized" }] ∧
      (ofReport 1 landed.memory landed.page (.blockHeight r)).page.elements =
        landed.page.elements ∧
      (ofReport 0 none p (.balance balance)).page.elements =
        [{ size with text := "Whale Size: Shrimp" }, { copy with text := "2" }, height] := by
  intro size copy height p r colour balance landed
  obtain ⟨heights, balances, -, -, data⟩ := report_writes_targets 0 none p
  have reported : (Report.blockHeight r).feed ≠ .heartbeat := nofun
  exact ⟨reported, (heights r).trans (by decide), ((data _ reported).2 1).1,
    (balances balance).trans (by decide)⟩

end Landing

end WalletWatch
