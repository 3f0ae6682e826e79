import WalletWatch.Draw.Page
import WalletWatch.Proofs.Page.Latest
/-!
# What a wallet shows

A wallet is the view of two reports: the height and the balance that were told last since the page
was loaded (`WalletView`). Each element shows its part of one of them (`elements_of_written`), and a
frame draws the elements in their order (`draw_elements`). So what was told before, what an earlier
page showed, and all that other feeds say leaves no trace.
-/

namespace WalletWatch

/-- What a wallet shows: the height and the balance that were told last, if any were. -/
structure WalletView where
  height : Option HeightReport
  balance : Option BalanceReport

namespace WalletView

def ofReports (reports : List Report) : WalletView :=
  ⟨Report.lastHeight? reports, Report.lastBalance? reports⟩

/-- A text of a report, and none as long as there is no report. -/
def told {α : Type} (text : α → String) (report : Option α) : String :=
  (report.map text).getD ""

variable (v : WalletView)

def heightText : String := told HeightReport.height v.height
def statusText : String := told HeightReport.status v.height
def confirmed : String := told BalanceReport.confirmed v.balance
def unconfirmed : String := told BalanceReport.unconfirmed v.balance
def spfFunds : String := told BalanceReport.spfFunds v.balance
def whaleSize : String := told (fun r => "Whale Size: " ++ r.whaleSize) v.balance

def statusClass : String :=
  (v.height.map fun r => "status " ++ r.tag).getD "status"

/-- The first word of the colour decides what the status is drawn in. -/
def statusColor : Color :=
  .ofTag (v.height.bind fun r => (Text.words r.tag).head?)

/-- The elements of a wallet, each with what it shows. -/
def elements (lastPage : Bool) : List Element := [
  ⟨.text, none, "block_height", "Block height", v.heightText, ""⟩,
  ⟨.text, none, v.statusClass, "Status", v.statusText, ""⟩,
  ⟨.marker, some "balance", "", "", "", ""⟩,
  ⟨.text, none, "confirmed", "Confirmed SCP", v.confirmed, ""⟩,
  ⟨.text, none, "unconfirmed", "Unconfirmed SCP", v.unconfirmed, ""⟩,
  ⟨.text, none, "spf_funds", "SPF funds", v.spfFunds, ""⟩,
  ⟨.text, some "whale_size", "", "", v.whaleSize, ""⟩,
  ⟨.button, some "whale_size_button", "", "", "", v.whaleSize⟩,
  ⟨.marker, some "is_last_page", Screen.lastPageMark lastPage, "", "", ""⟩]

/-- A label and its value without the blanks at its ends (`Text.trim_eq_iff`), or an ellipsis if the
value is nothing but blanks (`Text.isBlankText_iff`). -/
def row (label value : String) : List Drawn := [
  .plain label .body .muted,
  .fixed (if Text.isBlankText value then "…" else Text.trim value) .body .primary]

/-- A text that is drawn as it is, unless it is empty. -/
def line (text : String) (size : FontSize) (color : Color) : List Drawn :=
  if text = "" then [] else [.plain text size color]

/-- What a frame draws of the elements of a wallet. -/
def draw : List Drawn :=
  row "Block height" v.heightText
    ++ [.plain "Status" .body .muted, .plain Element.dot .small v.statusColor]
    ++ line v.statusText .body v.statusColor
    ++ row "Confirmed SCP" v.confirmed
    ++ row "Unconfirmed SCP" v.unconfirmed
    ++ row "SPF funds" v.spfFunds
    ++ line v.whaleSize .body .secondary
    ++ line v.whaleSize .button .secondary

theorem words_names : Text.words "block_height" = ["block_height"] ∧
    Text.words "confirmed" = ["confirmed"] ∧ Text.words "unconfirmed" = ["unconfirmed"] ∧
    Text.words "spf_funds" = ["spf_funds"] ∧ Text.words "" = [] := by
  decide

/-! ## Elements -/

section Elements

variable {reports : List Report} {s : Screen} {t : Element}

theorem write_balance (r : BalanceReport) :
    (Report.balance r).write (.labelled "Confirmed SCP" ClassName.confirmed) =
        { Element.labelled "Confirmed SCP" ClassName.confirmed with text := r.confirmed } ∧
      (Report.balance r).write (.labelled "Unconfirmed SCP" ClassName.unconfirmed) =
        { Element.labelled "Unconfirmed SCP" ClassName.unconfirmed with text := r.unconfirmed } ∧
      (Report.balance r).write (.labelled "SPF funds" ClassName.spfFunds) =
        { Element.labelled "SPF funds" ClassName.spfFunds with text := r.spfFunds } ∧
      (Report.balance r).write (.plain .text ElementId.whaleSize) =
        { Element.plain .text ElementId.whaleSize with text := Page.whaleText r.whaleSize } ∧
      (Report.balance r).write (.plain .button ElementId.whaleSizeButton) =
        { Element.plain .button ElementId.whaleSizeButton with
          value := Page.whaleText r.whaleSize } := by
  obtain ⟨-, confirmed, unconfirmed, spfFunds, blank⟩ := words_names
  simp [Report.write, Element.writeText, Element.writeTextOf, Element.writeValueOf,
    Element.labelled, Element.plain, Element.hasClass, Element.hasId, ClassName.confirmed,
    ClassName.unconfirmed, ClassName.spfFunds, ElementId.whaleSize, ElementId.whaleSizeButton,
    confirmed, unconfirmed, spfFunds, blank]

theorem write_height (r : HeightReport) :
    (Report.blockHeight r).write (.labelled "Block height" ClassName.blockHeight) =
        { Element.labelled "Block height" ClassName.blockHeight with text := r.height } ∧
      (Report.blockHeight r).write (.labelled "Status" ClassName.status) =
        { Element.labelled "Status" ClassName.status with
          text := r.status, className := Page.statusClass r.tag } := by
  refine ⟨?_, Report.write_blockHeight_of_status r (by decide)⟩
  rw [Report.write_blockHeight_of_plain r (by decide), Element.writeText_of_hasClass (by decide)]

variable (colours : ∀ r, .blockHeight r ∈ reports → ∀ other : Feed, other ≠ .blockHeight →
  ¬ other.NamedBy r.tag)

include colours

/-- An element that is for the height shows what was told of it last. -/
theorem writeAll_height (ht : t ∈ s.elements) (target : Feed.blockHeight.Writes t) :
    Report.writeAll reports t =
      ((ofReports reports).height.map fun r => (Report.blockHeight r).write t).getD t := by
  rw [Report.writeAll_of_template ht target colours, Report.lastOf_blockHeight, Option.map_map]
  rfl

/-- An element that is for the balance shows what was told of it last. -/
theorem writeAll_balance (ht : t ∈ s.elements) (target : Feed.balance.Writes t) :
    Report.writeAll reports t =
      ((ofReports reports).balance.map fun r => (Report.balance r).write t).getD t := by
  rw [Report.writeAll_of_template ht target colours, Report.lastOf_balance, Option.map_map]
  rfl

/-- The elements of a wallet are those of its view. -/
theorem elements_of_written (lastPage : Bool) :
    (Screen.wallet lastPage).elements.map (Report.writeAll reports) =
      (ofReports reports).elements lastPage := by
  let v := ofReports reports
  have height : ∀ t ∈ (Screen.wallet lastPage).elements, Feed.blockHeight.Writes t →
      Report.writeAll reports t =
        (v.height.map fun r => (Report.blockHeight r).write t).getD t :=
    fun t => writeAll_height colours
  have balance : ∀ t ∈ (Screen.wallet lastPage).elements, Feed.balance.Writes t →
      Report.writeAll reports t =
        (v.balance.map fun r => (Report.balance r).write t).getD t :=
    fun t => writeAll_balance colours
  have marker : ∀ t ∈ (Screen.wallet lastPage).elements, t.kind = .marker →
      Report.writeAll reports t = t :=
    fun t ht kind => Report.writeAll_of_untouched reports (Screen.untouched_of_marker ht kind)
  simp only [Screen.elements, List.forall_mem_cons] at height balance marker
  obtain ⟨blockHeight, status, -⟩ := height
  obtain ⟨-, -, -, confirmed, unconfirmed, spfFunds, whaleSize, button, -⟩ := balance
  obtain ⟨-, -, shown, -, -, -, -, -, last, -⟩ := marker
  rw [Screen.elements, elements]
  simp only [List.map_cons, List.map_nil]
  rw [blockHeight (by decide), status (by decide), shown rfl, confirmed (by decide),
    unconfirmed (by decide), spfFunds (by decide), whaleSize (by decide), button (by decide),
    last rfl]
  simp only [write_height, write_balance]
  -- Without a report an element is blank, as the template has it.
  cases hv : v.height <;> cases hb : v.balance <;>
    simp only [Option.map_none, Option.map_some, Option.getD_none, Option.getD_some, heightText,
      statusText, statusClass, WalletView.confirmed, WalletView.unconfirmed, WalletView.spfFunds,
      WalletView.whaleSize, told, show (ofReports reports).height = _ from hv,
      show (ofReports reports).balance = _ from hb] <;>
    rfl

end Elements

/-! ## Drawing -/

theorem visible_append (first second : List Drawn) :
    Drawn.visible (first ++ second) = Drawn.visible first ++ Drawn.visible second :=
  List.filter_append ..

theorem visible_value {e : Element} (labelled : e.label ≠ "") :
    Drawn.visible e.drawValue = row e.label e.text := by
  have filled : (if Text.isBlankText e.text then "…" else Text.trim e.text) ≠ "" := by
    split
    · decide
    · next rest => simpa [Text.isBlankText] using rest
  simp only [Drawn.visible, Element.drawValue, Drawn.plain, Drawn.fixed, Element.ellipsis]
  rw [List.filter_cons_of_pos (by simpa using labelled),
    List.filter_cons_of_pos (by simpa [Text.isBlankText] using filled), List.filter_nil]
  rfl

theorem visible_line (text : String) (size : FontSize) (color : Color) :
    Drawn.visible [.plain text size color] = line text size color := by
  unfold line
  split
  · next empty => rw [empty]; rfl
  · next filled => simp [Drawn.visible, Drawn.plain, filled]

theorem draw_value {name label text : String} {id : Option String} (labelled : label ≠ "")
    (other : ClassName.status ∉ Text.words name) :
    Drawn.visible (Element.draw ⟨.text, id, name, label, text, ""⟩) = row label text := by
  have plain : Element.hasClass ClassName.status ⟨.text, id, name, label, text, ""⟩ = false := by
    rwa [← Bool.not_eq_true, Element.hasClass_iff]
  simp only [Element.draw, plain, Bool.false_eq_true, if_false]
  rw [if_neg (by simpa using labelled)]
  exact visible_value labelled

/-- The status is drawn with its dot, both in the colour that was told with it. -/
theorem draw_status :
    Drawn.visible (Element.draw ⟨.text, none, v.statusClass, "Status", v.statusText, ""⟩) =
      [.plain "Status" .body .muted, .plain Element.dot .small v.statusColor]
        ++ line v.statusText .body v.statusColor := by
  have words : Text.words v.statusClass =
      ClassName.status :: (v.height.map fun r => Text.words r.tag).getD [] := by
    unfold statusClass
    cases v.height with
    | none => decide
    | some r => exact Page.words_statusClass r.tag
  let e : Element := ⟨.text, none, v.statusClass, "Status", v.statusText, ""⟩
  have status : e.hasClass ClassName.status = true := by
    rw [Element.hasClass_iff, words]
    exact List.mem_cons_self
  have color : e.statusColor = v.statusColor := by
    rw [Element.statusColor, Element.modifiers, words, List.tail_cons, statusColor]
    cases v.height <;> rfl
  have drawn : e.draw = e.drawStatus := by simp only [Element.draw, e, status, if_true]
  rw [drawn, Element.drawStatus, color, ← visible_line]
  rfl

/-- A frame draws the elements of a wallet one after the other, and no marker. -/
theorem draw_elements (lastPage : Bool) :
    Drawn.visible ((v.elements lastPage).flatMap Element.draw) = v.draw := by
  have whaleSize :
      Drawn.visible (Element.draw ⟨.text, some "whale_size", "", "", v.whaleSize, ""⟩) =
        line v.whaleSize .body .secondary := by
    have plain : Element.hasClass ClassName.status
        ⟨.text, some "whale_size", "", "", v.whaleSize, ""⟩ = false := by
      rw [← Bool.not_eq_true, Element.hasClass_iff]
      show ClassName.status ∉ Text.words ""
      decide
    simp only [Element.draw, plain, Bool.false_eq_true, if_false]
    exact visible_line ..
  have button :
      Drawn.visible (Element.draw ⟨.button, some "whale_size_button", "", "", "", v.whaleSize⟩) =
        line v.whaleSize .button .secondary := visible_line ..
  have marker : ∀ id name, Element.draw ⟨.marker, some id, name, "", "", ""⟩ = [] :=
    fun _ _ => rfl
  simp only [elements, List.flatMap_cons, List.flatMap_nil, visible_append, draw_status, whaleSize,
    button, marker]
  rw [draw_value (by decide) (by decide), draw_value (by decide) (by decide),
    draw_value (by decide) (by decide), draw_value (by decide) (by decide)]
  simp [draw, Drawn.visible]

end WalletView

namespace Course

variable {c : Course}

/-- What a frame draws of a page that is not shut down. -/
theorem texts_of_running (running : c.page.shutdown = false) :
    c.watch.texts =
      Drawn.visible (c.page.header ++ c.page.footer c.session.settings.serverUrl c.watch.now)
        ++ Drawn.visible (c.page.elements.flatMap Element.draw) := by
  rw [← WalletView.visible_append, Watch.texts, Page.draw,
    show c.watch.session.page.shutdown = false from running]
  rfl

/-- **A wallet shows the last reports.** In a course in which no colour that was sent names a class
of another feed than the height, a wallet that is not shut down is the view of the height and of the
balance that landed last since the page was loaded, whatever landed before or was on its way then;
and a frame draws this view, below the header and the footer. -/
theorem wallet_shows_last_reports (settings : Settings) (store : Store) (script : Script)
    (now : Int) (moves : List Move) (lastPage : Bool)
    (colours : ∀ tag, ((start settings store script now).run moves).Sent tag →
      ∀ name ∈ [ClassName.confirmed, ClassName.unconfirmed, ClassName.spfFunds,
        ClassName.bootstrapperProgress, ClassName.consensusBuilderProgress],
      name ∉ Text.words tag)
    (running : ((start settings store script now).run moves).page.shutdown = false)
    (screen : ((start settings store script now).run moves).page.screen =
      some (.wallet lastPage)) :
    let c := (start settings store script now).run moves
    let v := WalletView.ofReports ((start settings store script now).recent moves)
    c.page.elements = v.elements lastPage ∧
      c.watch.texts =
        Drawn.visible (c.page.header ++ c.page.footer settings.serverUrl c.watch.now) ++ v.draw ∧
      (c.stage = .loaded → (c.perform .draw).drawn = c.drawn ++ [c.watch.texts]) := by
  intro c v
  have hl : c.Lawful settings := lawful_run settings store script now moves
  have written := written_run settings store script now moves
  obtain ⟨s, hs, shown⟩ := written.elements running
  obtain rfl : s = .wallet lastPage := Option.some.inj (hs.symm.trans screen)
  have apart : ∀ r, .blockHeight r ∈ (start settings store script now).recent moves →
      ∀ other : Feed, other ≠ .blockHeight → ¬ other.NamedBy r.tag := by
    intro r hr other differs
    have foreign := colours r.tag ⟨r, written.landed _ hr, rfl⟩
    rintro ⟨name, listed, named⟩
    refine foreign name ?_ named
    clear named
    cases other with
    | blockHeight => exact absurd rfl differs
    | _ => revert name; decide
  have elements : c.page.elements = v.elements lastPage :=
    shown.trans (WalletView.elements_of_written apart lastPage)
  refine ⟨elements, ?_, ?_⟩
  · rw [texts_of_running running, elements, WalletView.draw_elements, hl.settings]
  · intro stage
    simp only [perform, stage, if_true]

/-- A balance that was asked for before a load and lands after it is shown, and the height that led
to the load is forgotten, along with its colour that names a class of its own feed. -/
theorem wallet_shows_balance_after_load :
    let second : BalanceReport := ⟨" 2 ", "", "3", "4", "Shrimp"⟩
    let script : Script := ⟨((PerFeed.const []).set .blockHeight
      [⟨.ok ["7", "Synchronized", "block_height"], 0⟩]).set .balance
      [⟨.ok ["1", "1", "1", "1", "Whale"], 0⟩, ⟨.ok [" 2 ", "", "3", "4", "Shrimp"], 0⟩],
      fun _ _ => ⟨none, 0⟩⟩
    let settings := { Settings.default with startScreen := .wallet true }
    let c := (start settings .empty script 0).run [.chore .startPolling,
      .chore (.beginLoop .blockHeight), .chore (.beginLoop .balance), .tick .balance,
      .land .balance, .tick .blockHeight, .land .blockHeight, .tick .balance, .drain, .reload,
      .land .balance]
    (c.page.shutdown = false ∧ c.page.screen = some (.wallet true) ∧ c.stage = .loaded) ∧
      (c.perform .draw).drawn =
        [Drawn.visible (c.page.header ++ c.page.footer settings.serverUrl 0)
          ++ WalletView.draw ⟨none, second⟩] := by
  intro second script settings c
  have running : c.page.shutdown = false := by decide
  have screen : c.page.screen = some (.wallet true) := by decide
  have stage : c.stage = .loaded := by decide
  have colours : ∀ tag, c.Sent tag → ∀ name ∈ [ClassName.confirmed, ClassName.unconfirmed,
      ClassName.spfFunds, ClassName.bootstrapperProgress, ClassName.consensusBuilderProgress],
      name ∉ Text.words tag := by
    have heights : c.reports .blockHeight =
        [.blockHeight ⟨"7", "Synchronized", "block_height"⟩] := by decide +kernel
    rintro tag ⟨r, hr, rfl⟩
    rw [heights, List.mem_singleton] at hr
    obtain rfl := Report.blockHeight.inj hr
    decide
  obtain ⟨-, texts, draws⟩ :=
    wallet_shows_last_reports settings .empty script 0 _ true colours running screen
  refine ⟨⟨running, screen, stage⟩, ?_⟩
  rw [draws stage, texts]
  decide +kernel

end Course
end WalletWatch
