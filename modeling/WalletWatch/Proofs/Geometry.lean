import WalletWatch.Launch
import WalletWatch.Proofs.Course.Basic
import WalletWatch.Proofs.Settings
/-!
# What a run keeps for the next one

Of a whole run only the geometry of its window is kept. What a watch keeps is settled by what it was
opened with and by the frames that began since, and no loop, form, screen or notice has a part in it
(`outlook_run`). The corner and the size come from the last frames that knew them, so the next run
opens its window there. It puts the window into the middle of the display exactly if no frame knew
where the window was and its own first frame shows where the middle is (`geometry_persists`).
-/

namespace WalletWatch

open Binary

/-! ## What frames tell -/

namespace Move

/-- What a frame that begins knows of its surroundings. -/
def view? : Move → Option View
  | chore (.openFrame view) => some view
  | _ => none

/-- What the frames knew, one after the other. -/
def views (moves : List Move) : List View :=
  moves.filterMap view?

theorem views_cons (m : Move) (moves : List Move) :
    views (m :: moves) = m.view?.toList ++ views moves := by
  rw [views, List.filterMap_cons]
  cases m.view? <;> rfl

end Move

/-- The last of some values that are known. -/
def lastKnown {α : Type} (know : View → Option α) (views : List View) : Option α :=
  (views.filterMap know).getLast?

theorem lastKnown_cons {α : Type} (know : View → Option α) (view : View) (views : List View) :
    lastKnown know (view :: views) = (lastKnown know views).or (know view) := by
  rw [lastKnown, lastKnown, List.filterMap_cons]
  cases known : know view with
  | none => exact Option.or_none.symm
  | some a => exact List.getLast?_cons.trans Option.or_some.symm

/-- What a watch knows of its window, and what it saves besides when it is closed. -/
structure Outlook where
  window : Window
  wantsCentre : Bool
  settings : Settings
  /-- Whether there is a directory to save to. -/
  present : Bool

namespace Outlook

/-- A frame begins. -/
def see (o : Outlook) (view : View) : Outlook :=
  { o with window := o.window.track view, wantsCentre := false }

/-- What frames leave behind: of each rectangle the last one that was known. -/
theorem foldl_see (o : Outlook) (views : List View) : views.foldl see o =
    { o with
      window :=
        ⟨((lastKnown View.outer views).map Rect.min).or o.window.corner,
          ((lastKnown View.inner views).map Rect.size).or o.window.size⟩
      wantsCentre := o.wantsCentre && views.isEmpty } := by
  induction views generalizing o with
  | nil => simp [lastKnown]
  | cons view views ih =>
    rw [List.foldl_cons, ih, lastKnown_cons, lastKnown_cons]
    simp only [see, Window.track, Option.map_or, Option.or_assoc, Bool.false_and,
      List.isEmpty_cons, Bool.and_false]

end Outlook

namespace Watch

def outlook (w : Watch) : Outlook :=
  ⟨w.window, w.wantsCentre, w.session.settings, w.store.present⟩

variable (w : Watch) (feed : Feed)

/-! ## What happens to a watch -/

theorem outlook_startPolling : w.startPolling.outlook = w.outlook := by
  unfold startPolling
  split <;> rfl

theorem outlook_saveSettings : w.saveSettings.outlook = w.outlook := by
  have kept : (w.store.save (w.window.keepIn w.session.settings)).1.present = w.store.present := by
    unfold Store.save
    split <;> rfl
  exact congrArg (Outlook.mk w.window w.wantsCentre w.session.settings) kept

theorem outlook_beginLoop : (w.beginLoop feed).outlook = w.outlook := by
  unfold beginLoop
  split <;> rfl

theorem outlook_endLoop : (w.endLoop feed).outlook = w.outlook := by
  unfold endLoop
  split <;> rfl

theorem outlook_openFrame (view : View) :
    (w.openFrame view).outlook = w.outlook.see view := by
  have started := outlook_startPolling { w with window := w.window.track view }
  exact congrArg (fun o : Outlook => { o with wantsCentre := false }) started

theorem outlook_tick : (w.tick feed).outlook = w.outlook := by
  unfold tick
  split <;> rfl

theorem outlook_land (answer : Answer) : (w.land feed answer).outlook = w.outlook := by
  unfold land
  dsimp only
  split <;> rfl

theorem outlook_postAt (index : Nat) : (w.postAt index).outlook = w.outlook := by
  unfold postAt
  split <;> rfl

theorem outlook_drain : w.drain.outlook = w.outlook := by
  have settings : w.session.drain.settings = w.session.settings := by
    unfold Session.drain
    split <;> rfl
  exact congrArg (Outlook.mk w.window w.wantsCentre · w.store.present) settings

theorem outlook_reload : w.reload.outlook = w.outlook := by
  have settings : w.session.reload.settings = w.session.settings := by
    unfold Session.reload
    split <;> rfl
  exact congrArg (Outlook.mk w.window w.wantsCentre · w.store.present) settings

end Watch

namespace Course

/-! ## What happens in a course -/

/-- Only a frame that begins tells anything of the window, and nothing changes what is saved
besides. -/
theorem outlook_perform (c : Course) (m : Move) : (c.perform m).watch.outlook =
    m.view?.elim c.watch.outlook c.watch.outlook.see := by
  cases m with
  | chore chore =>
    cases chore with
    | pass clock now => rfl
    | startPolling => exact c.watch.outlook_startPolling
    | stopPolling => rfl
    | close => exact (c.watch.log [.closing]).stopPolling.outlook_saveSettings
    | beginLoop feed => exact c.watch.outlook_beginLoop feed
    | endLoop feed => exact c.watch.outlook_endLoop feed
    | openFrame view => exact c.watch.outlook_openFrame view
    | noteFailures => rfl
  | post index => exact c.watch.outlook_postAt index
  | tick feed =>
    simp only [perform]
    split
    · exact c.watch.outlook_tick feed
    · rfl
  | land feed =>
    simp only [perform]
    split
    · exact c.watch.outlook_land feed _
    · rfl
  | drain =>
    simp only [perform]
    split
    · exact c.watch.outlook_drain
    · rfl
  | reload =>
    simp only [perform]
    split
    · exact c.watch.outlook_reload
    · rfl
  | draw =>
    simp only [perform]
    split <;> rfl

theorem outlook_run (c : Course) (moves : List Move) : (c.run moves).watch.outlook =
    (Move.views moves).foldl Outlook.see c.watch.outlook := by
  induction moves generalizing c with
  | nil => rfl
  | cons m moves ih =>
    rw [run_cons, ih, outlook_perform, Move.views_cons]
    cases m.view? <;> rfl

end Course

/-! ## Putting the window into the middle -/

namespace Binary.Number

variable {f : Format}

/-- A number above one. The positive infinity is one of them. -/
def IsAboveOne : Number f → Prop
  | .finite negative significand exponent _ => negative = false ∧ 1 < value significand exponent
  | .infinite negative => negative = false
  | .nan => False

theorem exceedsOne_iff {x : Number f} : x.exceedsOne = true ↔ x.IsAboveOne := by
  cases x with
  | finite negative m e _ =>
    have below : (0 : ℚ) < (quotient m e).2 := Nat.cast_pos.2 (quotient_pos m e)
    rw [exceedsOne, IsAboveOne, Bool.and_eq_true, Bool.not_eq_true', decide_eq_true_iff,
      ← quotient_value, one_lt_div below, Nat.cast_lt]
  | infinite negative => rw [exceedsOne, IsAboveOne, Bool.not_eq_true']
  | nan => exact iff_of_false Bool.false_ne_true id

end Binary.Number

namespace View

/-- A view that knows the rectangle around the window, and a display with a size, shows where the
middle is: the window leaves the same of the display on either side. -/
inductive ShowsMiddle : View → Pair → Prop
  | intro {outer : Rect} {inner : Option Rect} {display : Pair} (wide : display.x.IsAboveOne)
      (high : display.y.IsAboveOne) :
      ShowsMiddle ⟨some outer, inner, some display⟩
        ⟨(display.x.sub (outer.max.x.sub outer.min.x)).half,
          (display.y.sub (outer.max.y.sub outer.min.y)).half⟩

theorem centre?_eq_some_iff {v : View} {place : Pair} :
    v.centre? = some place ↔ v.ShowsMiddle place := by
  constructor
  · intro known
    obtain ⟨outer, inner, display⟩ := v
    cases outer with
    | none => cases known
    | some outer =>
      cases display with
      | none => cases known
      | some display =>
        simp only [centre?, Option.bind_eq_bind, Option.bind_some] at known
        split at known
        · next large =>
          rw [Bool.and_eq_true, Number.exceedsOne_iff, Number.exceedsOne_iff] at large
          cases known
          exact .intro large.1 large.2
        · cases known
  · rintro ⟨wide, high⟩
    have large := Bool.and_eq_true_iff.2
      ⟨Number.exceedsOne_iff.2 wide, Number.exceedsOne_iff.2 high⟩
    exact if_pos large

end View

namespace Course

/-- Where the frames of a course put the window, one after the other. -/
def centrings (c : Course) : List Move → List Pair
  | [] => []
  | m :: moves => (m.view?.bind c.watch.centring).toList ++ (c.perform m).centrings moves

theorem wantsCentre_perform (c : Course) (m : Move) :
    (c.perform m).watch.wantsCentre = (c.watch.wantsCentre && m.view?.isNone) := by
  have told := congrArg Outlook.wantsCentre (outlook_perform c m)
  rw [show (c.perform m).watch.wantsCentre = _ from told]
  cases m.view? with
  | none => exact (Bool.and_true _).symm
  | some view => exact (Bool.and_false _).symm

/-- Only the first frame can put the window into the middle, if that is still to be done. -/
theorem centrings_eq (c : Course) (moves : List Move) : c.centrings moves =
    if c.watch.wantsCentre then ((Move.views moves).head?.bind View.centre?).toList else [] := by
  induction moves generalizing c with
  | nil => simp [centrings, Move.views]
  | cons m moves ih =>
    rw [centrings, ih, wantsCentre_perform, Move.views_cons]
    cases m.view? with
    | none => simp
    | some view => cases h : c.watch.wantsCentre <;> simp [Watch.centring, h]

theorem centrings_cases (c : Course) (moves : List Move) :
    c.centrings moves = [] ∨ ∃ place, c.centrings moves = [place] := by
  rw [centrings_eq]
  split
  · cases (Move.views moves).head?.bind View.centre? with
    | none => exact .inl rfl
    | some place => exact .inr ⟨place, rfl⟩
  · exact .inl rfl

theorem centrings_eq_singleton_iff (c : Course) (moves : List Move) (place : Pair) :
    c.centrings moves = [place] ↔ c.watch.wantsCentre = true ∧
      ∃ view rest, Move.views moves = view :: rest ∧ view.ShowsMiddle place := by
  rw [centrings_eq]
  split
  · next wants =>
    rw [Option.toList_eq_singleton_iff, Option.bind_eq_some_iff]
    simp only [wants, true_and, View.centre?_eq_some_iff, List.head?_eq_some_iff]
    constructor
    · rintro ⟨view, ⟨rest, first⟩, middle⟩
      exact ⟨view, rest, first, middle⟩
    · rintro ⟨view, rest, first, middle⟩
      exact ⟨view, ⟨rest, first⟩, middle⟩
  · next spent =>
    exact iff_of_false (List.cons_ne_nil _ _).symm fun h => spent h.1

end Course

/-! ## Closing and opening -/

namespace Window

variable (w : Window) (s : Settings)

theorem corner?_keepIn : (w.keepIn s).corner? = w.corner := by
  simp only [Settings.corner?, keepIn, Pair.both?]
  cases w.corner <;> rfl

theorem size?_keepIn : (w.keepIn s).size? = w.size := by
  simp only [Settings.size?, keepIn, Pair.both?]
  cases w.size <;> rfl

end Window

namespace Watch

/-- A watch that is closed saves its settings, with what it knows of the window. -/
theorem file_close {w : Watch} (present : w.store.present = true) :
    w.close.store.file = some (w.window.keepIn w.session.settings).write.toUTF8 := by
  have saved : w.close.store = (w.store.save (w.window.keepIn w.session.settings)).1 := rfl
  rw [saved, Store.save, if_pos present]

theorem outlook_launch (store : Store) (script : Script) (now : Int) :
    (launch store script now).outlook =
      ⟨.unseen, store.load.1.corner?.isNone, store.load.1, true⟩ := rfl

end Watch

/-- Settings that were saved are found again, if their sizes are whole numbers. -/
theorem Store.load_of_file {store : Store} {s : Settings}
    (file : store.file = some s.write.toUTF8) (whole : ∀ size ∈ s.sizes, Settings.WholeSize size)
    (finite : ∀ size, some size ∈ s.sizes → size.isFinite = true) :
    store.load = (s, .settingsLoaded) := by
  have text : store.text? = some s.write := by
    rw [text?, file]
    exact text?_ofText s.write
  rw [load, text]
  simp only [Settings.read?_write whole, Settings.kept_eq finite]

/-- A whole number of a magnitude below `2 ^ 24`. -/
def Binary.Number.IsWhole : Binary.Single → Prop
  | .finite _ significand exponent _ =>
    ∃ k < twoPow 24, Binary.value significand exponent = (k : ℚ)
  | _ => False

theorem Binary.Number.IsWhole.isFinite {size : Binary.Single} (h : size.IsWhole) :
    size.isFinite = true := by
  cases size with
  | finite => rfl
  | infinite => exact h.elim
  | nan => exact h.elim

theorem Settings.wholeSize_of_isWhole {s : Settings}
    (h : ∀ size, some size ∈ s.sizes → size.IsWhole) : ∀ size ∈ s.sizes, WholeSize size := by
  intro size member
  match size with
  | none => trivial
  | some (.finite ..) => exact h _ member
  | some (.infinite _) => trivial
  | some .nan => trivial

/-- **A run keeps the geometry of its window, and nothing else of what it did.** What is saved when
a watch is closed are the settings that it was opened with, except that the corner and the size are
those of the last rectangles that a frame knew, and are missing if none did. If they are whole
numbers the next run is opened with just these settings: at that corner and with that size, or with
the usual size if none is known. It puts the window into the middle of the display at most once, and
that exactly if no corner is known and its first frame shows where the middle is. -/
theorem geometry_persists (store : Store) (script script' : Script) (now now' : Int)
    (moves : List Move) :
    let loaded := store.load.1
    let closed := ((Course.ofWatch (Watch.launch store script now)).run moves).watch.close
    let outer := lastKnown View.outer (Move.views moves)
    let inner := lastKnown View.inner (Move.views moves)
    let saved : Settings :=
      { loaded with
        windowX := outer.map (·.min.x)
        windowY := outer.map (·.min.y)
        windowW := inner.map (·.size.x)
        windowH := inner.map (·.size.y) }
    closed.store.file = some saved.write.toUTF8 ∧
    ((∀ size, some size ∈ saved.sizes → size.IsWhole) →
      let reopened := Watch.launch closed.store script' now'
      let options := WindowOptions.ofSettings reopened.session.settings
      reopened.session.settings = saved ∧
      options.position = outer.map Rect.min ∧
      options.innerSize = (inner.map Rect.size).getD (.ofNats 520 420) ∧
      (reopened.session.settings.size? = none ↔ inner = none) ∧
      ∀ later,
        (∀ place, (Course.ofWatch reopened).centrings later = [place] ↔ outer = none ∧
          ∃ view rest, Move.views later = view :: rest ∧ view.ShowsMiddle place) ∧
        ((Course.ofWatch reopened).centrings later = [] ∨
          ∃ place, (Course.ofWatch reopened).centrings later = [place])) := by
  intro loaded closed outer inner saved
  -- What the frames knew of the window, and the settings that keep it.
  let known : Window := ⟨outer.map Rect.min, inner.map Rect.size⟩
  have keeps : saved = known.keepIn loaded := by
    simp only [saved, known, Window.keepIn, Option.map_map, Function.comp_def]
  have outlook : ((Course.ofWatch (Watch.launch store script now)).run moves).watch.outlook =
      ⟨known, loaded.corner?.isNone && (Move.views moves).isEmpty, loaded, true⟩ := by
    rw [Course.outlook_run, Outlook.foldl_see, Course.ofWatch, Watch.outlook_launch]
    simp only [Window.unseen, Option.or_none]
    rfl
  have file : closed.store.file = some saved.write.toUTF8 := by
    have present := congrArg Outlook.present outlook
    have window := congrArg Outlook.window outlook
    have settings := congrArg Outlook.settings outlook
    rw [Watch.file_close present, keeps]
    exact congrArg₂ (fun w s => some (Window.keepIn w s).write.toUTF8) window settings
  refine ⟨file, fun whole => ?_⟩
  intro reopened options
  have found : closed.store.prepare.load = (saved, .settingsLoaded) :=
    Store.load_of_file file (Settings.wholeSize_of_isWhole whole) fun size member =>
      (whole size member).isFinite
  have restored : reopened.session.settings = saved := congrArg Prod.fst found
  have corner : reopened.session.settings.corner? = outer.map Rect.min := by
    rw [restored, keeps, Window.corner?_keepIn]
  have size : reopened.session.settings.size? = inner.map Rect.size := by
    rw [restored, keeps, Window.size?_keepIn]
  refine ⟨restored, corner, congrArg (Option.getD · WindowOptions.usualSize) size, ?_,
    fun later => ⟨fun place => ?_, Course.centrings_cases _ later⟩⟩
  · rw [size, Option.map_eq_none_iff]
  · have wants : reopened.wantsCentre = outer.isNone := by
      rw [show reopened.wantsCentre = reopened.session.settings.corner?.isNone from rfl, corner,
        Option.isNone_map]
    rw [Course.centrings_eq_singleton_iff, Course.ofWatch, wants, Option.isNone_iff_eq_none]

/-- A window that was moved off the display after the server was lost, and whose size no frame knew,
opens where it was. One whose place no frame knew is put into the middle, once. -/
theorem geometry_persists_past_shutdown :
    let script : Script := ⟨.const [⟨.ok ["false"], 0⟩], fun _ _ => ⟨none, 0⟩⟩
    let corner : Pair := ⟨.finite true 13107200 (-17) (by decide), .zero _ true⟩
    let placed (corner : Pair) : View := ⟨some ⟨corner, .ofNats 900 700⟩, none, none⟩
    let moves : List Move := [
      .chore (.openFrame (placed (.ofNats 8 16))), .chore (.beginLoop .heartbeat),
      .tick .heartbeat, .land .heartbeat, .drain, .reload, .draw,
      .chore (.openFrame (placed corner)), .chore (.openFrame ⟨none, none, none⟩)]
    let size : Pair :=
      ⟨.finite false 10485760 (-14) (by decide), .finite false 15728640 (-15) (by decide)⟩
    let hidden : List Move := [.chore (.openFrame ⟨none, some ⟨.ofNats 0 0, size⟩, none⟩)]
    let shown : View := ⟨some ⟨.ofNats 10 10, .ofNats 650 490⟩, none, some (.ofNats 1920 1080)⟩
    let later : List Move := [.chore (.openFrame shown), .chore (.openFrame shown)]
    let run (moves : List Move) := (Course.ofWatch (Watch.launch .empty script 0)).run moves
    let reopened (moves : List Move) := Watch.launch (run moves).watch.close.store script 1
    let options (moves : List Move) := WindowOptions.ofSettings (reopened moves).session.settings
    ((run moves).page.shutdown = true ∧ (options moves).position = some corner ∧
      (options moves).innerSize = .ofNats 520 420 ∧
      (Course.ofWatch (reopened moves)).centrings later = []) ∧
    (options hidden).position = none ∧ (options hidden).innerSize = size ∧
      (Course.ofWatch (reopened hidden)).centrings later = [.ofNats 640 300] := by
  intro script corner placed moves size hidden shown later run reopened options
  -- The sizes in what is saved after a run, and that they are whole numbers.
  have whole (s : Settings) (sizes : s.sizes = [some corner.x, some corner.y, none, none] ∨
      s.sizes = [none, none, some size.x, some size.y]) :
      ∀ size, some size ∈ s.sizes → size.IsWhole := by
    intro number member
    rcases sizes with sizes | sizes
    · simp only [sizes, List.mem_cons, Option.some.injEq, reduceCtorEq, List.not_mem_nil,
        or_false] at member
      rcases member with rfl | rfl
      · exact ⟨100, by decide, by norm_num [value]⟩
      · exact ⟨0, by decide, value_eq_zero.2 rfl⟩
    · simp only [sizes, List.mem_cons, Option.some.injEq, reduceCtorEq, List.not_mem_nil,
        or_false, false_or] at member
      rcases member with rfl | rfl
      · exact ⟨640, by decide, by norm_num [value]⟩
      · exact ⟨480, by decide, by norm_num [value]⟩
  constructor
  · have outer : lastKnown View.outer (Move.views moves) = some ⟨corner, .ofNats 900 700⟩ := rfl
    have inner : lastKnown View.inner (Move.views moves) = none := rfl
    have next := (geometry_persists .empty script script 0 1 moves).2
    rw [outer, inner] at next
    obtain ⟨-, position, usual, -, centred⟩ := next (whole _ (.inl rfl))
    have gone : (run moves).page.shutdown = true := rfl
    have still : (Course.ofWatch (reopened moves)).centrings later = [] := by
      rcases (centred later).2 with nowhere | ⟨place, one⟩
      · with_reducible exact nowhere
      · have unknown := (((centred later).1 place).1 one).1
        cases unknown
    rw [Option.map_some] at position
    rw [Option.map_none, Option.getD_none] at usual
    -- Nothing here is to be computed: the session would be run and its file read back.
    with_reducible exact ⟨gone, position, usual, still⟩
  · have outer : lastKnown View.outer (Move.views hidden) = none := rfl
    have inner : lastKnown View.inner (Move.views hidden) = some ⟨.ofNats 0 0, size⟩ := rfl
    have measured : Rect.size ⟨.ofNats 0 0, size⟩ = size := by decide +kernel
    have next := (geometry_persists .empty script script 0 1 hidden).2
    rw [outer, inner] at next
    simp only [Option.map_some, Option.map_none, Option.getD_some, measured] at next
    obtain ⟨-, position, known, -, centred⟩ := next (whole _ (.inr rfl))
    have middle : shown.ShowsMiddle (.ofNats 640 300) :=
      View.centre?_eq_some_iff.1 (by decide +kernel)
    have moved := ((centred later).1 _).2 ⟨trivial, shown, [shown], rfl, middle⟩
    with_reducible exact ⟨position, known, moved⟩

end WalletWatch
