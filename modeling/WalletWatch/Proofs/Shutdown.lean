import WalletWatch.Proofs.Course.Traffic
/-!
# The end of a page is final

What a course can still do after its page was shut down, whatever is under way then. Only a
heartbeat shuts a page down, and its loop ends with it (`Settled`); the other loops look for an
element of theirs before they ask, and there is none any more. So nothing is asked for from then on.
Answers still land, and a screen may still be pending, but there is nothing to write on, no form to
take, and no screen is loaded. All that is left to do is to post what frames took before (`After`).
-/

namespace WalletWatch

/-- On a page without elements only the heartbeat is asked for. -/
theorem Feed.eq_heartbeat_of_isShown {feed : Feed} {p : Page} (empty : p.elements = [])
    (h : feed.isShown p = true) : feed = .heartbeat := by
  cases feed with
  | heartbeat => rfl
  | bootstrapper => simp [isShown, Page.hasClass, empty] at h
  | consensusBuilder => simp [isShown, Page.hasClass, empty] at h
  | blockHeight => simp [isShown, Page.hasClass, empty] at h
  | balance => simp [isShown, Page.element?, empty] at h

namespace Course

variable {settings : Settings} {c : Course}

/-- When the page is shut down, the heartbeat is over. -/
def Settled (c : Course) : Prop :=
  c.page.shutdown = true → c.watch.loops.get .heartbeat = .ended

theorem Settled.perform (hl : c.Lawful settings) (h : c.Settled) (m : Move) :
    (c.perform m).Settled := by
  intro ended
  cases hs : c.page.shutdown with
  | true => exact ended_perform hl.orderly (h hs) m
  | false =>
    -- The page was shut down by this very move, so an answer landed that stops its loop.
    rcases session_perform hl.orderly m with e | ⟨feed, answer, rfl, hw, e⟩ | ⟨-, -, e⟩ | ⟨-, -, e⟩
    · rw [page, e, ← page, hs] at ended
      cases ended
    · rcases page_land e with ⟨stops, -⟩ | ⟨-, -, -, shutdown, -⟩
      · obtain rfl := Landing.feed_of_stop stops
        obtain ⟨arrival, hw⟩ := hw
        rw [perform_land_of_awaiting hw]
        rcases c.watch.loops_land .heartbeat answer with ⟨-, loops⟩ | ⟨other, -⟩
        · simp [loops]
        · exact absurd stops other
      · rw [shutdown, hs] at ended
        cases ended
    · rw [page, e, Session.shutdown_drain, ← page, hs] at ended
      cases ended
    · rw [page, e, Session.shutdown_reload, ← page, hs] at ended
      cases ended

/-- The screen that a page was shut down on is not left. -/
theorem Lawful.screen_perform (hl : c.Lawful settings) (hs : c.page.shutdown = true) (m : Move) :
    (c.perform m).page.screen = c.page.screen := by
  rcases session_perform hl.orderly m with e | ⟨feed, answer, rfl, hw, e⟩ | ⟨-, -, e⟩ | ⟨-, -, e⟩
  · rw [page, e, ← page]
  · exact screen_land e
  · rw [page, e, Session.screen_drain, ← page]
  · rcases c.session.reload_cases with ⟨-, er⟩ | ⟨next, -, er⟩
    · rw [page, e, er, ← page]
    · rw [page, e, er]
      exact congrArg Page.screen (Page.load_of_shutdown hs next)

/-- Nothing is asked for when the page is shut down. -/
theorem Lawful.requests_closed (hl : c.Lawful settings) (h : c.Settled)
    (hs : c.page.shutdown = true) (m : Move) : (c.perform m).requests = c.requests := by
  rcases hl.requests_perform m with same | ⟨feed, wake, -, shown, resting, -⟩
  · exact same
  · obtain ⟨s, hr⟩ := hl.renders
    obtain rfl := Feed.eq_heartbeat_of_isShown (hr.empty hs).1 shown
    rw [h hs] at resting
    cases resting

/-- What a course can have come to since its page was shut down: some of the forms that waited were
posted. -/
structure After (c c' : Course) : Prop where
  shutdown : c'.page.shutdown = true
  screen : c'.page.screen = c.page.screen
  requests : c'.requests = c.requests
  posted : ∃ late, c'.posted = c.posted ++ late ∧ (late ++ c'.watch.posts).Perm c.watch.posts

theorem After.refl (hs : c.page.shutdown = true) : After c c :=
  ⟨hs, rfl, rfl, ⟨[], by simp⟩⟩

theorem After.perform {c' : Course} (hl : c'.Lawful settings) (settled : c'.Settled)
    (h : After c c') (m : Move) : After c (c'.perform m) := by
  obtain ⟨shutdown', -, -⟩ := hl.closed_perform h.shutdown m
  refine ⟨shutdown', (hl.screen_perform h.shutdown m).trans h.screen,
    (hl.requests_closed settled h.shutdown m).trans h.requests, ?_⟩
  obtain ⟨late, posted, waiting⟩ := h.posted
  cases hl.delivery m with
  | idle posts same batches => exact ⟨late, same.trans posted, by rwa [posts]⟩
  | post index s move posts more batches =>
    refine ⟨late ++ [s], by rw [more, posted, List.append_assoc], ?_⟩
    rw [List.append_assoc]
    exact (posts.append_left late).trans waiting
  | drain move posts same batches =>
    obtain ⟨s, hr⟩ := hl.renders
    refine ⟨late, same.trans posted, ?_⟩
    rwa [posts, hr.outbox h.shutdown, List.append_nil]

theorem After.run (hl : c.Lawful settings) (settled : c.Settled) (hs : c.page.shutdown = true)
    (moves : List Move) : After c (c.run moves) := by
  have both := hl.run_invariant (fun d => d.Settled ∧ After c d)
    (fun d m hd h => ⟨h.1.perform hd m, h.2.perform hd h.1 m⟩) ⟨settled, .refl hs⟩ moves
  exact both.2

/-! ## The notice -/

/-- How many frames are drawn in the course of some moves. -/
def frames (c : Course) : List Move → Nat
  | [] => 0
  | m :: moves => (c.draws m).toNat + (c.perform m).frames moves

/-- What is drawn of a page that is shut down. -/
theorem texts_of_shutdown (hs : c.page.shutdown = true) : c.watch.texts = Page.notice := by
  simp only [Watch.texts, Page.draw, show c.watch.session.page.shutdown = true from hs, if_true]

/-- Each frame that is drawn of a page that is shut down is one notice. -/
theorem Lawful.drawn_closed (hl : c.Lawful settings) (hs : c.page.shutdown = true)
    (moves : List Move) :
    (c.run moves).drawn = c.drawn ++ List.replicate (c.frames moves) Page.notice := by
  induction moves generalizing c with
  | nil => exact (List.append_nil _).symm
  | cons m moves ih =>
    obtain ⟨still, -, -⟩ := hl.closed_perform hs m
    rw [run_cons, ih (hl.perform m) still, drawn_perform, texts_of_shutdown hs, frames]
    cases c.draws m with
    | false => simp
    | true => simp [Nat.add_comm 1, List.replicate_succ]

/-- **The end of a page is final.** From any moment at which the page is shut down, whatever
answers, screens and forms are under way then: the page stays shut down, on its screen and with
nothing on it; nothing is asked for, no form is taken by pages or frames, and of the forms that
waited each is posted at most once. Each frame that is still drawn consists of the three texts of
the notice. -/
theorem shutdown_is_final (settings : Settings) (store : Store) (script : Script) (now : Int)
    (moves further : List Move)
    (h : ((start settings store script now).run moves).page.shutdown = true) :
    let c := (start settings store script now).run moves
    let c' := c.run further
    (c'.page.shutdown = true ∧ c'.page.elements = [] ∧ c'.page.forms = [] ∧
      c'.page.outbox = [] ∧ c'.page.screen = c.page.screen) ∧
    (c'.requests = c.requests ∧ c'.accepted = c.accepted ∧
      c'.batches.flatten = c.batches.flatten) ∧
    (∃ late, c'.posted = c.posted ++ late ∧ (late ++ c'.watch.posts).Perm c.watch.posts) ∧
    c'.drawn = c.drawn ++ List.replicate (c.frames further) [
      .plain "\ue3da" .icon (.ofTag (some "red")), .plain "SHUTDOWN NOTICE" .heading .primary,
      .plain "Wallet was shutdown." .body .muted] := by
  intro c c'
  have hl : c.Lawful settings := lawful_run settings store script now moves
  have settled : c.Settled := (lawful_start settings store script now).run_invariant Settled
    (fun _ m hd h => h.perform hd m) (fun hs => by cases hs) moves
  have after : After c c' := After.run hl settled h further
  obtain ⟨shutdown, accepted, batches⟩ := hl.closed_run h further
  obtain ⟨s, hr⟩ := (hl.run further).renders
  obtain ⟨elements, forms, outbox⟩ := hr.empty shutdown
  exact ⟨⟨shutdown, elements, forms, outbox, after.screen⟩, ⟨after.requests, accepted, batches⟩,
    after.posted, hl.drawn_closed h further⟩

/-- The heartbeat is lost between the moment at which a frame takes a form and the one at which it
would load the screen that follows: that screen is never shown, and the frame draws the notice. -/
theorem shutdown_is_final_before_reload :
    let script : Script := ⟨(PerFeed.const []).set .bootstrapper [⟨.ok ["100%"], 0⟩],
      fun _ _ => ⟨none, 0⟩⟩
    let c := (start .default .empty script 0).run [.chore .startPolling,
      .chore (.beginLoop .bootstrapper), .chore (.beginLoop .heartbeat), .tick .bootstrapper,
      .land .bootstrapper, .tick .heartbeat, .drain, .land .heartbeat]
    (c.page.shutdown = true ∧ c.session.pending = some .consensusBuilder) ∧
      (∀ further, (c.run further).page.screen = some .bootstrapper) ∧
      (c.run [.reload, .draw, .draw]).drawn.map (·.map Drawn.text) =
        [["\ue3da", "SHUTDOWN NOTICE", "Wallet was shutdown."]] := by
  intro script c
  have ended : c.page.shutdown = true := by decide
  have final := fun further => shutdown_is_final .default .empty script 0 _ further ended
  refine ⟨⟨ended, by decide⟩, fun further => ?_, ?_⟩
  · obtain ⟨⟨-, -, -, -, screen⟩, -⟩ := final further
    exact screen.trans (by decide)
  · obtain ⟨-, -, -, drawn⟩ := final [.reload, .draw, .draw]
    rw [drawn]
    decide

end Course

end WalletWatch
