import WalletWatch.Proofs.Shutdown
import WalletWatch.Proofs.Transactions
/-!
# What is asked for

A tick looks for the elements of its feed, by a class or an id, and knows nothing of screens. As
long as no colour of the server names the class of a step of onboarding, it finds them just on the
screens that the feed reports on (`Page.isShown_eq_concerns`). So a loop asks the server for what is
shown, and on any other screen it looks again a little later and leaves everything as it is.
-/

namespace WalletWatch

/-- Whether a feed reports on what a screen shows. The heartbeat reports on no screen. -/
def Feed.concerns : Feed → Screen → Bool
  | .bootstrapper, .bootstrapper => true
  | .consensusBuilder, .consensusBuilder => true
  | .blockHeight, .wallet _ | .balance, .wallet _ => true
  | _, _ => false

namespace Screen

def all : List Screen :=
  [bootstrapper, consensusBuilder, wallet true, wallet false]

theorem mem_all (s : Screen) : s ∈ all := by
  rcases s with _ | _ | _ | _ <;> decide

/-- Only a wallet has a status. -/
theorem wallet_of_status {s : Screen} {t : Element} (ht : t ∈ s.elements)
    (status : t.hasClass ClassName.status = true) : ∃ lastPage, s = .wallet lastPage := by
  have onboarding : ∀ t ∈ elements .bootstrapper ++ elements .consensusBuilder,
      t.hasClass ClassName.status = false := by decide
  cases s with
  | wallet lastPage => exact ⟨lastPage, rfl⟩
  | bootstrapper => simp [onboarding t (List.mem_append_left _ ht)] at status
  | consensusBuilder => simp [onboarding t (List.mem_append_right _ ht)] at status

end Screen

namespace Page

variable {p : Page} {s : Screen} {reports : List Report}

/-- A class that no colour gives to the status is found on a page just if the template has it. -/
theorem hasClass_iff_of_written (shown : p.elements = s.elements.map (Report.writeAll reports))
    {name : String}
    (other : ∀ t ∈ s.elements, t.hasClass name = true → t.hasClass ClassName.status = false)
    (quiet : ∀ t ∈ s.elements, t.hasClass ClassName.status = true → name ≠ ClassName.status ∧
      ∀ r, .blockHeight r ∈ reports → name ∉ Text.words r.tag) :
    p.hasClass name = true ↔ ∃ t ∈ s.elements, t.hasClass name = true := by
  constructor
  · intro found
    obtain ⟨e, he, carried⟩ := List.any_eq_true.1 found
    rw [shown] at he
    obtain ⟨t, ht, rfl⟩ := List.mem_map.1 he
    rcases Report.className_writeAll reports t with same | ⟨status, r, hr, coloured⟩
    · exact ⟨t, ht, by rwa [Element.hasClass_congr same] at carried⟩
    · obtain ⟨differs, unnamed⟩ := quiet t ht status
      rcases (Element.hasClass_of_statusClass coloured).1 carried with e | named
      · exact absurd e differs
      · exact absurd named (unnamed r hr)
  · rintro ⟨t, ht, carried⟩
    exact hasClass_of_written shown ht carried (other t ht carried)

/-- A feed finds its elements on the screens that it reports on, and on no other. -/
theorem isShown_eq_concerns (shown : p.elements = s.elements.map (Report.writeAll reports))
    (colours : ∀ r, .blockHeight r ∈ reports →
      ClassName.bootstrapperProgress ∉ Text.words r.tag ∧
        ClassName.consensusBuilderProgress ∉ Text.words r.tag)
    {feed : Feed} (data : feed ≠ .heartbeat) : feed.isShown p = feed.concerns s := by
  have plain : ∀ name ∈ [ClassName.bootstrapperProgress, ClassName.consensusBuilderProgress,
      ClassName.blockHeight], ∀ t ∈ s.elements, t.hasClass name = true →
      t.hasClass ClassName.status = false := by
    intro name hn t ht
    revert name
    exact s.forall_elements (P := fun t => ∀ name ∈ _, t.hasClass name = true →
      t.hasClass ClassName.status = false) (by decide) (by decide) (by decide) (by decide) t ht
  have found : ∀ s ∈ Screen.all,
      ((s.elements.find? (·.hasId ElementId.balance)).isSome = true ↔
        Feed.balance.concerns s = true) ∧
      ((∃ t ∈ s.elements, t.hasClass ClassName.bootstrapperProgress = true) ↔
        Feed.bootstrapper.concerns s = true) ∧
      ((∃ t ∈ s.elements, t.hasClass ClassName.consensusBuilderProgress = true) ↔
        Feed.consensusBuilder.concerns s = true) ∧
      ((∃ t ∈ s.elements, t.hasClass ClassName.blockHeight = true) ↔
        Feed.blockHeight.concerns s = true) := by decide
  obtain ⟨balance, bootstrapper, consensusBuilder, blockHeight⟩ := found s s.mem_all
  rw [Bool.eq_iff_iff]
  cases feed with
  | heartbeat => exact absurd rfl data
  | balance =>
    rw [Feed.isShown, element?_of_written shown, Option.isSome_map]
    exact balance
  | bootstrapper =>
    rw [Feed.isShown, hasClass_iff_of_written shown (plain _ (by simp))
      fun _ _ _ => ⟨by decide, fun r hr => (colours r hr).1⟩]
    exact bootstrapper
  | consensusBuilder =>
    rw [Feed.isShown, hasClass_iff_of_written shown (plain _ (by simp))
      fun _ _ _ => ⟨by decide, fun r hr => (colours r hr).2⟩]
    exact consensusBuilder
  | blockHeight =>
    by_cases wallet : ∃ lastPage, s = .wallet lastPage
    · -- Here a colour may name the class, and the template has it too.
      obtain ⟨lastPage, rfl⟩ := wallet
      exact iff_of_true (wallet_of_written shown).2.1 rfl
    · rw [Feed.isShown, hasClass_iff_of_written shown (plain _ (by simp))
        fun t ht status => absurd (Screen.wallet_of_status ht status) wallet]
      exact blockHeight

end Page

namespace Course

variable {settings : Settings} {c : Course}

/-- On a page that is not shut down a feed is asked for if it reports on the screen. -/
theorem shows_iff_concerns (hl : c.Lawful settings) {reports : List Report}
    (written : c.Written reports)
    (colours : ∀ tag, c.Sent tag → ClassName.bootstrapperProgress ∉ Text.words tag ∧
      ClassName.consensusBuilderProgress ∉ Text.words tag)
    {feed : Feed} (data : feed ≠ .heartbeat) :
    c.session.shows feed = true ↔
      c.page.shutdown = false ∧ ∃ s, c.page.screen = some s ∧ feed.concerns s = true := by
  cases closed : c.page.shutdown with
  | true =>
    obtain ⟨s, hr⟩ := hl.renders
    have hidden : ¬ c.session.shows feed = true :=
      fun shown => data (Feed.eq_heartbeat_of_isShown (hr.empty closed).1 shown)
    simp [hidden]
  | false =>
    obtain ⟨s, hs, shown⟩ := written.elements closed
    have guard : c.session.shows feed = feed.concerns s :=
      Page.isShown_eq_concerns shown
        (fun r hr => colours r.tag ⟨r, written.landed _ hr, rfl⟩) data
    simp [guard, hs]

/-- A tick that finds its feed on the page asks for it and waits for the answer, and one that does
not looks again in 50 milliseconds. -/
theorem tick_of_resting {feed : Feed} {wake : Nat}
    (resting : c.watch.loops.get feed = .resting wake) :
    (c.session.shows feed = true →
      (c.perform (.tick feed)).requests = c.requests ++ [feed] ∧
        (c.perform (.tick feed)).session = c.session ∧
        (c.perform (.tick feed)).Awaits feed (c.watch.script.next feed).answer) ∧
    (c.session.shows feed = false →
      (c.perform (.tick feed)).requests = c.requests ∧
        c.perform (.tick feed) = { c with watch := { c.watch with
          loops := c.watch.loops.set feed (.resting (c.watch.clock + 50)) } }) := by
  have deeds := c.watch.deeds_tick feed
  rw [perform_tick_of_resting resting]
  refine ⟨fun shown => ?_, fun hidden => ?_⟩
  · have shown : c.watch.session.shows feed = true := shown
    rw [shown, if_pos rfl] at deeds
    have requests : ({ c with watch := c.watch.tick feed } : Course).requests = _ :=
      requests_of_deeds deeds
    refine ⟨requests, Watch.session_tick .., c.watch.clock + (c.watch.script.next feed).delay, ?_⟩
    simp [Watch.tick, shown, Watch.loops_log]
  · have hidden : c.watch.session.shows feed = false := hidden
    rw [hidden, if_neg Bool.false_ne_true] at deeds
    have requests : ({ c with watch := c.watch.tick feed } : Course).requests = _ :=
      requests_of_deeds deeds
    refine ⟨requests.trans (List.append_nil _), ?_⟩
    rw [Watch.tick, hidden]
    rfl

/-- **Only what is shown is asked for.** In a course in which no colour that was sent names the
class of a step of onboarding, a tick of a loop that reports on a screen makes its request just when
the page is not shut down and shows that screen, and then it makes one and leaves everything that
loops and frames share as it is. Otherwise it changes nothing but the moment of its next tick, which
is 50 milliseconds later. The heartbeat is asked for at every tick of its own, and nothing but a
tick asks for anything. -/
theorem requests_follow_screen (settings : Settings) (store : Store) (script : Script) (now : Int)
    (moves : List Move)
    (colours : ∀ tag, ((start settings store script now).run moves).Sent tag →
      ClassName.bootstrapperProgress ∉ Text.words tag ∧
        ClassName.consensusBuilderProgress ∉ Text.words tag) :
    let c := (start settings store script now).run moves
    (∀ feed wake, feed ≠ .heartbeat → c.watch.loops.get feed = .resting wake →
      let shown := c.page.shutdown = false ∧ ∃ s, c.page.screen = some s ∧ feed.concerns s = true
      let c' := c.perform (.tick feed)
      (shown → c'.requests = c.requests ++ [feed] ∧ c'.session = c.session ∧
        c'.Awaits feed (c.watch.script.next feed).answer) ∧
      (¬ shown → c'.requests = c.requests ∧ c' = { c with watch := { c.watch with
        loops := c.watch.loops.set feed (.resting (c.watch.clock + 50)) } })) ∧
    (∀ wake, c.watch.loops.get .heartbeat = .resting wake →
      (c.perform (.tick .heartbeat)).requests = c.requests ++ [.heartbeat]) ∧
    (∀ m, (∀ feed, m ≠ .tick feed) → (c.perform m).requests = c.requests) := by
  intro c
  have hl : c.Lawful settings := lawful_run settings store script now moves
  have written := written_run settings store script now moves
  refine ⟨?_, fun wake resting => ((tick_of_resting resting).1 rfl).1, ?_⟩
  · intro feed wake data resting shown c'
    obtain ⟨asks, waits⟩ := tick_of_resting resting
    have guard : c.session.shows feed = true ↔ shown := shows_iff_concerns hl written colours data
    refine ⟨fun h => asks (guard.2 h), fun h => waits ?_⟩
    rwa [← Bool.not_eq_true, guard]
  · intro m other
    rcases hl.requests_perform m with same | ⟨feed, wake, rfl, -⟩
    · exact same
    · exact absurd rfl (other feed)

/-- A colour that names the class of the height does not lead a loop of onboarding to ask on a
wallet, and the loop of the height does. -/
theorem requests_follow_screen_beside_odd_colour :
    let script : Script := ⟨(PerFeed.const []).set .blockHeight
      [⟨.ok ["7", "Scanning", "block_height true"], 30⟩], fun _ _ => ⟨none, 0⟩⟩
    let c := (start { Settings.default with startScreen := .wallet true } .empty script 0).run
      [.chore .startPolling, .chore (.beginLoop .bootstrapper), .chore (.beginLoop .blockHeight),
        .tick .blockHeight, .chore (.pass 30 0), .land .blockHeight]
    (c.watch.loops.get .bootstrapper = .resting 0 ∧
      c.watch.loops.get .blockHeight = .resting 1030) ∧
      (c.perform (.tick .bootstrapper)).watch.loops.get .bootstrapper = .resting 80 ∧
      (c.perform (.tick .blockHeight)).requests = [.blockHeight, .blockHeight] := by
  intro script c
  have colours : ∀ tag, c.Sent tag → ClassName.bootstrapperProgress ∉ Text.words tag ∧
      ClassName.consensusBuilderProgress ∉ Text.words tag := by
    have heights : c.reports .blockHeight =
        [.blockHeight ⟨"7", "Scanning", "block_height true"⟩] := by decide +kernel
    rintro tag ⟨r, hr, rfl⟩
    rw [heights, List.mem_singleton] at hr
    obtain rfl := Report.blockHeight.inj hr
    decide
  have early : c.watch.loops.get .bootstrapper = .resting 0 := by decide +kernel
  have late : c.watch.loops.get .blockHeight = .resting 1030 := by decide +kernel
  have screen : c.page.shutdown = false ∧ c.page.screen = some (.wallet true) := by decide +kernel
  have asked : c.requests = [.blockHeight] := by decide +kernel
  obtain ⟨ticks, -⟩ := requests_follow_screen { Settings.default with startScreen := .wallet true }
    .empty script 0 _ colours
  obtain ⟨-, waits⟩ := ticks .bootstrapper 0 (by decide) early
  obtain ⟨asks, -⟩ := ticks .blockHeight 1030 (by decide) late
  refine ⟨⟨early, late⟩, ?_, ?_⟩
  · have clock : c.watch.clock = 30 := by decide +kernel
    have elsewhere : ¬ (c.page.shutdown = false ∧
        ∃ s, c.page.screen = some s ∧ Feed.bootstrapper.concerns s = true) := by
      rintro ⟨-, s, hs, concerned⟩
      obtain rfl := Option.some.inj (screen.2.symm.trans hs)
      cases concerned
    rw [(waits elsewhere).2, PerFeed.get_set_self, clock]
  · obtain ⟨requests, -⟩ := asks ⟨screen.1, _, screen.2, rfl⟩
    rw [requests, asked]
    rfl

end Course
end WalletWatch
