import WalletWatch.Proofs.Course.State
/-!
# Onboarding goes forward

Which screens follow each other, in every course. The screen that a form leads to does not itself
keep the order: a form that ends bootstrapping leads to the consensus builder from the wallet too.
What keeps it is where forms can be. A form is taken only by a page that shows its screen, and while
a frame is between taking the forms and loading what follows, the outbox holds forms of the screen
that is left, and none of an earlier one (`Onboards`). So a form of bootstrapping reaches the
consensus builder at the latest, and never a wallet that came after it.
-/

namespace WalletWatch

namespace Screen

/-- How far onboarding has come on a screen. -/
def progress : Screen → Nat
  | bootstrapper => 0
  | consensusBuilder => 1
  | wallet _ => 2

/-- The screen that a screen is left for. A wallet is never left. -/
def successor (consensusBuilder : Bool) : Screen → Screen
  | bootstrapper => if consensusBuilder then .consensusBuilder else wallet true
  | .consensusBuilder => wallet true
  | wallet lastPage => wallet lastPage

theorem progress_le_successor (consensusBuilder : Bool) (s : Screen) :
    s.progress ≤ (s.successor consensusBuilder).progress := by
  rcases s with _ | _ | lastPage
  · cases consensusBuilder <;> decide
  · decide +revert
  · exact Nat.le_refl _

end Screen

namespace Settings

/-- A screen is the same as before, or the one that it is left for. -/
def Follows (settings : Settings) (s s' : Screen) : Prop :=
  s' = s ∨ s' = s.successor settings.consensusBuilder

theorem Follows.progress_le {settings : Settings} {s s' : Screen} (h : settings.Follows s s') :
    s.progress ≤ s'.progress := by
  rcases h with rfl | rfl
  · exact Nat.le_refl _
  · exact Screen.progress_le_successor _ s

theorem Follows.wallet {settings : Settings} {s' : Screen} {lastPage : Bool}
    (h : settings.Follows (.wallet lastPage) s') : s' = .wallet lastPage := by
  rcases h with rfl | rfl <;> rfl

/-- No form leads back to bootstrapping. -/
theorem screenAfter_ne_bootstrapper (settings : Settings) (form : String)
    (current : Option Screen) : settings.screenAfter form current ≠ .bootstrapper := by
  unfold screenAfter
  split <;> simp

/-- A form of a screen leads forward from there, and from the screen that follows too. -/
theorem follows_screenAfter {settings : Settings} {s s' : Screen} {form : String}
    (hf : form ∈ s.formNames) (h : settings.Follows s s') :
    settings.Follows s' (settings.screenAfter form (some s')) := by
  cases s with
  | bootstrapper =>
    obtain rfl : form = FormName.refreshBootstrapper := by simpa [Screen.formNames] using hf
    cases hc : settings.consensusBuilder <;> rcases h with rfl | rfl <;>
      simp [Follows, screenAfter, Screen.successor, Screen.lastPage, hc]
  | consensusBuilder =>
    obtain rfl : form = FormName.refreshConsensusBuilder := by simpa [Screen.formNames] using hf
    have other : FormName.refreshConsensusBuilder ≠ FormName.refreshBootstrapper := by decide
    rcases h with rfl | rfl <;>
      simp [Follows, screenAfter, Screen.successor, Screen.lastPage, other]
  | wallet lastPage =>
    obtain rfl := h.wallet
    have other : form ≠ FormName.refreshBootstrapper := by
      rintro rfl
      simp only [Screen.formNames] at hf
      revert hf
      decide
    simp [Follows, screenAfter, Screen.lastPage, other]

end Settings

namespace Course

variable {settings : Settings} {c : Course} {s : Screen}

/-- Where screens and forms can be while a page shows a screen. -/
structure Onboards (settings : Settings) (c : Course) (s : Screen) : Prop where
  screen : c.page.screen = some s
  /-- Each form that is submitted leads forward. -/
  outbox : ∀ x ∈ c.page.outbox, settings.Follows s (settings.screenAfter x.form (some s))
  /-- The screen that is pending follows, and is not the first. -/
  pending : ∀ next, c.session.pending = some next →
    settings.Follows s next ∧ next ≠ .bootstrapper
  /-- While a screen is pending, only forms of the screen shown are submitted. -/
  fresh : c.session.pending ≠ none → ∀ x ∈ c.page.outbox, x.form ∈ s.formNames

theorem Onboards.of_session {c' : Course} (h : c.Onboards settings s)
    (e : c'.session = c.session) : c'.Onboards settings s := by
  obtain ⟨screen, outbox, pending, fresh⟩ := h
  constructor <;> simpa only [page, e]

/-- What lands on a page puts forms of its screen into the outbox, or clears it. -/
theorem Onboards.land (hl : c.Lawful settings) (h : c.Onboards settings s) {c' : Course}
    {feed : Feed} {answer : Answer} (e : c'.session = c.session.land feed c.watch.now answer) :
    c'.Onboards settings s := by
  obtain ⟨s₀, hr⟩ := hl.renders
  obtain rfl : s = s₀ := Option.some.inj (h.screen.symm.trans hr.screen)
  have hp : c'.session.pending = c.session.pending := by rw [e]; rfl
  rcases page_land e with ⟨-, cleared, -⟩ | ⟨-, screen, -, -, outbox⟩
  · have empty : c'.page.outbox = [] := by rw [cleared]; rfl
    refine ⟨?_, by simp [empty], fun next hn => h.pending next (hp ▸ hn), by simp [empty]⟩
    rw [cleared]
    exact h.screen
  · refine ⟨screen.trans h.screen, ?_, fun next hn => h.pending next (hp ▸ hn), ?_⟩
    · intro x hx
      rw [outbox, List.mem_append] at hx
      rcases hx with hx | hx
      · exact h.outbox x hx
      · exact Settings.follows_screenAfter (hr.mem_accepts_iff.1 hx).2.2.2 (.inl rfl)
    · intro hn x hx
      rw [outbox, List.mem_append] at hx
      rcases hx with hx | hx
      · exact h.fresh (hp ▸ hn) x hx
      · exact (hr.mem_accepts_iff.1 hx).2.2.2

/-- Taking the forms settles a screen that follows, and empties the outbox. -/
theorem Onboards.drain (hl : c.Lawful settings) (h : c.Onboards settings s) {c' : Course}
    (e : c'.session = c.session.drain) : c'.Onboards settings s := by
  rcases c.session.drain_cases with ⟨-, ed⟩ | ⟨last, hlast, ed⟩
  · exact h.of_session (e.trans ed)
  · rw [ed] at e
    refine ⟨by rw [page, e]; exact h.screen, by simp [page, e], ?_, by simp [page, e]⟩
    intro next hn
    simp only [e, Option.some.injEq] at hn
    have leads := h.outbox last hlast
    rw [← h.screen, ← hl.settings] at leads
    subst hn
    exact ⟨hl.settings ▸ leads, Settings.screenAfter_ne_bootstrapper _ _ _⟩

/-- Loading shows the screen that was pending, unless the page is shut down. -/
theorem Onboards.reload (h : c.Onboards settings s)
    (he : c.page.shutdown = true → c.page.outbox = []) {c' : Course}
    (e : c'.session = c.session.reload) :
    ∃ s', settings.Follows s s' ∧ c'.Onboards settings s' ∧
      (c.page.shutdown = false → ∀ next, c.session.pending = some next → s' = next) := by
  rcases c.session.reload_cases with ⟨hn, er⟩ | ⟨next, hn, er⟩
  · exact ⟨s, .inl rfl, h.of_session (e.trans er), fun _ next hp => by simp [hn] at hp⟩
  · rw [er] at e
    have spent : c'.session.pending = none := by rw [e]
    have same : c'.page.outbox = c.page.outbox := by rw [page, e]; exact Page.outbox_load _ _
    cases hs : c.page.shutdown with
    | true =>
      refine ⟨s, .inl rfl, ⟨?_, ?_, by simp [spent], by simp [spent]⟩, by simp⟩
      · rw [page, e]
        exact (congrArg Page.screen (Page.load_of_shutdown hs next)).trans h.screen
      · simp [same, he hs]
    | false =>
      have follows := (h.pending next hn).1
      refine ⟨next, follows, ⟨?_, ?_, by simp [spent], by simp [spent]⟩, ?_⟩
      · rw [page, e]
        simp only [Page.load, show c.session.page.shutdown = false from hs]
        rfl
      · intro x hx
        rw [same] at hx
        exact Settings.follows_screenAfter (h.fresh (by simp [hn]) x hx) follows
      · intro _ next' hn'
        exact Option.some.inj (hn.symm.trans hn')

/-- A move leads forward or leaves the screen as it is. -/
theorem Onboards.perform (hl : c.Lawful settings) (h : c.Onboards settings s) (m : Move) :
    ∃ s', settings.Follows s s' ∧ (c.perform m).Onboards settings s' := by
  obtain ⟨s₀, hr⟩ := hl.renders
  rcases session_perform hl.orderly m with e | ⟨feed, answer, -, -, e⟩ | ⟨-, -, e⟩ | ⟨-, -, e⟩
  · exact ⟨s, .inl rfl, h.of_session e⟩
  · exact ⟨s, .inl rfl, h.land hl e⟩
  · exact ⟨s, .inl rfl, h.drain hl e⟩
  · obtain ⟨s', follows, onboards, -⟩ := h.reload hr.outbox e
    exact ⟨s', follows, onboards⟩

theorem onboards_start (settings : Settings) (store : Store) (script : Script) (now : Int) :
    (start settings store script now).Onboards settings settings.startScreen := by
  have empty : (start settings store script now).page.outbox = [] := rfl
  refine ⟨rfl, by simp [empty], ?_, by simp [empty]⟩
  intro next hn
  cases hn

/-- From some moment on, onboarding goes no way back, and a wallet stays the wallet it is. -/
theorem Onboards.run (hl : c.Lawful settings) (h : c.Onboards settings s) (moves : List Move) :
    ∃ s', (c.run moves).Onboards settings s' ∧ s.progress ≤ s'.progress ∧
      ∀ lastPage, s = .wallet lastPage → s' = s := by
  induction moves generalizing c s with
  | nil => exact ⟨s, h, Nat.le_refl _, fun _ _ => rfl⟩
  | cons m moves ih =>
    obtain ⟨s₁, follows, h₁⟩ := h.perform hl m
    obtain ⟨s₂, h₂, further, stays⟩ := ih (hl.perform m) h₁
    refine ⟨s₂, h₂, Nat.le_trans follows.progress_le further, ?_⟩
    rintro lastPage rfl
    obtain rfl := follows.wallet
    exact stays lastPage rfl

theorem onboards_run (settings : Settings) (store : Store) (script : Script) (now : Int)
    (moves : List Move) :
    ∃ s, ((start settings store script now).run moves).Onboards settings s := by
  obtain ⟨s, h, -⟩ := (onboards_start settings store script now).run
    (lawful_start settings store script now) moves
  exact ⟨s, h⟩

/-- **Onboarding never goes back.** At every moment of a course the page shows a screen, and each
move leaves it there or leads to the one successor that the settings name; a pending screen that is
loaded on the first screen does lead there. Later screens are never behind, and a wallet keeps the
page of the history that it shows. -/
theorem onboarding_never_goes_back (settings : Settings) (store : Store) (script : Script)
    (now : Int) (moves : List Move) :
    let c := (start settings store script now).run moves
    ∃ s, c.page.screen = some s ∧
      (∀ m, (c.perform m).page.screen = some s ∨
        (c.perform m).page.screen = some (s.successor settings.consensusBuilder)) ∧
      (s = .bootstrapper → c.page.shutdown = false → c.session.pending ≠ none →
        (c.perform .reload).page.screen = some (s.successor settings.consensusBuilder)) ∧
      (∀ further, ∃ s', (c.run further).page.screen = some s' ∧ s.progress ≤ s'.progress ∧
        ∀ lastPage, s = .wallet lastPage → s' = .wallet lastPage) := by
  intro c
  have hl : c.Lawful settings := lawful_run settings store script now moves
  obtain ⟨s₀, hr⟩ := hl.renders
  obtain ⟨s, h⟩ := onboards_run settings store script now moves
  refine ⟨s, h.screen, ?_, ?_, ?_⟩
  · intro m
    obtain ⟨s', rfl | rfl, h'⟩ := h.perform hl m
    · exact .inl h'.screen
    · exact .inr h'.screen
  · rintro rfl hs hp
    obtain ⟨next, hn⟩ := Option.ne_none_iff_exists'.1 hp
    have stage : c.stage = .taken := hl.framed hp
    obtain ⟨s', follows, h', reached⟩ := h.reload hr.outbox (session_perform_reload stage)
    obtain rfl := reached hs next hn
    rcases follows with rfl | rfl
    · exact absurd rfl (h.pending _ hn).2
    · exact h'.screen
  · intro further
    obtain ⟨s', h', ahead, stays⟩ := h.run hl further
    refine ⟨s', h'.screen, ahead, ?_⟩
    rintro lastPage rfl
    exact stays lastPage rfl

end Course

end WalletWatch
