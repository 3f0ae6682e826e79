import Mathlib.Data.List.Perm.Basic
import WalletWatch.Proofs.Course.State
/-!
# Forms and requests

Where forms go in one move, in every lawful course. A form comes into the outbox when the page takes
it, leaves it with the batch of a frame, or is discarded with all others when the page is shut down
(`Traffic`). What frames took waits until it is posted (`Delivery`). Feeds are asked for by ticks
only (`Lawful.requests_perform`), and a page is drawn by the last move of each frame
(`drawn_perform`).
-/

namespace WalletWatch

namespace Course

variable {settings : Settings} {c : Course}

/-- What an answer notes as it lands is which form the page took. -/
theorem Lawful.deeds_land (hl : c.Lawful settings) (feed : Feed) (answer : Answer) :
    (c.session.landing feed c.watch.now answer).events.filterMap Event.deed? =
      (c.page.accepts (c.called feed answer)).map .accept := by
  obtain ⟨s, hr⟩ := hl.renders
  exact Landing.deeds_ofAnswer feed c.watch.now _ hr.accepts_plain answer

/-- What may happen to forms on their way through the outbox. -/
inductive Traffic (c c' : Course) : Prop
  /-- The page takes some, and none if it is shut down. -/
  | take (taken : List Submission) (accepted : c'.accepted = c.accepted ++ taken)
      (outbox : c'.page.outbox = c.page.outbox ++ taken) (batches : c'.batches = c.batches)
      (shutdown : c'.page.shutdown = c.page.shutdown)
      (closed : c.page.shutdown = true → taken = [])
  | drain (accepted : c'.accepted = c.accepted) (outbox : c'.page.outbox = [])
      (batches : c'.batches = c.batches ++ [c.page.outbox])
      (shutdown : c'.page.shutdown = c.page.shutdown)
  | clear (accepted : c'.accepted = c.accepted) (outbox : c'.page.outbox = [])
      (batches : c'.batches = c.batches) (shutdown : c'.page.shutdown = true)

/-- Forms stay where they are if nothing happens to the page. -/
theorem Traffic.idle {c' : Course} (session : c'.session = c.session)
    (accepted : c'.accepted = c.accepted) (batches : c'.batches = c.batches) : Traffic c c' := by
  refine .take [] ?_ ?_ batches ?_ fun _ => rfl
  · rw [accepted, List.append_nil]
  · rw [page, session, List.append_nil, ← page]
  · rw [page, session, ← page]

/-- Each move takes forms, or drains the outbox, or shuts the page down. -/
theorem Lawful.traffic (hl : c.Lawful settings) (m : Move) : Traffic c (c.perform m) := by
  cases c.turn hl.orderly m with
  | aside e =>
    exact .idle (congrArg Account.session e) (congrArg (·.deeds.filterMap Deed.accept?) e)
      (congrArg Account.batches e)
  | post index s hm found e =>
    have same := accepted_of_deeds (congrArg Account.deeds e)
    exact .idle (congrArg Account.session e) (same.trans (List.append_nil _))
      (congrArg Account.batches e)
  | request feed hm shown loop e =>
    have same := accepted_of_deeds (congrArg Account.deeds e)
    exact .idle (congrArg Account.session e) (same.trans (List.append_nil _))
      (congrArg Account.batches e)
  | land feed answer hm hw e =>
    have deeds := accepted_of_deeds (congrArg Account.deeds e)
    have landed : (c.perform m).page = (c.session.landing feed c.watch.now answer).page :=
      congrArg (·.session.page) e
    cases Landing.effect_ofAnswer feed c.watch.now (c.session.memory.get feed) c.page answer with
    | ended next cleared quiet uncalled =>
      have cleared : (c.perform m).page = c.page.shutDown.touch c.watch.now := landed.trans cleared
      refine .clear ?_ ?_ (congrArg Account.batches e) ?_
      · rw [deeds, Session.landing, ← page, quiet, List.filterMap_nil, List.append_nil]
      · rw [cleared]
        rfl
      · rw [cleared]
        rfl
    | landed next screen forms shutdown outbox =>
      refine .take (c.page.accepts (c.called feed answer)) ?_ ?_ (congrArg Account.batches e) ?_ ?_
      · rw [deeds, hl.deeds_land, Deed.accept?_accepts]
      · rw [landed]
        exact outbox
      · rw [landed]
        exact shutdown
      · obtain ⟨s, hr⟩ := hl.renders
        exact fun hs => Page.accepts_of_no_forms (hr.empty hs).2.1 _
  | drain hm hs e =>
    have session : (c.perform m).session = c.session.drain := congrArg Account.session e
    refine .drain (congrArg (·.deeds.filterMap Deed.accept?) e) ?_ (congrArg Account.batches e) ?_
    · rcases c.session.drain_cases with ⟨empty, ed⟩ | ⟨last, -, ed⟩
      · rw [page, session, ed]
        exact empty
      · rw [page, session, ed]
    · rw [page, session, Session.shutdown_drain, ← page]
  | reload hm hs e =>
    have session : (c.perform m).session = c.session.reload := congrArg Account.session e
    refine .take [] ?_ ?_ (congrArg Account.batches e) ?_ fun _ => rfl
    · rw [List.append_nil]
      exact congrArg (·.deeds.filterMap Deed.accept?) e
    · rw [page, session, Session.outbox_reload, List.append_nil, ← page]
    · rw [page, session, Session.shutdown_reload, ← page]
  | draw hm hs e =>
    exact .idle (congrArg Account.session e) (congrArg (·.deeds.filterMap Deed.accept?) e)
      (congrArg Account.batches e)

theorem outbox_reload (c : Course) : (c.perform .reload).page.outbox = c.page.outbox := by
  by_cases stage : c.stage = .taken
  · rw [page, session_perform_reload stage, Session.outbox_reload, ← page]
  · simp only [perform, stage, if_false]

/-- Nothing goes through the outbox of a page that is shut down. -/
theorem Lawful.closed_perform (hl : c.Lawful settings) (hs : c.page.shutdown = true) (m : Move) :
    (c.perform m).page.shutdown = true ∧ (c.perform m).accepted = c.accepted ∧
      (c.perform m).batches.flatten = c.batches.flatten := by
  cases hl.traffic m with
  | take taken accepted outbox batches shutdown closed =>
    rw [closed hs, List.append_nil] at accepted
    exact ⟨shutdown.trans hs, accepted, by rw [batches]⟩
  | drain accepted outbox batches shutdown =>
    obtain ⟨s, hr⟩ := hl.renders
    refine ⟨shutdown.trans hs, accepted, ?_⟩
    rw [batches, hr.outbox hs, List.flatten_append]
    exact List.append_nil _
  | clear accepted outbox batches shutdown => exact ⟨shutdown, accepted, by rw [batches]⟩

/-- Once a page is shut down it stays so, and its outbox sees no form any more. -/
theorem Lawful.closed_run (hl : c.Lawful settings) (hs : c.page.shutdown = true)
    (moves : List Move) :
    (c.run moves).page.shutdown = true ∧ (c.run moves).accepted = c.accepted ∧
      (c.run moves).batches.flatten = c.batches.flatten := by
  refine hl.run_invariant (fun d => d.page.shutdown = true ∧ d.accepted = c.accepted ∧
    d.batches.flatten = c.batches.flatten) ?_ ⟨hs, rfl, rfl⟩ moves
  rintro d m hd ⟨shutdown, accepted, batches⟩
  obtain ⟨shutdown', accepted', batches'⟩ := hd.closed_perform shutdown m
  exact ⟨shutdown', accepted'.trans accepted, batches'.trans batches⟩

/-! ## On the way to the server -/

/-- What may happen to the forms that frames took. -/
inductive Delivery (c : Course) (m : Move) (c' : Course) : Prop
  | idle (posts : c'.watch.posts = c.watch.posts) (posted : c'.posted = c.posted)
      (batches : c'.batches = c.batches)
  | post (index : Nat) (s : Submission) (move : m = .post index)
      (posts : (s :: c'.watch.posts).Perm c.watch.posts)
      (posted : c'.posted = c.posted ++ [s]) (batches : c'.batches = c.batches)
  | drain (move : m = .drain) (posts : c'.watch.posts = c.watch.posts ++ c.page.outbox)
      (posted : c'.posted = c.posted) (batches : c'.batches = c.batches ++ [c.page.outbox])

theorem Lawful.delivery (hl : c.Lawful settings) (m : Move) : Delivery c m (c.perform m) := by
  cases c.turn hl.orderly m with
  | aside e =>
    exact .idle (congrArg Account.posts e) (congrArg (·.deeds.filterMap Deed.post?) e)
      (congrArg Account.batches e)
  | post index s hm found e =>
    obtain ⟨bound, rfl⟩ := List.getElem?_eq_some_iff.1 found
    have posts : (c.perform m).watch.posts = c.watch.posts.eraseIdx index :=
      congrArg Account.posts e
    refine .post index _ hm ?_ (posted_of_deeds (congrArg Account.deeds e))
      (congrArg Account.batches e)
    rw [posts]
    exact List.getElem_cons_eraseIdx_perm bound
  | request feed hm shown loop e =>
    have same := posted_of_deeds (congrArg Account.deeds e)
    exact .idle (congrArg Account.posts e) (same.trans (List.append_nil _))
      (congrArg Account.batches e)
  | land feed answer hm hw e =>
    have deeds := posted_of_deeds (congrArg Account.deeds e)
    refine .idle (congrArg Account.posts e) ?_ (congrArg Account.batches e)
    rw [deeds, hl.deeds_land, Deed.post?_accepts, List.append_nil]
  | drain hm hs e =>
    exact .drain hm (congrArg Account.posts e) (congrArg (·.deeds.filterMap Deed.post?) e)
      (congrArg Account.batches e)
  | reload hm hs e =>
    exact .idle (congrArg Account.posts e) (congrArg (·.deeds.filterMap Deed.post?) e)
      (congrArg Account.batches e)
  | draw hm hs e =>
    exact .idle (congrArg Account.posts e) (congrArg (·.deeds.filterMap Deed.post?) e)
      (congrArg Account.batches e)

/-- Frames post nothing themselves. -/
theorem Lawful.posted_drain (hl : c.Lawful settings) : (c.perform .drain).posted = c.posted := by
  cases hl.delivery .drain with
  | idle posts posted batches => exact posted
  | post index s move posts posted batches => cases move
  | drain move posts posted batches => exact posted

theorem Lawful.posted_reload (hl : c.Lawful settings) :
    (c.perform .reload).watch.posts = c.watch.posts ∧ (c.perform .reload).posted = c.posted := by
  cases hl.delivery .reload with
  | idle posts posted batches => exact ⟨posts, posted⟩
  | post index s move posts posted batches => cases move
  | drain move posts posted batches => cases move

/-- A feed is asked for in a tick that finds it on the page, and never otherwise. -/
theorem Lawful.requests_perform (hl : c.Lawful settings) (m : Move) :
    (c.perform m).requests = c.requests ∨
    (∃ feed wake, m = .tick feed ∧ c.session.shows feed = true ∧
      c.watch.loops.get feed = .resting wake ∧ (c.perform m).requests = c.requests ++ [feed]) := by
  cases c.turn hl.orderly m with
  | aside e => exact .inl (congrArg (·.deeds.filterMap Deed.request?) e)
  | post index s hm found e =>
    have same := requests_of_deeds (congrArg Account.deeds e)
    exact .inl (same.trans (List.append_nil _))
  | request feed hm shown loop e =>
    obtain ⟨wake, resting⟩ := loop
    exact .inr ⟨feed, wake, hm, shown, resting, requests_of_deeds (congrArg Account.deeds e)⟩
  | land feed answer hm hw e =>
    have deeds := requests_of_deeds (congrArg Account.deeds e)
    left
    rw [deeds, hl.deeds_land, Deed.request?_accepts, List.append_nil]
  | drain hm hs e => exact .inl (congrArg (·.deeds.filterMap Deed.request?) e)
  | reload hm hs e => exact .inl (congrArg (·.deeds.filterMap Deed.request?) e)
  | draw hm hs e => exact .inl (congrArg (·.deeds.filterMap Deed.request?) e)

/-- Whether a move draws: the last one of a frame does. -/
def draws (c : Course) : Move → Bool
  | .draw => c.stage = .loaded
  | _ => false

/-- A frame draws the page as it is, and nothing else draws. -/
theorem drawn_perform (c : Course) (m : Move) :
    (c.perform m).drawn = c.drawn ++ if c.draws m then [c.watch.texts] else [] := by
  have idle : c.drawn = c.drawn ++ [] := (List.append_nil _).symm
  cases m with
  | chore chore => exact idle
  | post index => exact idle
  | tick feed => rcases c.perform_tick feed with ⟨_, -, e⟩ | e <;> rw [e] <;> exact idle
  | land feed => rcases c.perform_land feed with ⟨_, -, e⟩ | ⟨-, e⟩ <;> rw [e] <;> exact idle
  | drain =>
    rw [perform]
    split <;> exact idle
  | reload =>
    rw [perform]
    split <;> exact idle
  | draw =>
    simp only [perform, draws, decide_eq_true_eq]
    split
    · rfl
    · exact idle

end Course

end WalletWatch
