import WalletWatch.Proofs.Course.Traffic
/-!
# No form is lost, and none is posted twice

The way of a submitted form, in every course: a page takes it into the outbox, a frame takes it from
there in a batch, and it is posted. Two laws hold at every moment. What pages took is what frames
took and what is still in the outbox, in this order (`Conserves`), and what frames took is what was
posted and what still waits for it (`Delivers`). Only the end of the page breaks the first law, and
it does so once: what is in the outbox at that moment is never taken.
-/

namespace WalletWatch

namespace Course

variable {settings : Settings} {c : Course}

/-! ## From the page to the frame -/

/-- As long as the page is not shut down, frames took what pages took, but for the outbox. -/
def Conserves (c : Course) : Prop :=
  c.page.shutdown = false → c.accepted = c.batches.flatten ++ c.page.outbox

theorem Conserves.perform (hl : c.Lawful settings) (h : c.Conserves) (m : Move) :
    (c.perform m).Conserves := by
  intro running
  cases hl.traffic m with
  | take taken accepted outbox batches shutdown closed =>
    have before := h (shutdown ▸ running)
    rw [accepted, before, batches, outbox, List.append_assoc]
  | drain accepted outbox batches shutdown =>
    have before := h (shutdown ▸ running)
    rw [accepted, before, batches, outbox, List.append_nil, List.flatten_append]
    simp
  | clear accepted outbox batches shutdown =>
    rw [shutdown] at running
    cases running

/-- The end of the page discards the outbox and nothing else. -/
theorem Lawful.discard (hl : c.Lawful settings) {m : Move} (running : c.page.shutdown = false)
    (ended : (c.perform m).page.shutdown = true) :
    (c.perform m).accepted = c.accepted ∧ (c.perform m).batches = c.batches ∧
      (c.perform m).page.outbox = [] := by
  cases hl.traffic m with
  | take taken accepted outbox batches shutdown closed =>
    rw [shutdown, running] at ended
    cases ended
  | drain accepted outbox batches shutdown =>
    rw [shutdown, running] at ended
    cases ended
  | clear accepted outbox batches shutdown => exact ⟨accepted, batches, outbox⟩

/-! ## From the frame to the server -/

/-- Each form that a frame took was posted once or waits to be posted. -/
def Delivers (c : Course) : Prop :=
  (c.posted ++ c.watch.posts).Perm c.batches.flatten

theorem Delivers.perform (hl : c.Lawful settings) (h : c.Delivers) (m : Move) :
    (c.perform m).Delivers := by
  unfold Delivers at *
  cases hl.delivery m with
  | idle posts posted batches => rwa [posts, posted, batches]
  | post index s move posts posted batches =>
    rw [posted, batches, List.append_assoc]
    exact (posts.append_left c.posted).trans h
  | drain move posts posted batches =>
    rw [posts, posted, batches, List.flatten_append, ← List.append_assoc]
    simpa using h.append_right c.page.outbox

theorem Delivers.run (hl : c.Lawful settings) (h : c.Delivers) (moves : List Move) :
    (c.run moves).Delivers :=
  hl.run_invariant Delivers (fun _ m hd h => h.perform hd m) h moves

/-- When nothing waits, every form that a frame took was posted, and once. -/
theorem Delivers.posted (h : c.Delivers) (empty : c.watch.posts = []) :
    c.posted.Perm c.batches.flatten := by
  rwa [Delivers, empty, List.append_nil] at h

theorem posts_perform_post (c : Course) :
    (c.perform (.post 0)).watch.posts = c.watch.posts.tail := by
  rcases c.watch.postAt_eq_or 0 with ⟨s, found, posts, deeds⟩ | ⟨missing, same⟩
  · exact posts.trans List.eraseIdx_zero
  · have empty : c.watch.posts = [] := List.eq_nil_of_length_eq_zero (by simpa using missing)
    rw [perform, same, empty, List.tail_nil]

/-- What waits can be posted, one form after the other. -/
theorem run_post (c : Course) :
    (c.run (List.replicate c.watch.posts.length (.post 0))).watch.posts = [] ∧
      (c.run (List.replicate c.watch.posts.length (.post 0))).batches = c.batches := by
  induction hn : c.watch.posts.length generalizing c with
  | zero => exact ⟨List.eq_nil_of_length_eq_zero hn, rfl⟩
  | succ n ih =>
    rw [List.replicate_succ, run_cons]
    refine ih (c.perform (.post 0)) ?_
    rw [posts_perform_post, List.length_tail, hn]
    rfl

/-! ## Frames that find nothing -/

/-- A frame that took nothing loads nothing. -/
def Quiet (c : Course) : Prop :=
  c.stage = .taken ∧ c.session.pending = none

theorem Quiet.perform (hl : c.Lawful settings) (h : c.Quiet) {m : Move} (hm : m ≠ .reload) :
    (c.perform m).Quiet := by
  obtain ⟨taken, pending⟩ := h
  obtain ⟨stage, same⟩ := taken_perform hl.orderly taken hm
  exact ⟨stage, same.trans pending⟩

theorem Quiet.run (hl : c.Lawful settings) (h : c.Quiet) {moves : List Move}
    (hm : ∀ m ∈ moves, m ≠ .reload) : (c.run moves).Quiet :=
  hl.run_while (fun _ _ hd hm h => h.perform hd hm) h hm

theorem Quiet.session_reload (h : c.Quiet) : (c.perform .reload).session = c.session := by
  rw [session_perform_reload h.1, Session.reload_of_idle h.2]

/-- A frame that finds the outbox empty leaves page and forms as they are, when it looks for forms
and when it would load what follows them. -/
theorem Lawful.quiet_frame (hl : c.Lawful settings) (stage : c.stage = .apart)
    (empty : c.page.outbox = []) {between : List Move} (hb : ∀ m ∈ between, m ≠ .reload) :
    (c.perform .drain).session = c.session ∧
      (c.perform .drain).watch.posts = c.watch.posts ∧
      (((c.perform .drain).run between).perform .reload).session =
        ((c.perform .drain).run between).session := by
  have performed : c.perform .drain =
      { c with watch := c.watch.drain, stage := .taken, batches := c.batches ++ [c.page.outbox] } := by
    simp only [Course.perform, stage, if_true]
  have drained : (c.perform .drain).session = c.session := by
    rw [(session_perform_drain stage).1, Session.drain_of_empty empty]
  have posts : (c.perform .drain).watch.posts = c.watch.posts := by
    rw [performed]
    exact (congrArg _ empty).trans (List.append_nil _)
  refine ⟨drained, posts, ?_⟩
  have quiet : (c.perform .drain).Quiet := by
    refine ⟨by rw [performed], ?_⟩
    rw [drained]
    by_contra pending
    have taken := hl.framed pending
    rw [stage] at taken
    cases taken
  exact (quiet.run (hl.perform .drain) hb).session_reload

/-- **Submissions are conserved.** At every moment of a course that is not shut down, what pages took
is, in order, what frames took and what is in the outbox; and what frames took is, one for one, what
was posted and what still waits. All that waits can be posted. Loading a screen leaves the outbox
alone, and a frame that finds it empty changes nothing. The move that shuts a page down discards
what is in the outbox then, and from there on nothing is taken by pages or frames. -/
theorem submissions_conserved (settings : Settings) (store : Store) (script : Script) (now : Int)
    (moves : List Move) :
    let c := (start settings store script now).run moves
    (c.page.shutdown = false → c.accepted = c.batches.flatten ++ c.page.outbox) ∧
      (c.posted ++ c.watch.posts).Perm c.batches.flatten ∧
      (let done := c.run (List.replicate c.watch.posts.length (.post 0))
       done.watch.posts = [] ∧ done.posted.Perm c.batches.flatten) ∧
      (c.perform .reload).page.outbox = c.page.outbox ∧
      (c.stage = .apart → c.page.outbox = [] → ∀ between, (∀ m ∈ between, m ≠ .reload) →
        let looked := c.perform .drain
        let last := looked.run between
        looked.page = c.page ∧ looked.watch.posts = c.watch.posts ∧ looked.posted = c.posted ∧
          (last.perform .reload).page = last.page ∧
          (last.perform .reload).watch.posts = last.watch.posts ∧
          (last.perform .reload).posted = last.posted) ∧
      (∀ m, c.page.shutdown = false → (c.perform m).page.shutdown = true → ∀ further,
        let later := (c.perform m).run further
        later.page.outbox = [] ∧ later.accepted = c.accepted ∧
          later.accepted = later.batches.flatten ++ c.page.outbox) := by
  intro c
  have hl : c.Lawful settings := lawful_run settings store script now moves
  have conserves : c.Conserves :=
    (lawful_start settings store script now).run_invariant Conserves
      (fun _ m hd h => h.perform hd m) (fun _ => rfl) moves
  have delivers : c.Delivers := Delivers.run (lawful_start settings store script now) .nil moves
  refine ⟨conserves, delivers, ?_, ?_, ?_, ?_⟩
  · obtain ⟨posts, batches⟩ := c.run_post
    have posted := (delivers.run hl _).posted posts
    rw [batches] at posted
    exact ⟨posts, posted⟩
  · exact c.outbox_reload
  · intro stage empty between hb
    obtain ⟨looked, posts, loaded⟩ := hl.quiet_frame stage empty hb
    have hlast := (hl.perform .drain).run between
    obtain ⟨posts', posted'⟩ := hlast.posted_reload
    exact ⟨congrArg Session.page looked, posts, hl.posted_drain, congrArg Session.page loaded,
      posts', posted'⟩
  · intro m running ended further
    obtain ⟨accepted, batches, outbox⟩ := hl.discard running ended
    have hm := hl.perform m
    obtain ⟨shutdown, accepted', batches'⟩ := hm.closed_run ended further
    obtain ⟨s, hr⟩ := (hm.run further).renders
    refine ⟨hr.outbox shutdown, accepted'.trans accepted, ?_⟩
    calc ((c.perform m).run further).accepted
        = c.accepted := accepted'.trans accepted
      _ = c.batches.flatten ++ c.page.outbox := conserves running
      _ = ((c.perform m).run further).batches.flatten ++ c.page.outbox := by rw [batches', batches]

end Course

end WalletWatch
