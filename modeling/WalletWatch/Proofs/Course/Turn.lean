import WalletWatch.Proofs.Course.Loops
/-!
# What one move does

The inversion of a move. `Account` is what a course has to show for itself: the shared state, how
far the frame is, the forms that wait to be posted, the record of what happened and the deeds.
`turn` lists what a move can do to it, once and for all; laws of courses are proved from this list,
and do not look into moves again.
-/

namespace WalletWatch

/-- What a course has to show for itself. -/
structure Account where
  session : Session
  stage : Stage
  posts : List Submission
  batches : List (List Submission)
  landed : List (Feed × Answer)
  drawn : List (List Drawn)
  deeds : List Deed

namespace Course

variable {c : Course}

def account (c : Course) : Account :=
  ⟨c.session, c.stage, c.watch.posts, c.batches, c.landed, c.drawn, c.watch.deeds⟩

/-- The feeds that were asked for, in order. -/
def requests (c : Course) : List Feed :=
  c.watch.deeds.filterMap Deed.request?

/-- The forms that pages took into the outbox, in order. -/
def accepted (c : Course) : List Submission :=
  c.watch.deeds.filterMap Deed.accept?

/-- The forms that were posted, in order. -/
def posted (c : Course) : List Submission :=
  c.watch.deeds.filterMap Deed.post?

theorem requests_of_deeds {c' : Course} {deeds : List Deed}
    (h : c'.watch.deeds = c.watch.deeds ++ deeds) :
    c'.requests = c.requests ++ deeds.filterMap Deed.request? := by
  rw [requests, h, List.filterMap_append, ← requests]

theorem accepted_of_deeds {c' : Course} {deeds : List Deed}
    (h : c'.watch.deeds = c.watch.deeds ++ deeds) :
    c'.accepted = c.accepted ++ deeds.filterMap Deed.accept? := by
  rw [accepted, h, List.filterMap_append, ← accepted]

theorem posted_of_deeds {c' : Course} {deeds : List Deed}
    (h : c'.watch.deeds = c.watch.deeds ++ deeds) :
    c'.posted = c.posted ++ deeds.filterMap Deed.post? := by
  rw [posted, h, List.filterMap_append, ← posted]

/-- What a move can do. -/
inductive Turn (c : Course) (m : Move) (a : Account) : Prop
  | aside (account : a = c.account)
  | post (index : Nat) (s : Submission) (move : m = .post index)
      (found : c.watch.posts[index]? = some s)
      (account : a = { c.account with
        posts := c.watch.posts.eraseIdx index
        deeds := c.watch.deeds ++ [.post s] })
  | request (feed : Feed) (move : m = .tick feed) (shown : c.session.shows feed = true)
      (loop : ∃ wake, c.watch.loops.get feed = .resting wake)
      (account : a = { c.account with deeds := c.watch.deeds ++ [.request feed] })
  | land (feed : Feed) (answer : Answer) (move : m = .land feed) (awaits : c.Awaits feed answer)
      (account : a = { c.account with
        session := c.session.land feed c.watch.now answer
        landed := c.landed ++ [(feed, answer)]
        deeds := c.watch.deeds ++
          (c.session.landing feed c.watch.now answer).events.filterMap Event.deed? })
  | drain (move : m = .drain) (stage : c.stage = .apart)
      (account : a = { c.account with
        session := c.session.drain
        stage := .taken
        posts := c.watch.posts ++ c.page.outbox
        batches := c.batches ++ [c.page.outbox] })
  | reload (move : m = .reload) (stage : c.stage = .taken)
      (account : a = { c.account with session := c.session.reload, stage := .loaded })
  | draw (move : m = .draw) (stage : c.stage = .loaded)
      (account : a = { c.account with stage := .apart, drawn := c.drawn ++ [c.watch.texts] })

theorem account_chore (ho : c.watch.Orderly) (chore : Chore) :
    (c.perform (.chore chore)).account = c.account := by
  simp only [account, perform, session, Watch.session_attend, Watch.posts_attend,
    Watch.deeds_attend ho.failing]

theorem account_tick (c : Course) (feed : Feed) :
    ({ c with watch := c.watch.tick feed } : Course).account =
      { c.account with
        deeds := c.watch.deeds ++ if c.session.shows feed then [.request feed] else [] } := by
  simp only [account, session, Watch.session_tick, Watch.posts_tick, Watch.deeds_tick]
  rfl

theorem account_land (c : Course) (feed : Feed) (answer : Answer) :
    ({ c with
        watch := c.watch.land feed answer
        landed := c.landed ++ [(feed, answer)] } : Course).account =
      { c.account with
        session := c.session.land feed c.watch.now answer
        landed := c.landed ++ [(feed, answer)]
        deeds := c.watch.deeds ++
          (c.session.landing feed c.watch.now answer).events.filterMap Event.deed? } := by
  simp only [account, session, Watch.session_land, Watch.posts_land, Watch.deeds_land]

/-- Every move of an orderly course does one of the things listed. -/
theorem turn (ho : c.watch.Orderly) (m : Move) : c.Turn m (c.perform m).account := by
  cases m with
  | chore chore => exact .aside (account_chore ho chore)
  | post index =>
    rcases c.watch.postAt_eq_or index with ⟨s, found, posts, deeds⟩ | ⟨-, same⟩
    · refine .post index s rfl found ?_
      simp only [account, perform, session, Watch.session_postAt, posts, deeds]
    · exact .aside (by simp only [perform, same])
  | tick feed =>
    rcases c.perform_tick feed with ⟨wake, loop, e⟩ | e
    · rw [e, account_tick]
      cases hs : c.session.shows feed with
      | true => exact .request feed rfl hs ⟨wake, loop⟩ rfl
      | false =>
        refine .aside ?_
        simp only [Bool.false_eq_true, if_false, List.append_nil]
        rfl
    · exact .aside (by rw [e])
  | land feed =>
    rcases c.perform_land feed with ⟨answer, awaits, e⟩ | ⟨-, e⟩
    · rw [e, account_land]
      exact .land feed answer rfl awaits rfl
    · exact .aside (by rw [e])
  | drain =>
    by_cases hs : c.stage = .apart
    · refine .drain rfl hs ?_
      simp only [perform, hs, if_true, account, session, Watch.deeds_drain]
      rfl
    · exact .aside (by simp only [perform, hs, if_false])
  | reload =>
    by_cases hs : c.stage = .taken
    · refine .reload rfl hs ?_
      simp only [perform, hs, if_true]
      rfl
    · exact .aside (by simp only [perform, hs, if_false])
  | draw =>
    by_cases hs : c.stage = .loaded
    · refine .draw rfl hs ?_
      simp only [perform, hs, if_true]
      rfl
    · exact .aside (by simp only [perform, hs, if_false])

end Course

end WalletWatch
