import WalletWatch.Proofs.Course.Deeds
/-!
# What loops do in a course

A loop is started once, waits for an answer only after a tick that found its feed on the page
(`awaits_perform`), and does nothing any more once it has ended (`ended_perform`). Both follow from
one law of every watch: a loop that is not idle was started (`Orderly`).
-/

namespace WalletWatch

namespace Watch

/-- Loops are idle until they are started, and what is still to be noted of posts is no deed. -/
structure Orderly (w : Watch) : Prop where
  idle : w.polling = false → ∀ feed, w.loops.get feed = .idle
  failing : ∀ e ∈ w.failing, e.event.deed? = none

theorem Orderly.polling {w : Watch} (h : w.Orderly) {feed : Feed}
    (busy : w.loops.get feed ≠ .idle) : w.polling = true := by
  cases hp : w.polling with
  | true => rfl
  | false => exact absurd (h.idle hp feed) busy

/-! ## What happens beside the page -/

theorem startPolling_of_polling {w : Watch} (h : w.polling = true) : w.startPolling = w := by
  simp [startPolling, h]

theorem polling_startPolling (w : Watch) : w.startPolling.polling = true := by
  unfold startPolling
  split
  · assumption
  · rfl

theorem failing_startPolling (w : Watch) : w.startPolling.failing = w.failing := by
  unfold startPolling
  split <;> rfl

/-- A loop that begins was started, and then waits for its first tick. -/
theorem beginLoop_eq_or (w : Watch) (feed : Feed) :
    w.beginLoop feed = w ∨ (w.loops.get feed = .starting ∧
      (w.beginLoop feed).loops = w.loops.set feed (.resting w.clock)) := by
  unfold beginLoop
  split
  · next h => exact .inr ⟨h, rfl⟩
  · exact .inl rfl

/-- A loop that is ended was started and had not ended. -/
theorem endLoop_eq_or (w : Watch) (feed : Feed) :
    w.endLoop feed = w ∨ ((w.loops.get feed).isAlive = true ∧
      (w.endLoop feed).loops = w.loops.set feed .ended) := by
  unfold endLoop
  split
  · next h => exact .inr ⟨(Bool.and_eq_true_iff.1 h).2, rfl⟩
  · exact .inl rfl

@[simp] theorem polling_beginLoop (w : Watch) (feed : Feed) :
    (w.beginLoop feed).polling = w.polling := by
  unfold beginLoop
  split <;> rfl

@[simp] theorem failing_beginLoop (w : Watch) (feed : Feed) :
    (w.beginLoop feed).failing = w.failing := by
  unfold beginLoop
  split <;> rfl

@[simp] theorem polling_endLoop (w : Watch) (feed : Feed) :
    (w.endLoop feed).polling = w.polling := by
  unfold endLoop
  split <;> rfl

@[simp] theorem failing_endLoop (w : Watch) (feed : Feed) :
    (w.endLoop feed).failing = w.failing := by
  unfold endLoop
  split <;> rfl

theorem Orderly.attend {w : Watch} (h : w.Orderly) (chore : Chore) :
    (w.attend chore).Orderly := by
  -- Starting sets every loop, so there is nothing to say of them once it is done.
  have started : ∀ v : Watch, v.Orderly → v.startPolling.Orderly := fun v hv =>
    ⟨fun hp => absurd (polling_startPolling v) (by simp [hp]), by
      rw [failing_startPolling]; exact hv.failing⟩
  cases chore with
  | pass clock now => exact ⟨h.idle, h.failing⟩
  | startPolling => exact started w h
  | stopPolling => exact ⟨h.idle, h.failing⟩
  | close => exact ⟨h.idle, h.failing⟩
  | openFrame view =>
    obtain ⟨idle, failing⟩ := started { w with window := w.window.track view } ⟨h.idle, h.failing⟩
    exact ⟨idle, failing⟩
  | noteFailures => exact ⟨h.idle, fun e he => h.failing e (List.mem_filter.1 he).1⟩
  | beginLoop feed =>
    rcases beginLoop_eq_or w feed with same | ⟨hs, -⟩
    · simpa only [Watch.attend, same] using h
    · refine ⟨fun hp => ?_, by simpa [Watch.attend] using h.failing⟩
      have := h.idle (by simpa [Watch.attend] using hp) feed
      rw [hs] at this
      cases this
  | endLoop feed =>
    rcases endLoop_eq_or w feed with same | ⟨hs, -⟩
    · simpa only [Watch.attend, same] using h
    · refine ⟨fun hp => ?_, by simpa [Watch.attend] using h.failing⟩
      have := h.idle (by simpa [Watch.attend] using hp) feed
      rw [this] at hs
      cases hs

/-- What happens beside the page makes no loop wait for an answer. -/
theorem awaiting_of_attend {w : Watch} {chore : Chore} {feed : Feed} {answer : Answer}
    {arrival : Nat} (h : (w.attend chore).loops.get feed = .awaiting answer arrival) :
    w.loops.get feed = .awaiting answer arrival := by
  have started : ∀ v : Watch, v.startPolling.loops.get feed = .awaiting answer arrival →
      v.loops.get feed = .awaiting answer arrival := by
    intro v hv
    unfold startPolling at hv
    split at hv
    · exact hv
    · rw [loops_log, PerFeed.get_const] at hv
      cases hv
  cases chore with
  | pass clock now => exact h
  | startPolling => exact started w h
  | stopPolling => exact h
  | close => exact h
  | openFrame view => exact started { w with window := w.window.track view } h
  | noteFailures => exact h
  | beginLoop other =>
    rcases beginLoop_eq_or w other with same | ⟨-, hl⟩
    · rwa [Watch.attend, same] at h
    · rw [Watch.attend, hl] at h
      by_cases hf : feed = other
      · subst hf
        rw [PerFeed.get_set_self] at h
        cases h
      · rwa [PerFeed.get_set_of_ne _ hf] at h
  | endLoop other =>
    rcases endLoop_eq_or w other with same | ⟨-, hl⟩
    · rwa [Watch.attend, same] at h
    · rw [Watch.attend, hl] at h
      by_cases hf : feed = other
      · subst hf
        rw [PerFeed.get_set_self] at h
        cases h
      · rwa [PerFeed.get_set_of_ne _ hf] at h

/-- What happens beside the page does not revive a loop. -/
theorem ended_attend {w : Watch} (ho : w.Orderly) {feed : Feed}
    (h : w.loops.get feed = .ended) (chore : Chore) :
    (w.attend chore).loops.get feed = .ended := by
  have busy : w.loops.get feed ≠ .idle := by simp [h]
  have hp : w.polling = true := ho.polling busy
  cases chore with
  | pass clock now => exact h
  | startPolling => rwa [Watch.attend, startPolling_of_polling hp]
  | stopPolling => exact h
  | close => exact h
  | openFrame view =>
    have seen : ({ w with window := w.window.track view } : Watch).polling = true := hp
    simp only [Watch.attend, openFrame, startPolling_of_polling seen]
    exact h
  | noteFailures => exact h
  | beginLoop other =>
    rcases beginLoop_eq_or w other with same | ⟨hs, hl⟩
    · rwa [Watch.attend, same]
    · have hf : feed ≠ other := by rintro rfl; rw [h] at hs; cases hs
      rwa [Watch.attend, hl, PerFeed.get_set_of_ne _ hf]
  | endLoop other =>
    rcases endLoop_eq_or w other with same | ⟨-, hl⟩
    · rwa [Watch.attend, same]
    · rw [Watch.attend, hl]
      by_cases hf : feed = other
      · subst hf
        exact PerFeed.get_set_self ..
      · rwa [PerFeed.get_set_of_ne _ hf]

/-! ## What the parts of a watch do -/

/-- After a tick its loop waits for an answer if the page shows its feed, and rests otherwise. -/
theorem loops_tick (w : Watch) (feed : Feed) :
    (w.session.shows feed = true ∧ ∃ answer arrival,
      (w.tick feed).loops = w.loops.set feed (.awaiting answer arrival)) ∨
    (w.session.shows feed = false ∧ ∃ wake,
      (w.tick feed).loops = w.loops.set feed (.resting wake)) := by
  unfold tick
  split
  · next h => exact .inl ⟨h, _, _, rfl⟩
  · next h => exact .inr ⟨by simpa using h, _, rfl⟩

/-- After a landing its loop rests, or has ended if the landing stops it. -/
theorem loops_land (w : Watch) (feed : Feed) (answer : Answer) :
    ((w.session.landing feed w.now answer).next = .stop ∧
      (w.land feed answer).loops = w.loops.set feed .ended) ∨
    ((w.session.landing feed w.now answer).next ≠ .stop ∧ ∃ wake,
      (w.land feed answer).loops = w.loops.set feed (.resting wake)) := by
  simp only [land]
  split
  · next h => exact .inr ⟨by simp [h], _, rfl⟩
  · next h => exact .inl ⟨h, rfl⟩

theorem Orderly.postAt {w : Watch} (h : w.Orderly) (index : Nat) : (w.postAt index).Orderly := by
  refine ⟨by simpa using h.idle, ?_⟩
  unfold Watch.postAt
  split
  · simp only [post, failing_log, List.mem_append, List.mem_map]
    rintro e (he | ⟨failure, -, rfl⟩)
    · exact h.failing e he
    · rfl
  · exact h.failing

end Watch

namespace Course

variable {c : Course}

theorem orderly_perform (h : c.watch.Orderly) (m : Move) : (c.perform m).watch.Orderly := by
  cases m with
  | chore chore => exact h.attend chore
  | post index => exact h.postAt index
  | tick feed =>
    rcases c.perform_tick feed with ⟨wake, hr, e⟩ | e
    · rw [e]
      refine ⟨fun hp => ?_, by simpa using h.failing⟩
      have := h.idle (by simpa using hp) feed
      rw [hr] at this
      cases this
    · rwa [e]
  | land feed =>
    rcases c.perform_land feed with ⟨answer, ⟨arrival, hw⟩, e⟩ | ⟨-, e⟩
    · rw [e]
      refine ⟨fun hp => ?_, by simpa using h.failing⟩
      have := h.idle (by simpa using hp) feed
      rw [hw] at this
      cases this
    · rwa [e]
  | drain => simp only [perform]; split <;> exact ⟨h.idle, h.failing⟩
  | reload => simp only [perform]; split <;> exact ⟨h.idle, h.failing⟩
  | draw => simp only [perform]; split <;> exact ⟨h.idle, h.failing⟩

/-- A loop that has ended does nothing any more. -/
theorem ended_perform (ho : c.watch.Orderly) {feed : Feed} (h : c.watch.loops.get feed = .ended)
    (m : Move) : (c.perform m).watch.loops.get feed = .ended := by
  cases m with
  | chore chore => exact Watch.ended_attend ho h chore
  | post index => simpa [perform] using h
  | tick other =>
    rcases c.perform_tick other with ⟨wake, hr, e⟩ | e
    · have hf : feed ≠ other := by rintro rfl; rw [h] at hr; cases hr
      rw [e]
      rcases c.watch.loops_tick other with ⟨-, answer, arrival, hl⟩ | ⟨-, wake, hl⟩ <;>
        simpa [hl, hf] using h
    · rwa [e]
  | land other =>
    rcases c.perform_land other with ⟨answer, ⟨arrival, hw⟩, e⟩ | ⟨-, e⟩
    · have hf : feed ≠ other := by rintro rfl; rw [h] at hw; cases hw
      rw [e]
      rcases c.watch.loops_land other answer with ⟨-, hl⟩ | ⟨-, wake, hl⟩ <;>
        simpa [hl, hf] using h
    · rwa [e]
  | drain => simp only [perform]; split <;> exact h
  | reload => simp only [perform]; split <;> exact h
  | draw => simp only [perform]; split <;> exact h

/-- A loop waits for an answer since a tick that found its feed on the page. -/
theorem awaits_perform {m : Move} {feed : Feed} {answer : Answer}
    (h : (c.perform m).Awaits feed answer) :
    c.Awaits feed answer ∨ (m = .tick feed ∧ c.session.shows feed = true) := by
  obtain ⟨arrival, h⟩ := h
  cases m with
  | chore chore => exact .inl ⟨arrival, Watch.awaiting_of_attend h⟩
  | post index => exact .inl ⟨arrival, by simpa [perform] using h⟩
  | tick other =>
    rcases c.perform_tick other with ⟨wake, -, e⟩ | e
    · rw [e] at h
      by_cases hf : feed = other
      · subst hf
        rcases c.watch.loops_tick feed with ⟨hs, -⟩ | ⟨-, wake, hl⟩
        · exact .inr ⟨rfl, hs⟩
        · simp [hl] at h
      · rcases c.watch.loops_tick other with ⟨-, _, _, hl⟩ | ⟨-, _, hl⟩ <;>
          exact .inl ⟨arrival, by simpa [hl, hf] using h⟩
    · rw [e] at h
      exact .inl ⟨arrival, h⟩
  | land other =>
    rcases c.perform_land other with ⟨landed, -, e⟩ | ⟨-, e⟩
    · rw [e] at h
      by_cases hf : feed = other
      · subst hf
        rcases c.watch.loops_land feed landed with ⟨-, hl⟩ | ⟨-, _, hl⟩ <;> simp [hl] at h
      · rcases c.watch.loops_land other landed with ⟨-, hl⟩ | ⟨-, _, hl⟩ <;>
          exact .inl ⟨arrival, by simpa [hl, hf] using h⟩
    · rw [e] at h
      exact .inl ⟨arrival, h⟩
  | drain => simp only [perform] at h; split at h <;> exact .inl ⟨arrival, h⟩
  | reload => simp only [perform] at h; split at h <;> exact .inl ⟨arrival, h⟩
  | draw => simp only [perform] at h; split at h <;> exact .inl ⟨arrival, h⟩

end Course

end WalletWatch
