import WalletWatch.Proofs.Course.Marks
import WalletWatch.Proofs.Course.Told
/-!
# How loops end

A loop ends when an answer stops it, or when it was cancelled and is told to end (`Course.EndsIn`).
The journal notes each end as it comes (`ends_perform`), and a loop that has ended stays so; hence
at every moment the journal notes one end of each loop that has ended, and none of any other
(`Course.NotesEnds`).
-/

namespace WalletWatch

namespace Course

variable {settings : Settings} {c c' : Course} {m : Move} {feed : Feed}

/-- The moments at which the loop of a feed ended. -/
def ends (c : Course) (feed : Feed) : List Nat :=
  c.times (· = .loopEnded feed)

theorem ends_of_told {events : List Event}
    (h : c'.watch.journal = c.watch.journal ++ events.map (⟨c.watch.clock, ·⟩)) (feed : Feed) :
    c'.ends feed =
      c.ends feed ++ (events.filter (· = .loopEnded feed)).map fun _ => c.watch.clock := by
  rw [ends, times, h, List.filter_append, List.map_append, List.filter_map, List.map_map]
  rfl

theorem ends_of_quiet (hm : m ≠ .chore .noteFailures)
    (quiet : ∀ e ∈ c.told m, e ≠ .loopEnded feed) : (c.perform m).ends feed = c.ends feed := by
  have none : (c.told m).filter (· = .loopEnded feed) = [] :=
    List.filter_eq_nil_iff.2 fun e he => by simpa using quiet e he
  rw [ends_of_told (journal_perform hm), none]
  exact List.append_nil _

theorem ends_noteFailures (hn : c.watch.NotesPosts) (feed : Feed) :
    (c.perform (.chore .noteFailures)).ends feed = c.ends feed := by
  have none : (c.watch.failing.filter (·.time ≤ c.watch.clock)).filter
      (·.event = .loopEnded feed) = [] := by
    refine List.filter_eq_nil_iff.2 fun e he => ?_
    obtain ⟨form, failure, posted⟩ := hn e (List.mem_filter.1 he).1
    simp [posted]
  simp only [ends, times, perform, Watch.attend, Watch.noteFailures, List.filter_append, none,
    List.append_nil]

/-- Whether a loop ends in a move: it is told to, or an answer stops it. -/
def EndsIn (c : Course) (feed : Feed) : Move → Prop
  | .chore (.endLoop other) =>
    other = feed ∧ c.watch.cancelled = true ∧ (c.watch.loops.get feed).isAlive = true
  | .land other => other = feed ∧ ∃ answer, c.Awaits feed answer ∧ c.Stops feed answer
  | _ => False

theorem EndsIn.isAlive (h : c.EndsIn feed m) : (c.watch.loops.get feed).isAlive = true := by
  unfold EndsIn at h
  split at h
  · exact h.2.2
  · obtain ⟨-, answer, ⟨arrival, loop⟩, -⟩ := h
    rw [loop]
    rfl
  · exact h.elim

/-- What an answer notes is no end of a loop, unless it stops the loop. -/
theorem ends_land {answer : Answer} {arrival : Nat} {other : Feed}
    (loop : c.watch.loops.get other = .awaiting answer arrival) (feed : Feed) :
    (c.perform (.land other)).ends feed = c.ends feed ++
      if other = feed ∧ (c.session.landing other c.watch.now answer).next = .stop then
        [c.watch.clock] else [] := by
  have silent : (c.session.landing other c.watch.now answer).events.filter (· = .loopEnded feed) =
      [] := by
    refine List.filter_eq_nil_iff.2 fun e he => ?_
    have lands := Landing.isLanding_of_mem _ _ _ _ _ e he
    rintro told
    obtain rfl := of_decide_eq_true told
    cases lands
  rw [ends_of_told (journal_perform (m := .land other) nofun)]
  simp only [told, loop, List.filter_append, silent, List.nil_append]
  by_cases own : other = feed
  · subst own
    split <;> simp [*]
  · split <;> simp [own]

/-- The journal notes the end of a loop when it ends, and never otherwise. -/
theorem ends_perform (hn : c.watch.NotesPosts) (m : Move) (feed : Feed) :
    (c.EndsIn feed m ∧ (c.perform m).ends feed = c.ends feed ++ [c.watch.clock]) ∨
    (¬ c.EndsIn feed m ∧ (c.perform m).ends feed = c.ends feed) := by
  by_cases posts : m = .chore .noteFailures
  · subst posts
    exact .inr ⟨id, ends_noteFailures hn feed⟩
  cases m with
  | chore chore =>
    cases chore with
    | noteFailures => exact absurd rfl posts
    | endLoop other =>
      have noted := ends_of_told (journal_perform (c := c) posts) feed
      rw [noted]
      by_cases own : other = feed
      · subst own
        by_cases ends : (c.watch.cancelled && (c.watch.loops.get other).isAlive) = true
        · exact .inl ⟨⟨rfl, Bool.and_eq_true_iff.1 ends⟩, by simp [told, ends]⟩
        · exact .inr ⟨fun h => ends (Bool.and_eq_true_iff.2 h.2), by simp [told, ends]⟩
      · refine .inr ⟨fun h => own h.1, ?_⟩
        simp only [told]
        split <;> simp [own]
    | close =>
      refine .inr ⟨id, ends_of_quiet posts ?_⟩
      simp only [told, Store.save]
      split <;> simp
    | beginLoop other =>
      refine .inr ⟨id, ends_of_quiet posts ?_⟩
      simp only [told]
      split <;> simp
    | startPolling => exact .inr ⟨id, ends_of_quiet posts (by simp [told])⟩
    | openFrame view => exact .inr ⟨id, ends_of_quiet posts (by simp [told])⟩
    | pass clock now => exact .inr ⟨id, ends_of_quiet posts (by simp [told])⟩
    | stopPolling => exact .inr ⟨id, ends_of_quiet posts (by simp [told])⟩
  | land other =>
    cases loop : c.watch.loops.get other with
    | awaiting answer arrival =>
      rw [ends_land loop feed]
      by_cases own : other = feed
      · subst own
        by_cases stops : c.Stops other answer
        · exact .inl ⟨⟨rfl, answer, ⟨arrival, loop⟩, stops⟩, by rw [if_pos ⟨rfl, stops⟩]⟩
        · refine .inr ⟨?_, by rw [if_neg fun both => stops both.2, List.append_nil]⟩
          rintro ⟨-, answer', ⟨arrival', loop'⟩, stops'⟩
          obtain ⟨rfl, -⟩ := Activity.awaiting.inj (loop.symm.trans loop')
          exact stops stops'
      · exact .inr ⟨fun h => own h.1, by rw [if_neg fun both => own both.1, List.append_nil]⟩
    | _ =>
      refine .inr ⟨?_, ends_of_quiet posts (by simp [told, loop])⟩
      rintro ⟨rfl, answer, ⟨arrival, loop'⟩, -⟩
      cases loop.symm.trans loop'
  | tick other =>
    refine .inr ⟨id, ends_of_quiet posts ?_⟩
    simp only [told]
    split
    · split <;> simp
    · simp
  | drain =>
    refine .inr ⟨id, ends_of_quiet posts ?_⟩
    simp only [told, Session.drainEvents]
    split
    · split <;> simp
    · simp
  | post index => exact .inr ⟨id, ends_of_quiet posts (by simp [told])⟩
  | reload => exact .inr ⟨id, ends_of_quiet posts (by simp [told])⟩
  | draw => exact .inr ⟨id, ends_of_quiet posts (by simp [told])⟩

/-- A loop that ends has ended afterwards, and no other has unless it had before. -/
theorem ended_perform_iff (ho : c.watch.Orderly) (m : Move) (feed : Feed) :
    (c.perform m).watch.loops.get feed = .ended ↔
      c.watch.loops.get feed = .ended ∨ c.EndsIn feed m := by
  have started : ∀ w : Watch, w.startPolling.loops.get feed = .ended →
      w.loops.get feed = .ended := by
    intro w h
    unfold Watch.startPolling at h
    split at h
    · exact h
    · rw [Watch.loops_log, PerFeed.get_const] at h
      cases h
  constructor
  · intro h
    cases m with
    | chore chore =>
      cases chore with
      | startPolling => exact .inl (started _ h)
      | openFrame view =>
        exact .inl (started { c.watch with window := c.watch.window.track view } h)
      | beginLoop other =>
        rcases Watch.beginLoop_eq_or c.watch other with same | ⟨-, loops⟩
        · rw [perform, Watch.attend, same] at h
          exact .inl h
        · rw [perform, Watch.attend, loops] at h
          by_cases own : feed = other
          · rw [own, PerFeed.get_set_self] at h
            cases h
          · rw [PerFeed.get_set_of_ne _ own] at h
            exact .inl h
      | endLoop other =>
        simp only [perform, Watch.attend, Watch.endLoop] at h
        split at h
        · next ends =>
          by_cases own : feed = other
          · subst own
            exact .inr ⟨rfl, Bool.and_eq_true_iff.1 ends⟩
          · rw [Watch.loops_log, PerFeed.get_set_of_ne _ own] at h
            exact .inl h
        · exact .inl h
      | pass clock now => exact .inl h
      | stopPolling => exact .inl h
      | close => exact .inl h
      | noteFailures => exact .inl h
    | post index =>
      rw [perform, Watch.loops_postAt] at h
      exact .inl h
    | tick other =>
      rcases c.perform_tick other with ⟨wake, -, e⟩ | e
      · rw [e] at h
        by_cases own : feed = other
        · subst own
          rcases c.watch.loops_tick feed with ⟨-, _, _, loops⟩ | ⟨-, _, loops⟩ <;>
            · rw [loops, PerFeed.get_set_self] at h
              cases h
        · rcases c.watch.loops_tick other with ⟨-, _, _, loops⟩ | ⟨-, _, loops⟩ <;>
            · rw [loops, PerFeed.get_set_of_ne _ own] at h
              exact .inl h
      · rw [e] at h
        exact .inl h
    | land other =>
      rcases c.perform_land other with ⟨answer, awaits, e⟩ | ⟨-, e⟩
      · rw [e] at h
        by_cases own : feed = other
        · subst own
          rcases c.watch.loops_land feed answer with ⟨stops, -⟩ | ⟨-, wake, loops⟩
          · exact .inr ⟨rfl, answer, awaits, stops⟩
          · rw [loops, PerFeed.get_set_self] at h
            cases h
        · rcases c.watch.loops_land other answer with ⟨-, loops⟩ | ⟨-, wake, loops⟩ <;>
            · rw [loops, PerFeed.get_set_of_ne _ own] at h
              exact .inl h
      · rw [e] at h
        exact .inl h
    | drain => simp only [perform] at h; split at h <;> exact .inl h
    | reload => simp only [perform] at h; split at h <;> exact .inl h
    | draw => simp only [perform] at h; split at h <;> exact .inl h
  · rintro (ended | ends)
    · exact ended_perform ho ended m
    · unfold EndsIn at ends
      split at ends
      · obtain ⟨rfl, told, alive⟩ := ends
        simp [perform, Watch.attend, Watch.endLoop, told, alive, Watch.log]
      · obtain ⟨rfl, answer, ⟨arrival, loop⟩, stops⟩ := ends
        rw [perform_land_of_awaiting loop]
        rcases c.watch.loops_land _ answer with ⟨-, loops⟩ | ⟨goes, -⟩
        · rw [loops, PerFeed.get_set_self]
        · exact absurd stops goes
      · exact ends.elim

/-- The journal notes one end of a loop that has ended, and none of one that has not. -/
structure NotesEnds (c : Course) : Prop where
  once : ∀ feed, c.watch.loops.get feed = .ended → (c.ends feed).length = 1
  never : ∀ feed, c.watch.loops.get feed ≠ .ended → c.ends feed = []

theorem NotesEnds.perform (ho : c.watch.Orderly) (hn : c.watch.NotesPosts) (h : c.NotesEnds)
    (m : Move) : (c.perform m).NotesEnds := by
  constructor
  · intro feed ended
    rcases ends_perform hn m feed with ⟨ends, noted⟩ | ⟨goes, same⟩
    · have running : c.watch.loops.get feed ≠ .ended := by
        intro finished
        have alive := ends.isAlive
        rw [finished] at alive
        cases alive
      rw [noted, h.never feed running]
      rfl
    · rw [same]
      exact h.once feed (((ended_perform_iff ho m feed).1 ended).resolve_right goes)
  · intro feed running
    have before := mt (ended_perform_iff ho m feed).2 running
    rcases ends_perform hn m feed with ⟨ends, -⟩ | ⟨-, same⟩
    · exact absurd (.inr ends) before
    · rw [same]
      exact h.never feed fun finished => before (.inl finished)

theorem notesEnds_run (settings : Settings) (store : Store) (script : Script) (now : Int)
    (moves : List Move) :
    ((start settings store script now).run moves).watch.NotesPosts ∧
      ((start settings store script now).run moves).NotesEnds := by
  refine (lawful_start settings store script now).run_invariant
    (fun d => d.watch.NotesPosts ∧ d.NotesEnds)
    (fun d m hd h => ⟨notesPosts_perform h.1 m, h.2.perform hd.orderly h.1 m⟩)
    ⟨(fun e he => by cases he), ⟨fun feed ended => ?_, fun feed _ => rfl⟩⟩ moves
  rw [show (start settings store script now).watch.loops.get feed = .idle from
    PerFeed.get_const _ feed] at ended
  cases ended

end Course

end WalletWatch
