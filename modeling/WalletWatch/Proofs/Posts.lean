import Mathlib.Data.List.Perm.Basic
import WalletWatch.Proofs.Course.Runs
import WalletWatch.Proofs.Veil
/-!
# What becomes of posted forms

Whether a posted form succeeds, how it fails and how long that takes, is seen in the journal only:
under a veil that hides failures of posts, all watches look alike whose servers differ in this
(`Veil.posts`). The journal has a ledger of what it hides. Each form that was posted and fails gets
one entry, which is noted when the failure is known (`Ledger.Balanced`, `Course.balanced_run`).
-/

namespace WalletWatch

/-- The moment and the form, if an entry tells of a form that was posted. -/
def Entry.posting? (e : Entry) : Option (Nat × Submission) :=
  match e.event with
  | .posted s => some (e.time, s)
  | _ => none

/-- The failures of some posted forms, with the moments at which they are known. -/
def failuresOf (posts : Nat → Submission → PostReply) (postings : List (Nat × Submission)) :
    List Entry :=
  postings.zipIdx.flatMap fun posting =>
    (posts posting.2 posting.1.2).notes posting.1.1 posting.1.2.form

theorem failuresOf_append_singleton (posts : Nat → Submission → PostReply)
    (postings : List (Nat × Submission)) (clock : Nat) (s : Submission) :
    failuresOf posts (postings ++ [(clock, s)]) =
      failuresOf posts postings ++ (posts postings.length s).notes clock s.form := by
  simp [failuresOf, List.zipIdx_append]

theorem PostReply.isPostFailure_of_notes {reply : PostReply} {clock : Nat} {form : String}
    {e : Entry} (h : e ∈ reply.notes clock form) : e.event.isPostFailure = true := by
  obtain ⟨failure, -, rfl⟩ := List.mem_map.1 h
  rfl

theorem isPostFailure_of_failuresOf {posts : Nat → Submission → PostReply}
    {postings : List (Nat × Submission)} {e : Entry} (h : e ∈ failuresOf posts postings) :
    e.event.isPostFailure = true := by
  obtain ⟨posting, -, noted⟩ := List.mem_flatMap.1 h
  exact PostReply.isPostFailure_of_notes noted

/-! ## The ledger -/

/-- What is known of posted forms, and what is still to be known of them. -/
structure Ledger where
  posts : Nat → Submission → PostReply
  posted : Nat
  postings : List (Nat × Submission)
  failed : List Entry
  failing : List Entry

namespace Ledger

/-- What can be put into the ledger at some moment. -/
inductive Books (l : Ledger) (clock : Nat) : Ledger → Prop
  | nothing : Books l clock l
  | post (s : Submission) : Books l clock { l with
      posted := l.posted + 1
      postings := l.postings ++ [(clock, s)]
      failing := l.failing ++ (l.posts l.posted s).notes clock s.form }
  /-- Failures become known. -/
  | failures : Books l clock { l with
      failed := l.failed ++ l.failing.filter (·.time ≤ clock)
      failing := l.failing.filter (clock < ·.time) }

/-- The forms that were posted are counted, and each that fails has one entry, which is noted or
still to be noted. -/
structure Balanced (l : Ledger) (posts : Nat → Submission → PostReply) : Prop where
  script : l.posts = posts
  count : l.posted = l.postings.length
  balance : (l.failed ++ l.failing).Perm (failuresOf posts l.postings)

variable {l l' : Ledger} {clock : Nat} {posts : Nat → Submission → PostReply}

theorem Balanced.isPostFailure (h : l.Balanced posts) :
    ∀ e ∈ l.failing, e.event.isPostFailure = true := fun _ he =>
  isPostFailure_of_failuresOf (h.balance.mem_iff.1 (List.mem_append_right l.failed he))

theorem Balanced.books (h : l.Balanced posts) (b : l.Books clock l') : l'.Balanced posts := by
  cases b with
  | nothing => exact h
  | post s =>
    refine ⟨h.script, ?_, ?_⟩
    · rw [List.length_append, h.count]
      rfl
    · rw [failuresOf_append_singleton, ← h.count, h.script, ← List.append_assoc]
      exact h.balance.append_right _
  | failures =>
    have late : l.failing.filter (clock < ·.time) =
        l.failing.filter fun e => !decide (e.time ≤ clock) := by
      refine List.filter_congr fun e _ => ?_
      rw [← decide_not]
      exact decide_eq_decide.2 Nat.not_le.symm
    refine ⟨h.script, h.count, ?_⟩
    rw [List.append_assoc, late]
    exact ((List.filter_append_perm _ _).append_left _).trans h.balance

/-- What is noted in the ledger is known by then. -/
theorem Books.known (b : l.Books clock l') (h : ∀ e ∈ l.failed, e.time ≤ clock) :
    ∀ e ∈ l'.failed, e.time ≤ clock := by
  cases b with
  | nothing => exact h
  | post s => exact h
  | failures =>
    intro e he
    rcases List.mem_append.1 he with old | new
    · exact h e old
    · exact of_decide_eq_true (List.mem_filter.1 new).2

/-- If all that is known is noted, the failures that are noted are those that are known. -/
theorem Balanced.failed_perm (h : l.Balanced posts) (known : ∀ e ∈ l.failed, e.time ≤ clock)
    (late : ∀ e ∈ l.failing, clock < e.time) :
    l.failed.Perm ((failuresOf posts l.postings).filter (·.time ≤ clock)) := by
  have noted : l.failed.filter (·.time ≤ clock) = l.failed :=
    List.filter_eq_self.2 fun e he => decide_eq_true (known e he)
  have none : l.failing.filter (·.time ≤ clock) = [] :=
    List.filter_eq_nil_iff.2 fun e he =>
      fun early => Nat.not_le_of_gt (late e he) (of_decide_eq_true early)
  have parts := h.balance.filter (·.time ≤ clock)
  rwa [List.filter_append, noted, none, List.append_nil] at parts

end Ledger

/-- Whether an event tells that a form was posted, or that it failed. -/
def Event.isPost : Event → Bool
  | posted _ | submissionFailed .. => true
  | _ => false

namespace Watch

/-- The forms that were posted, with their moments, in order. -/
def postings (w : Watch) : List (Nat × Submission) :=
  w.journal.filterMap Entry.posting?

/-- The failures of posted forms that are known. -/
def failed (w : Watch) : List Entry :=
  w.journal.filter (·.event.isPostFailure)

def ledger (w : Watch) : Ledger :=
  ⟨w.script.posts, w.posted, w.postings, w.failed, w.failing⟩

variable {w : Watch}

/-- Entries that tell of no post are not in the ledger. -/
theorem ledger_of_quiet {entries : List Entry} (quiet : ∀ e ∈ entries, e.event.isPost = false) :
    entries.filterMap Entry.posting? = [] ∧ entries.filter (·.event.isPostFailure) = [] := by
  constructor
  · refine List.filterMap_eq_nil_iff.2 fun e he => ?_
    have own := quiet e he
    unfold Entry.posting?
    split
    · next told => rw [told] at own; cases own
    · rfl
  · refine List.filter_eq_nil_iff.2 fun e he => ?_
    have own := quiet e he
    cases told : e.event <;> rw [told] at own <;> first | exact Bool.false_ne_true | cases own

theorem ledger_log (w : Watch) {events : List Event} (quiet : ∀ e ∈ events, e.isPost = false) :
    (w.log events).ledger = w.ledger := by
  obtain ⟨postings, failed⟩ : (events.map (Entry.mk w.clock)).filterMap Entry.posting? = [] ∧
      (events.map (Entry.mk w.clock)).filter (·.event.isPostFailure) = [] := by
    refine ledger_of_quiet fun e he => ?_
    obtain ⟨event, member, rfl⟩ := List.mem_map.1 he
    exact quiet event member
  simp only [ledger, Watch.postings, Watch.failed, log, List.filterMap_append, List.filter_append,
    postings, failed, List.append_nil]

theorem ledger_log_one (w : Watch) {event : Event} (quiet : event.isPost = false) :
    (w.log [event]).ledger = w.ledger :=
  ledger_log w fun e he => by rwa [List.mem_singleton.1 he]

theorem ledger_startPolling (w : Watch) : w.startPolling.ledger = w.ledger := by
  unfold startPolling
  split
  · rfl
  · exact ledger_log_one _ rfl

theorem ledger_saveSettings (w : Watch) : w.saveSettings.ledger = w.ledger := by
  refine ledger_log _ fun e he => ?_
  rw [Store.eq_of_mem_save he]
  rfl

theorem ledger_attend (w : Watch) {chore : Chore} (h : chore ≠ .noteFailures) :
    (w.attend chore).ledger = w.ledger := by
  cases chore with
  | pass clock now => rfl
  | startPolling => exact ledger_startPolling w
  | stopPolling => rfl
  | close => exact (ledger_saveSettings _).trans (ledger_log_one w rfl)
  | beginLoop feed =>
    simp only [attend, beginLoop]
    split
    · exact ledger_log_one _ rfl
    · rfl
  | endLoop feed =>
    simp only [attend, endLoop]
    split
    · exact ledger_log_one _ rfl
    · rfl
  | openFrame view => exact ledger_startPolling { w with window := w.window.track view }
  | noteFailures => exact absurd rfl h

theorem ledger_tick (w : Watch) (feed : Feed) : (w.tick feed).ledger = w.ledger := by
  unfold tick
  split
  · exact ledger_log_one _ rfl
  · rfl

theorem ledger_land (w : Watch) (feed : Feed) (answer : Answer) :
    (w.land feed answer).ledger = w.ledger := by
  have landed : ({ w with session := w.session.land feed w.now answer }.log
      (w.session.landing feed w.now answer).events).ledger = w.ledger := by
    refine ledger_log _ fun e he => ?_
    have lands := Landing.isLanding_of_mem _ _ _ _ _ e he
    cases e <;> first | rfl | cases lands
  simp only [land]
  split
  · exact landed
  · exact (ledger_log_one _ rfl).trans landed

theorem ledger_drain (w : Watch) : w.drain.ledger = w.ledger := by
  refine ledger_log _ fun e he => ?_
  obtain ⟨form, before, after, rfl⟩ := Session.exists_of_mem_drainEvents he
  rfl

theorem ledger_post (w : Watch) (s : Submission) : (w.post s).ledger = { w.ledger with
    posted := w.posted + 1
    postings := w.postings ++ [(w.clock, s)]
    failing := w.failing ++ (w.script.posts w.posted s).notes w.clock s.form } := by
  have postings : (w.post s).postings = w.postings ++ [(w.clock, s)] := by
    simp [Watch.postings, post, log, Entry.posting?]
  have failed : (w.post s).failed = w.failed := by
    simp [Watch.failed, post, log, Event.isPostFailure]
  rw [ledger, postings, failed]
  rfl

theorem ledger_noteFailures (known : ∀ e ∈ w.failing, e.event.isPostFailure = true) :
    w.noteFailures.ledger = { w.ledger with
      failed := w.failed ++ w.failing.filter (·.time ≤ w.clock)
      failing := w.failing.filter (w.clock < ·.time) } := by
  have postings : w.noteFailures.postings = w.postings := by
    have none : (w.failing.filter (·.time ≤ w.clock)).filterMap Entry.posting? = [] := by
      refine List.filterMap_eq_nil_iff.2 fun e he => ?_
      have own := known e (List.mem_filter.1 he).1
      unfold Entry.posting?
      split
      · next told => rw [told] at own; cases own
      · rfl
    simp only [Watch.postings, noteFailures, List.filterMap_append, none, List.append_nil]
  have failed : w.noteFailures.failed = w.failed ++ w.failing.filter (·.time ≤ w.clock) := by
    have all : (w.failing.filter (·.time ≤ w.clock)).filter (·.event.isPostFailure) =
        w.failing.filter (·.time ≤ w.clock) :=
      List.filter_eq_self.2 fun e he => known e (List.mem_filter.1 he).1
    simp only [Watch.failed, noteFailures, List.filter_append, all]
  rw [ledger, postings, failed]
  rfl

end Watch

namespace Course

variable {c : Course} {posts : Nat → Submission → PostReply}

/-- A move posts a form, or notes the failures that are known, or leaves the ledger alone. -/
theorem books_perform (known : ∀ e ∈ c.watch.failing, e.event.isPostFailure = true) (m : Move) :
    c.watch.ledger.Books c.watch.clock (c.perform m).watch.ledger := by
  have nothing : (c.perform m).watch.ledger = c.watch.ledger →
      c.watch.ledger.Books c.watch.clock (c.perform m).watch.ledger := fun same => same ▸ .nothing
  cases m with
  | chore chore =>
    by_cases notes : chore = .noteFailures
    · subst notes
      rw [perform, Watch.attend, Watch.ledger_noteFailures known]
      exact .failures
    · exact nothing (c.watch.ledger_attend notes)
  | post index =>
    simp only [perform, Watch.postAt]
    split
    · next s _ =>
      rw [Watch.ledger_post]
      exact .post s
    · exact .nothing
  | tick feed =>
    refine nothing ?_
    rcases c.perform_tick feed with ⟨wake, -, e⟩ | e <;> rw [e]
    exact c.watch.ledger_tick feed
  | land feed =>
    refine nothing ?_
    rcases c.perform_land feed with ⟨answer, -, e⟩ | ⟨-, e⟩ <;> rw [e]
    exact c.watch.ledger_land feed answer
  | drain =>
    refine nothing ?_
    simp only [perform]
    split
    · exact c.watch.ledger_drain
    · rfl
  | reload => exact nothing (by simp only [perform]; split <;> rfl)
  | draw => exact nothing (by simp only [perform]; split <;> rfl)

theorem balanced_run (h : c.watch.ledger.Balanced posts) (moves : List Move) :
    (c.run moves).watch.ledger.Balanced posts :=
  run_invariant (·.watch.ledger.Balanced posts)
    (fun _ m balanced => balanced.books (books_perform balanced.isPostFailure m)) h moves

/-- In a timed course failures are noted when they are known, and not before. -/
theorem known_run (h : c.watch.ledger.Balanced posts)
    (known : ∀ e ∈ c.watch.failed, e.time ≤ c.watch.clock) {moves : List Move}
    (timed : c.Timed moves) :
    ∀ e ∈ (c.run moves).watch.failed, e.time ≤ (c.run moves).watch.clock := by
  induction moves generalizing c with
  | nil => exact known
  | cons m moves ih =>
    obtain ⟨timely, timed⟩ := timed
    have books := books_perform h.isPostFailure m
    have later : c.watch.clock ≤ (c.perform m).watch.clock := by
      rcases (c.clock_perform m).1 with same | ⟨clock, now, rfl, passed⟩
      · exact Nat.le_of_eq same.symm
      · exact passed ▸ timely.1
    exact ih (h.books books) (fun e he => Nat.le_trans (books.known known e he) later) timed

end Course

/-! ## The veil over posts -/

/-- The view of a watch that hides what becomes of posted forms. -/
def Veil.posts : Veil where
  answer _ answer := answer
  post _ := ⟨none, 0⟩
  keeps event := !event.isPostFailure
  lands _ _ _ _ _ := rfl
  error _ _ := rfl
  shown event h := by rw [h]; rfl
  notes reply clock form := by
    refine (List.filter_eq_nil_iff.2 fun e he => ?_).symm
    rw [PostReply.isPostFailure_of_notes he]
    exact Bool.false_ne_true

/-- The journal but for failures of posts. -/
def Watch.chronicle (w : Watch) : List Entry :=
  w.journal.filter (!·.event.isPostFailure)

theorem Veil.script_posts (polls : PerFeed (List PollReply))
    (posts posts' : Nat → Submission → PostReply) :
    Veil.posts.script ⟨polls, posts⟩ = Veil.posts.script ⟨polls, posts'⟩ := rfl

theorem Watch.loops_veiled_posts (w : Watch) : (w.veiled .posts).loops = w.loops :=
  PerFeed.ext_get fun feed => by
    rw [veiled, PerFeed.get_map]
    cases w.loops.get feed <;> rfl

namespace Watch

variable {w : Watch}

/-- A watch that has posted nothing has its ledger in balance. -/
theorem balanced_of_quiet (quiet : ∀ e ∈ w.journal, e.event.isPost = false) (posted : w.posted = 0)
    (failing : w.failing = []) : w.ledger.Balanced w.script.posts ∧ w.failed = [] := by
  obtain ⟨postings, failed⟩ := ledger_of_quiet quiet
  have none : w.ledger = ⟨w.script.posts, 0, [], [], []⟩ := by
    rw [ledger, Watch.postings, Watch.failed, postings, failed, posted, failing]
  rw [none]
  exact ⟨⟨rfl, rfl, .nil⟩, failed⟩

theorem balanced_ofSettings (settings : Settings) (store : Store) (script : Script) (now : Int) :
    (ofSettings settings store script now).ledger.Balanced script.posts :=
  (balanced_of_quiet (w := ofSettings settings store script now)
    (fun e he => by rw [List.mem_singleton.1 he]; rfl) rfl rfl).1

theorem balanced_start (store : Store) (script : Script) (now : Int) :
    (start store script now).ledger.Balanced script.posts ∧
      (start store script now).failed = [] := by
  have found : store.load.2.isPost = false := by
    unfold Store.load
    split
    · rfl
    · split <;> rfl
  refine balanced_of_quiet (w := start store script now) (fun e he => ?_) rfl rfl
  rcases List.mem_cons.1 he with rfl | he
  · exact found
  · rw [List.mem_singleton.1 he]
    rfl

/-- After each action no failure is kept back that is known. -/
theorem late_perform (late : ∀ e ∈ w.failing, w.clock < e.time) (a : Action) :
    ∀ e ∈ (w.perform a).failing, (w.perform a).clock < e.time := by
  have started : ∀ v : Watch, (∀ e ∈ v.failing, v.clock < e.time) →
      ∀ e ∈ v.startPolling.failing, v.startPolling.clock < e.time := by
    intro v hv
    unfold Watch.startPolling
    split <;> exact hv
  cases a with
  | frame view => exact started { w with window := w.window.track view } late
  | advance millis => exact fun e he => of_decide_eq_true (List.mem_filter.1 he).2
  | followForms => exact late
  | startPolling => exact started w late
  | stopPolling => exact late
  | close => exact late

theorem late_run (late : ∀ e ∈ w.failing, w.clock < e.time) (actions : List Action) :
    ∀ e ∈ (w.run actions).failing, (w.run actions).clock < e.time := by
  induction actions generalizing w with
  | nil => exact late
  | cons a actions ih => exact ih (late_perform late a)

end Watch

/-- **Each failure of a post is noted once.** After each action of a run the failures that are noted
are those of the posted forms that have failed by now. -/
theorem Watch.failed_run (store : Store) (script : Script) (now : Int) (actions : List Action) :
    let w := (start store script now).run actions
    w.failed.Perm ((failuresOf script.posts w.postings).filter (·.time ≤ w.clock)) := by
  intro w
  have punctual : (start store script now).Punctual := fun feed due hd => by
    rw [show (start store script now).loops.get feed = .idle from PerFeed.get_const _ feed] at hd
    cases hd
  obtain ⟨moves, timed, -, watch⟩ := punctual.exists_timed_course actions
  obtain ⟨balanced, none⟩ := balanced_start store script now
  have known := Course.known_run (c := Course.ofWatch (start store script now)) balanced
    (fun e he => by rw [Course.ofWatch, none] at he; cases he) timed
  have books := Course.balanced_run (c := Course.ofWatch (start store script now)) balanced moves
  rw [watch] at known books
  exact books.failed_perm known (late_run (fun e he => by cases he) actions)

namespace Course

/-- **What becomes of posted forms is never shown.** Two servers that answer all polls alike cannot be
told apart by how they end the posts of forms, but by the entries in the journal that tell of
failures: the same moves keep to the clock in both cases, and lead to the same page, the same loops
with the same memories, the same journal but for these entries, the same forms on their way and the
same drawings; and so do the same actions on both watches. Of each form that was posted and has
failed there is one such entry. -/
theorem posts_never_shown (settings : Settings) (store : Store) (polls : PerFeed (List PollReply))
    (posts posts' : Nat → Submission → PostReply) (now : Int) :
    (∀ moves,
      let opened := start settings store ⟨polls, posts⟩ now
      let opened' := start settings store ⟨polls, posts'⟩ now
      let c := opened.run moves
      let c' := opened'.run moves
      (opened.Timed moves ↔ opened'.Timed moves) ∧
      c.session = c'.session ∧ c.watch.loops = c'.watch.loops ∧
      c.watch.chronicle = c'.watch.chronicle ∧ c.watch.posts = c'.watch.posts ∧
      c.batches = c'.batches ∧ c.drawn = c'.drawn ∧
      (c.watch.failed ++ c.watch.failing).Perm (failuresOf posts c.watch.postings)) ∧
    ∀ actions,
      let w := (Watch.start store ⟨polls, posts⟩ now).run actions
      let w' := (Watch.start store ⟨polls, posts'⟩ now).run actions
      w.session = w'.session ∧ w.loops = w'.loops ∧ w.chronicle = w'.chronicle ∧
        w.posts = w'.posts ∧ w.store = w'.store ∧ (∀ view, w.drawing view = w'.drawing view) ∧
        w.failed.Perm ((failuresOf posts w.postings).filter (·.time ≤ w.clock)) := by
  have same := Veil.script_posts polls posts posts'
  refine ⟨fun moves => ?_, fun actions => ?_⟩
  · intro opened opened' c c'
    obtain ⟨timed, seen⟩ := veiled_run_of_script same settings store now moves
    have loops : c.watch.loops = c'.watch.loops := by
      rw [← c.watch.loops_veiled_posts, ← c'.watch.loops_veiled_posts]
      exact congrArg (·.watch.loops) seen
    have balanced := balanced_run (c := opened)
      (Watch.balanced_ofSettings settings store ⟨polls, posts⟩ now) moves
    exact ⟨timed, congrArg (·.watch.session) seen, loops, congrArg (·.watch.journal) seen,
      congrArg (·.watch.posts) seen, congrArg (·.batches) seen, congrArg (·.drawn) seen,
      balanced.balance⟩
  · intro w w'
    have seen : w.veiled .posts = w'.veiled .posts :=
      Watch.veiled_run_of_script same store now actions
    have loops : w.loops = w'.loops := by
      rw [← w.loops_veiled_posts, ← w'.loops_veiled_posts, seen]
    refine ⟨congrArg (·.session) seen, loops, congrArg (·.journal) seen, congrArg (·.posts) seen,
      congrArg (·.store) seen, fun view => ?_, Watch.failed_run store ⟨polls, posts⟩ now actions⟩
    rw [← w.drawing_veiled .posts, seen, w'.drawing_veiled]

end Course

end WalletWatch
