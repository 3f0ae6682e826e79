import WalletWatch.Watch.Run
/-!
# Courses

A watch as its parts act on it in turn: five loops, a frame after a frame, and the posts of the
forms that frames took. Each part does one thing at a time and nothing says who is next, so a course
is any list of moves. What cannot happen at some moment is a move that changes nothing.

A frame is three moves. It takes the submitted forms (`drain`), it loads the screen that follows
them (`reload`), and it draws the page as it is at one moment (`draw`). Between these the loops may
write on the page and submit further forms, but no other frame begins. A tick looks at the page and
makes its request in one move; what the request comes to lands in a later one, on the page as it is
then.

Beside the watch a course keeps what its properties speak of and a watch forgets: the batches that
frames took, the answers that landed, and what was drawn.
-/

namespace WalletWatch

/-- What happens to a watch beside its page. -/
inductive Chore
  /-- Time goes by. -/
  | pass (clock : Nat) (now : Int)
  | startPolling
  | stopPolling
  | close
  | beginLoop (feed : Feed)
  | endLoop (feed : Feed)
  /-- A frame begins: it looks where the window is and starts the loops. -/
  | openFrame (view : View)
  /-- Failures of posted forms become known. -/
  | noteFailures

/-- What can happen next in a course. -/
inductive Move
  | chore (chore : Chore)
  /-- One of the forms that were taken is posted. -/
  | post (index : Nat)
  | tick (feed : Feed)
  | land (feed : Feed)
  | drain
  | reload
  | draw

/-- How far the frame is that is being made. -/
inductive Stage
  /-- No frame is being made. -/
  | apart
  /-- It took the submitted forms. -/
  | taken
  /-- It loaded the screen that follows them. -/
  | loaded
deriving DecidableEq, Repr

namespace Watch

/-- A watch after something happened beside its page. -/
def attend (w : Watch) : Chore → Watch
  | .pass clock now => { w with clock, now }
  | .startPolling => w.startPolling
  | .stopPolling => w.stopPolling
  | .close => w.close
  | .beginLoop feed => w.beginLoop feed
  | .endLoop feed => w.endLoop feed
  | .openFrame view => w.openFrame view
  | .noteFailures => w.noteFailures

/-- Posts one of the forms that were taken. -/
def postAt (w : Watch) (index : Nat) : Watch :=
  match w.posts[index]? with
  | some s => { w with posts := w.posts.eraseIdx index }.post s
  | none => w

end Watch

/-- A watch, the frame that is being made, and what happened so far. -/
structure Course where
  watch : Watch
  stage : Stage
  /-- The forms that each frame took. -/
  batches : List (List Submission)
  /-- The answers that landed, with their feeds. -/
  landed : List (Feed × Answer)
  /-- What each frame drew. -/
  drawn : List (List Drawn)

namespace Course

/-- A course of a watch begins between frames. -/
def ofWatch (w : Watch) : Course :=
  ⟨w, .apart, [], [], []⟩

/-- A course of a watch with some settings. -/
def start (settings : Settings) (store : Store) (script : Script) (now : Int) : Course :=
  ofWatch (.ofSettings settings store script now)

/-- What loops and frames share. -/
def session (c : Course) : Session := c.watch.session

/-- The page that is shown. -/
def page (c : Course) : Page := c.session.page

/-- Whether a loop waits for an answer, and which one will come. -/
def Awaits (c : Course) (feed : Feed) (answer : Answer) : Prop :=
  ∃ arrival, c.watch.loops.get feed = .awaiting answer arrival

/-- What a move makes of a course. Drawing takes a whole frame from one state of the page, while the
program reads whether the page is shut down, its screen, when it was updated and its elements one
after the other, each under a lock of its own: what a loop writes in between would show in one part
of its frame and not in another. -/
def perform (c : Course) : Move → Course
  | .chore chore => { c with watch := c.watch.attend chore }
  | .post index => { c with watch := c.watch.postAt index }
  | .tick feed =>
    match c.watch.loops.get feed with
    | .resting _ => { c with watch := c.watch.tick feed }
    | _ => c
  | .land feed =>
    match c.watch.loops.get feed with
    | .awaiting answer _ =>
      { c with watch := c.watch.land feed answer, landed := c.landed ++ [(feed, answer)] }
    | _ => c
  | .drain =>
    if c.stage = .apart then
      { c with watch := c.watch.drain, stage := .taken, batches := c.batches ++ [c.page.outbox] }
    else c
  | .reload =>
    if c.stage = .taken then { c with watch := c.watch.reload, stage := .loaded } else c
  | .draw =>
    if c.stage = .loaded then { c with stage := .apart, drawn := c.drawn ++ [c.watch.texts] } else c

def run (c : Course) (moves : List Move) : Course :=
  moves.foldl perform c

@[simp] theorem run_nil (c : Course) : c.run [] = c := rfl

@[simp] theorem run_cons (c : Course) (m : Move) (moves : List Move) :
    c.run (m :: moves) = (c.perform m).run moves := rfl

theorem run_append (c : Course) (first second : List Move) :
    c.run (first ++ second) = (c.run first).run second :=
  List.foldl_append

/-- What holds at first and survives every move holds after all moves. -/
theorem run_invariant (P : Course → Prop) (keep : ∀ c m, P c → P (c.perform m)) {c : Course}
    (first : P c) (moves : List Move) : P (c.run moves) := by
  induction moves generalizing c with
  | nil => exact first
  | cons m moves ih => exact ih (keep c m first)

/-! ## Moves that cannot happen -/

theorem perform_tick_of_resting {c : Course} {feed : Feed} {wake : Nat}
    (h : c.watch.loops.get feed = .resting wake) :
    c.perform (.tick feed) = { c with watch := c.watch.tick feed } := by
  simp only [perform, h]

theorem perform_land_of_awaiting {c : Course} {feed : Feed} {answer : Answer} {arrival : Nat}
    (h : c.watch.loops.get feed = .awaiting answer arrival) :
    c.perform (.land feed) =
      { c with watch := c.watch.land feed answer, landed := c.landed ++ [(feed, answer)] } := by
  simp only [perform, h]

/-- A tick that can happen finds its loop resting; any other changes nothing. -/
theorem perform_tick (c : Course) (feed : Feed) :
    (∃ wake, c.watch.loops.get feed = .resting wake ∧
      c.perform (.tick feed) = { c with watch := c.watch.tick feed }) ∨
    c.perform (.tick feed) = c := by
  cases h : c.watch.loops.get feed with
  | resting wake => exact .inl ⟨wake, rfl, perform_tick_of_resting h⟩
  | idle => exact .inr (by simp only [perform, h])
  | starting => exact .inr (by simp only [perform, h])
  | awaiting answer arrival => exact .inr (by simp only [perform, h])
  | ended => exact .inr (by simp only [perform, h])

/-- A landing that can happen finds its loop waiting for the answer; any other changes nothing. -/
theorem perform_land (c : Course) (feed : Feed) :
    (∃ answer, c.Awaits feed answer ∧ c.perform (.land feed) =
      { c with watch := c.watch.land feed answer, landed := c.landed ++ [(feed, answer)] }) ∨
    ((∀ answer, ¬ c.Awaits feed answer) ∧ c.perform (.land feed) = c) := by
  cases h : c.watch.loops.get feed with
  | awaiting answer arrival =>
    exact .inl ⟨answer, ⟨arrival, h⟩, perform_land_of_awaiting h⟩
  | idle => exact .inr ⟨by simp [Awaits, h], by simp only [perform, h]⟩
  | starting => exact .inr ⟨by simp [Awaits, h], by simp only [perform, h]⟩
  | resting wake => exact .inr ⟨by simp [Awaits, h], by simp only [perform, h]⟩
  | ended => exact .inr ⟨by simp [Awaits, h], by simp only [perform, h]⟩

end Course

end WalletWatch
