import WalletWatch.Proofs.Veil
/-!
# The reserved amount and surplus fields

A report is read from the first fields of a reply (`Feed.arity`), and the reserved amount of a balance
is read and never used. So replies that agree on all other fields (`Answer.Alike`) land alike: nothing
in a run can tell which of them the server sent, neither the page nor the journal, nor the forms that
are posted, nor what is drawn (`reserved_fields_unseen`).
-/

namespace WalletWatch

/-- Whether a field of a reply is the reserved amount. -/
def Feed.Reserves (feed : Feed) (index : Nat) : Prop :=
  feed = .balance ∧ index = 3

instance (feed : Feed) (index : Nat) : Decidable (feed.Reserves index) :=
  inferInstanceAs (Decidable (feed = .balance ∧ index = 3))

/-- Replies that are the same, or from which reports are read that agree on all fields but the
reserved amount. -/
inductive Answer.Alike (feed : Feed) : Answer → Answer → Prop
  | same (answer : Answer) : Alike feed answer answer
  | fields (xs ys : List String) (enough : feed.arity ≤ xs.length) (enough' : feed.arity ≤ ys.length)
      (agree : ∀ index < feed.arity, ¬ feed.Reserves index → xs[index]? = ys[index]?) :
      Alike feed (.ok xs) (.ok ys)

structure PollReply.Alike (feed : Feed) (r s : PollReply) : Prop where
  answer : Answer.Alike feed r.answer s.answer
  delay : r.delay = s.delay

/-- Scripts of which the replies are alike one by one, and take the same time. -/
structure Script.Alike (s s' : Script) : Prop where
  polls : ∀ feed, List.Forall₂ (PollReply.Alike feed) (s.polls.get feed) (s'.polls.get feed)
  posts : s.posts = s'.posts

/-! ## What is left of a reply -/

/-- The fields of a report without the reserved amount. Only a balance is read from more than three
fields, so no other report loses one. -/
def Feed.plain (feed : Feed) (fields : List String) : List String :=
  if feed.arity ≤ fields.length then (fields.take feed.arity).set 3 "" else fields

/-- A reply without the reserved amount and without surplus fields. -/
def Answer.plain (feed : Feed) (answer : Answer) : Answer :=
  answer.map feed.plain

theorem Answer.plain_of_alike {feed : Feed} {x y : Answer} (h : Answer.Alike feed x y) :
    plain feed x = plain feed y := by
  cases h with
  | same => rfl
  | fields xs ys enough enough' agree =>
    refine congrArg Except.ok ?_
    rw [Feed.plain, Feed.plain, if_pos enough, if_pos enough']
    refine List.ext_getElem? fun index => ?_
    by_cases reserved : 3 = index
    · rw [List.getElem?_set, List.getElem?_set, if_pos reserved, if_pos reserved,
        List.length_take_of_le enough, List.length_take_of_le enough']
    · rw [List.getElem?_set_ne reserved, List.getElem?_set_ne reserved]
      by_cases read : index < feed.arity
      · rw [List.getElem?_take_of_lt read, List.getElem?_take_of_lt read]
        exact agree index read fun h => reserved h.2.symm
      · rw [List.getElem?_take_eq_none (Nat.le_of_not_lt read),
          List.getElem?_take_eq_none (Nat.le_of_not_lt read)]

/-- What is left of a reply lands as the reply does. -/
theorem Landing.ofAnswer_plain (feed : Feed) (now : Int) (memory : Option String) (page : Page)
    (answer : Answer) :
    ofAnswer feed now memory page (Answer.plain feed answer) =
      ofAnswer feed now memory page answer := by
  cases answer with
  | error failure => rfl
  | ok fields =>
    change ofAnswer feed now memory page (.ok (feed.plain fields)) = _
    by_cases enough : feed.arity ≤ fields.length
    · rw [Feed.plain, if_pos enough]
      cases feed with
      | balance =>
        match fields, enough with
        | _ :: _ :: _ :: _ :: _ :: _, _ => rfl
      | blockHeight =>
        match fields, enough with
        | _ :: _ :: _ :: _, _ => rfl
      | _ =>
        match fields, enough with
        | _ :: _, _ => rfl
    · rw [Feed.plain, if_neg enough]

/-- The view of a watch that shows only what is left of its replies. -/
def Veil.plain : Veil where
  answer := Answer.plain
  post reply := reply
  keeps _ := true
  lands := Landing.ofAnswer_plain
  error _ _ := rfl
  shown _ _ := rfl
  notes _ _ _ := (List.filter_eq_self.2 fun _ _ => rfl).symm

theorem Script.Alike.plain {s s' : Script} (h : s.Alike s') :
    Veil.plain.script s = Veil.plain.script s' := by
  have same : ∀ feed (xs ys : List PollReply), List.Forall₂ (PollReply.Alike feed) xs ys →
      xs.map (Veil.plain.reply feed) = ys.map (Veil.plain.reply feed) := by
    intro feed xs ys alike
    induction alike with
    | nil => rfl
    | cons first rest ih =>
      rw [List.map_cons, List.map_cons, ih, Veil.reply, Veil.reply, first.delay]
      exact congrArg (PollReply.mk · _ :: _) (Answer.plain_of_alike first.answer)
  have polls : (Veil.plain.script s).polls = (Veil.plain.script s').polls :=
    PerFeed.ext_get fun feed => by
      simp only [Veil.script, PerFeed.get_map, same feed _ _ (h.polls feed)]
  rw [Veil.script, Veil.script, h.posts]
  exact congrArg (Script.mk · _) polls

/-- If only fields are hidden, the whole journal is seen. -/
theorem Veil.entries_plain (journal : List Entry) : Veil.plain.entries journal = journal :=
  List.filter_eq_self.2 fun _ _ => rfl

namespace Course

/-- **The reserved amount is never used, nor are surplus fields.** Two servers whose replies agree on
all other fields cannot be told apart: the same moves keep to the clock in both cases and lead to the
same page, the same journal, the same forms on their way and the same drawings; and so do the same
actions on both watches. -/
theorem reserved_fields_unseen (settings : Settings) (store : Store) (script script' : Script)
    (now : Int) (alike : script.Alike script') :
    (∀ moves,
      let opened := start settings store script now
      let opened' := start settings store script' now
      (opened.Timed moves ↔ opened'.Timed moves) ∧
      (opened.run moves).session = (opened'.run moves).session ∧
      (opened.run moves).watch.journal = (opened'.run moves).watch.journal ∧
      (opened.run moves).watch.posts = (opened'.run moves).watch.posts ∧
      (opened.run moves).batches = (opened'.run moves).batches ∧
      (opened.run moves).drawn = (opened'.run moves).drawn) ∧
    ∀ actions,
      let w := (Watch.start store script now).run actions
      let w' := (Watch.start store script' now).run actions
      w.session = w'.session ∧ w.journal = w'.journal ∧ w.posts = w'.posts ∧
        w.store = w'.store ∧ ∀ view, w.drawing view = w'.drawing view := by
  refine ⟨fun moves => ?_, fun actions => ?_⟩
  · intro opened opened'
    obtain ⟨timed, seen⟩ := veiled_run_of_script alike.plain settings store now moves
    have journal : Veil.plain.entries (opened.run moves).watch.journal =
        Veil.plain.entries (opened'.run moves).watch.journal := congrArg (·.watch.journal) seen
    rw [Veil.entries_plain, Veil.entries_plain] at journal
    exact ⟨timed, congrArg (·.watch.session) seen, journal, congrArg (·.watch.posts) seen,
      congrArg (·.batches) seen, congrArg (·.drawn) seen⟩
  · intro w w'
    have seen : w.veiled .plain = w'.veiled .plain :=
      Watch.veiled_run_of_script alike.plain store now actions
    have journal : Veil.plain.entries w.journal = Veil.plain.entries w'.journal :=
      congrArg (·.journal) seen
    rw [Veil.entries_plain, Veil.entries_plain] at journal
    refine ⟨congrArg (·.session) seen, journal, congrArg (·.posts) seen, congrArg (·.store) seen,
      fun view => ?_⟩
    rw [← w.drawing_veiled .plain, seen, w'.drawing_veiled]

/-- A server sends another reserved amount and a sixth field with a balance, and more than one word
with a heartbeat. Both balances land and are drawn alike. -/
theorem reserved_fields_unseen_in_balance :
    let script (balance heartbeat : List String) : Script :=
      ⟨⟨[], [], [], [⟨.ok balance, 10⟩], [⟨.ok heartbeat, 10⟩]⟩, fun _ _ => ⟨none, 0⟩⟩
    let usual := script ["5", "2", "3", "4", "Shrimp"] ["true"]
    let other := script ["5", "2", "3", "400", "Shrimp", "more"] ["true", "false"]
    let opened (script : Script) :=
      start { Settings.default with startScreen := .wallet true } .empty script 0
    let moves : List Move := .chore .startPolling :: Feed.all.map (.chore <| .beginLoop ·) ++
      Feed.all.map .tick ++ [.chore (.pass 10 1), .land .balance, .land .heartbeat, .drain, .reload,
        .draw]
    usual.Alike other ∧
    ((opened usual).run moves).landed ≠ ((opened other).run moves).landed ∧
    (((opened usual).run moves).page.elementsOf ClassName.confirmed).map Element.text = ["5"] ∧
    ((opened usual).run moves).session = ((opened other).run moves).session ∧
    ((opened usual).run moves).drawn = ((opened other).run moves).drawn := by
  intro script usual other opened moves
  have alike : usual.Alike other := by
    refine ⟨fun feed => ?_, rfl⟩
    cases feed with
    | balance => exact .cons ⟨.fields _ _ (by decide) (by decide) (by decide), rfl⟩ .nil
    | heartbeat => exact .cons ⟨.fields _ _ (by decide) (by decide) (by decide), rfl⟩ .nil
    | _ => exact .nil
  obtain ⟨-, session, -, -, -, drawn⟩ := (reserved_fields_unseen
    { Settings.default with startScreen := .wallet true } .empty usual other 0 alike).1 moves
  exact ⟨alike, by decide +kernel, by decide +kernel, session, drawn⟩

end Course

end WalletWatch
