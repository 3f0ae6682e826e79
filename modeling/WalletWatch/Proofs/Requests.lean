import Mathlib
import WalletWatch.Http.Client
import WalletWatch.Proofs.Http.Address
import WalletWatch.Proofs.Http.FormBody
/-!
# The id of a session stays where it belongs

What a client asks for is settled by the base address and the path alone: there is a request exactly
if the two spell an address that takes one (`Client.url_eq_ok_iff`), and slashes at the end of the
base address do not count. The id of the session only adds a form to some requests: to polls in
the name of the session and to submitted forms (`pollRequest_of_scoped`, `submitRequest_eq`). From
this follows what two clients of one server with different sessions have in common
(`session_stays_in_scope`).
-/

namespace WalletWatch.Http

namespace Request

/-- A request without a body. -/
def IsBare (r : Request) : Prop :=
  r.contentType = none ∧ r.body = ""

/-- A request with an encoded form whose one field is the id of a session. -/
def Carries (r : Request) (id : String) : Prop :=
  r.contentType = some "application/x-www-form-urlencoded" ∧
    FormBody.decode? r.body = some [("session_id", id)]

end Request

namespace Client

/-- Whether a session has an id at all; an empty one is none. -/
def Named (session : Option String) : Prop :=
  ∃ id, session = some id ∧ id ≠ ""

/-- Slashes at the end of an address do not count. -/
theorem dropSlashes_append (base : String) (slashes : Nat) :
    dropSlashes (base ++ String.ofList (List.replicate slashes '/')) = dropSlashes base := by
  have dropped : ∀ c ∈ List.replicate slashes '/', (c == '/') = true := fun c member =>
    beq_of_eq (List.eq_of_mem_replicate member)
  rw [dropSlashes, dropSlashes, String.toList_append, String.toList_ofList, Text.dropEnd,
    List.reverse_append, List.reverse_replicate, List.dropWhile_append_of_pos dropped, Text.dropEnd]

theorem ofBase_append (base : String) (slashes : Nat) (session : Option String) :
    ofBase (base ++ String.ofList (List.replicate slashes '/')) session = ofBase base session := by
  rw [ofBase, ofBase, dropSlashes_append]

/-- Without an id a client is that of no session. -/
theorem ofBase_of_not_named (base : String) {session : Option String} (h : ¬ Named session) :
    ofBase base session = ofBase base none := by
  match session with
  | none => rfl
  | some id =>
    have empty : id = "" := Classical.byContradiction fun other => h ⟨id, rfl, other⟩
    rw [empty]
    rfl

/-! ## What requests carry -/

section

variable (base : String) (session : Option String)

theorem sessionForm_of_named {id : String} (h : id ≠ "") :
    (ofBase base (some id)).sessionForm = some (FormBody.encode [("session_id", id)]) := by
  have kept : (some id).filter (! ·.isEmpty) = some id :=
    Option.filter_some_pos (by simpa using h)
  rw [sessionForm, ofBase, kept]
  rfl

theorem sessionForm_of_not_named {session : Option String} (h : ¬ Named session) :
    (ofBase base session).sessionForm = none := by
  rw [ofBase_of_not_named base h]
  rfl

/-- A client sends a form with the id of its session exactly if there is one. -/
theorem isSome_sessionForm :
    (ofBase base session).sessionForm.isSome = true ↔ Named session := by
  by_cases named : Named session
  · obtain ⟨id, rfl, other⟩ := named
    rw [sessionForm_of_named base other]
    exact iff_of_true rfl ⟨id, rfl, other⟩
  · rw [sessionForm_of_not_named base named]
    exact iff_of_false Bool.false_ne_true named

theorem carries_of_named {id : String} (h : id ≠ "") (method : Method) (url : Url) :
    Request.Carries ⟨method, url, (ofBase base (some id)).sessionForm⟩ id := by
  rw [sessionForm_of_named base h]
  exact ⟨rfl, FormBody.decode?_encode (List.cons_ne_nil _ _)⟩

theorem isBare_of_not_named {session : Option String} (h : ¬ Named session) (method : Method)
    (url : Url) : Request.IsBare ⟨method, url, (ofBase base session).sessionForm⟩ := by
  rw [sessionForm_of_not_named base h]
  exact ⟨rfl, rfl⟩

theorem url_ofBase (path : String) :
    (ofBase base session).url path = (ofBase base none).url path := by
  simp only [url, ofBase]

/-- A poll outside the session asks and says nothing more. -/
theorem pollRequest_of_unscoped {feed : Feed} (h : feed.sessionScoped = false) :
    (ofBase base session).pollRequest feed =
      ((ofBase base none).url feed.path).map fun url => ⟨.get, url, none⟩ := by
  simp only [pollRequest, url_ofBase base session, pollForm, h, Bool.false_eq_true, if_false,
    Option.isSome_none]

/-- A poll in the name of a session adds its form, and becomes a post by it. -/
theorem pollRequest_of_scoped {feed : Feed} (h : feed.sessionScoped = true) :
    (ofBase base session).pollRequest feed =
      ((ofBase base none).url feed.path).map fun url =>
        ⟨if (ofBase base session).sessionForm.isSome then .post else .get, url,
          (ofBase base session).sessionForm⟩ := by
  simp only [pollRequest, url_ofBase base session, pollForm, h, if_true]

theorem submitRequest_eq (s : Submission) : (ofBase base session).submitRequest s =
    ((ofBase base none).url s.action).map fun url =>
      ⟨.post, url, (ofBase base session).sessionForm⟩ := by
  simp only [submitRequest, url_ofBase base session]

end

variable {address : Except RequestFault Url} {make : Url → Request}

theorem exists_of_map_eq_ok {r : Request} (h : address.map make = .ok r) : ∃ url, make url = r := by
  cases address with
  | error fault => cases h
  | ok url => exact ⟨url, Except.ok.inj h⟩

/-- A request is for the address that it is made from. -/
theorem map_url_of_eq {request : Except RequestFault Request} (h : request = address.map make)
    (own : ∀ url, (make url).url = url) : request.map Request.url = address := by
  rw [h]
  cases address with
  | error fault => rfl
  | ok url => exact congrArg Except.ok (own url)

theorem url_pollRequest (base : String) (session : Option String) (feed : Feed) :
    ((ofBase base session).pollRequest feed).map Request.url =
      (ofBase base none).url feed.path := by
  cases inSession : feed.sessionScoped with
  | false => exact map_url_of_eq (pollRequest_of_unscoped base session inSession) fun _ => rfl
  | true => exact map_url_of_eq (pollRequest_of_scoped base session inSession) fun _ => rfl

/-- The method of a poll tells no more of the session than whether it has an id. -/
theorem method_pollRequest {session other : Option String} (h : Named session ↔ Named other)
    (base : String) (feed : Feed) :
    ((ofBase base session).pollRequest feed).map Request.method =
      ((ofBase base other).pollRequest feed).map Request.method := by
  cases inSession : feed.sessionScoped with
  | false => rw [pollRequest_of_unscoped base _ inSession, pollRequest_of_unscoped base _ inSession]
  | true =>
    have alike : (ofBase base session).sessionForm.isSome =
        (ofBase base other).sessionForm.isSome :=
      Bool.eq_iff_iff.2 (by rw [isSome_sessionForm, isSome_sessionForm, h])
    rw [pollRequest_of_scoped base _ inSession, pollRequest_of_scoped base _ inSession, alike]
    cases (ofBase base none).url feed.path <;> rfl

/-! ## Two sessions of one server -/

/-- **The id of a session goes where it belongs.** Two clients of one server, in the name of any two
sessions, make the same requests for the feeds of onboarding, which carry nothing. A poll for the
other feeds is a post with the id as its only field if there is an id, and otherwise carries
nothing; a form is posted with the same body, or without one. The id has no bearing on addresses,
which are what the base address and the path spell, and on methods only by being there. An empty id
is no id, and slashes at the end of the base address do not count. -/
theorem session_stays_in_scope (base : String) (slashes : Nat) (session other : Option String) :
    let client := ofBase base session
    let twin := ofBase base other
    let address := (ofBase base none).url
    (∀ feed, feed = .bootstrapper ∨ feed = .consensusBuilder →
      client.pollRequest feed = twin.pollRequest feed ∧
        ∀ r, client.pollRequest feed = .ok r → r.method = .get ∧ r.IsBare) ∧
    (∀ feed, feed = .blockHeight ∨ feed = .balance ∨ feed = .heartbeat →
      ∀ r, client.pollRequest feed = .ok r →
        (∀ id, session = some id → id ≠ "" → r.method = .post ∧ r.Carries id) ∧
        (¬ Named session → r.method = .get ∧ r.IsBare)) ∧
    (∀ s r, client.submitRequest s = .ok r → r.method = .post ∧
        (∀ id, session = some id → id ≠ "" → r.Carries id) ∧ (¬ Named session → r.IsBare)) ∧
    (∀ feed, (client.pollRequest feed).map Request.url = address feed.path) ∧
    (∀ s, (client.submitRequest s).map Request.url = address s.action) ∧
    (∀ path url, address path = .ok url ↔
      url.Spells (Url.essence (dropSlashes base ++ path)) ∧ url.isSendable = true) ∧
    ((Named session ↔ Named other) → ∀ feed, (client.pollRequest feed).map Request.method =
      (twin.pollRequest feed).map Request.method) ∧
    (¬ Named session → client = ofBase base none) ∧
    ofBase (base ++ String.ofList (List.replicate slashes '/')) session = client := by
  intro client twin address
  refine ⟨fun feed outside => ?_, fun feed inside r made => ?_, fun s r made => ?_,
    url_pollRequest base session, fun s => map_url_of_eq (submitRequest_eq base session s)
      fun _ => rfl, fun _ _ => url_eq_ok_iff, fun alike => method_pollRequest alike base,
    ofBase_of_not_named base, ofBase_append base slashes session⟩
  · have unscoped : feed.sessionScoped = false := by rcases outside with rfl | rfl <;> rfl
    have same := pollRequest_of_unscoped base session unscoped
    refine ⟨same.trans (pollRequest_of_unscoped base other unscoped).symm, fun r made => ?_⟩
    obtain ⟨url, rfl⟩ := exists_of_map_eq_ok (same.symm.trans made)
    exact ⟨rfl, rfl, rfl⟩
  · have inSession : feed.sessionScoped = true := by rcases inside with rfl | rfl | rfl <;> rfl
    obtain ⟨url, rfl⟩ :=
      exists_of_map_eq_ok ((pollRequest_of_scoped base session inSession).symm.trans made)
    refine ⟨?_, fun unnamed => ⟨?_, isBare_of_not_named base unnamed _ url⟩⟩
    · rintro id rfl named
      exact ⟨if_pos ((isSome_sessionForm base _).2 ⟨id, rfl, named⟩),
        carries_of_named base named _ url⟩
    · exact if_neg fun sent => unnamed ((isSome_sessionForm base session).1 sent)
  · obtain ⟨url, rfl⟩ := exists_of_map_eq_ok ((submitRequest_eq base session s).symm.trans made)
    refine ⟨rfl, ?_, fun unnamed => isBare_of_not_named base unnamed _ url⟩
    rintro id rfl named
    exact carries_of_named base named _ url

/-- A heartbeat with an id that has the marks of a form in it, the progress of onboarding, and a
form without an id for a server whose address is spelled in an odd way. -/
theorem session_stays_in_scope_with_marks :
    let client := ofBase "http://127.0.0.1:4300//" (some "a b&c=é%2")
    let beat : Request :=
      ⟨.post, ⟨.http, .dotted 2130706433, some 4300, "/gui/heartbeat", none, none⟩,
        some "session_id=a+b%26c%3D%C3%A9%252"⟩
    let progress : Request :=
      ⟨.get, ⟨.http, .dotted 2130706433, some 4300, "/gui/bootstrapperProgress", none, none⟩, none⟩
    let odd := ofBase "HTTPs:\\127.0.0.1:443/" (some "")
    let form : Request := ⟨.post, ⟨.https, .dotted 2130706433, none, "/", none, none⟩, none⟩
    client.pollRequest .heartbeat = .ok beat ∧ beat.method = .post ∧ beat.Carries "a b&c=é%2" ∧
      client.pollRequest .bootstrapper = .ok progress ∧ progress.method = .get ∧
      progress.IsBare ∧ odd.submitRequest ⟨"refreshForm", "/"⟩ = .ok form ∧ form.method = .post ∧
      form.IsBare := by
  intro client beat progress odd form
  have beats : client.pollRequest .heartbeat = .ok beat := by cbv
  have progresses : client.pollRequest .bootstrapper = .ok progress := by cbv
  have posted : odd.submitRequest ⟨"refreshForm", "/"⟩ = .ok form := by cbv
  obtain ⟨outside, inside, -⟩ :=
    session_stays_in_scope "http://127.0.0.1:4300//" 0 (some "a b&c=é%2") none
  obtain ⟨-, -, forms, -⟩ := session_stays_in_scope "HTTPs:\\127.0.0.1:443/" 0 (some "") none
  have carried := (inside .heartbeat (.inr (.inr rfl)) beat beats).1 "a b&c=é%2" rfl (by decide)
  have bare := (outside .bootstrapper (.inl rfl)).2 progress progresses
  obtain ⟨post, -, plain⟩ := forms ⟨"refreshForm", "/"⟩ form posted
  have unnamed : ¬ Named (some "") := by
    rintro ⟨_, same, other⟩
    exact other (Option.some.inj same).symm
  exact ⟨beats, carried.1, carried.2, progresses, bare.1, bare.2, posted, post, plain unnamed⟩

end Client

end WalletWatch.Http
