import Mathlib
import WalletWatch.Proofs.Http.Address
import WalletWatch.Proofs.PollBody
/-!
# What a request comes to

Each reply of a server is of one of three kinds for a poll: it gives a list of texts
(`Reply.Gives`), it declines with a status (`Reply.Declines`), or it does neither. What the poll
comes to tells the three apart (`Client.PollOutcome`), and tells which list or status it was; for a
submitted form only the status counts (`Client.reply_settles_outcome`). A status of success is not
enough for a list: with the one that says that there is no content, nothing after the head of the
answer is taken (`Client.array_without_content_refused`).
-/

namespace WalletWatch.Http

variable {texts : List String} {body : ByteArray} {status code : Status} {complete : Bool}
  {reply : Reply}

namespace Status

theorem isSuccess_iff : code.isSuccess = true ↔ 200 ≤ code ∧ code < 300 := by
  simp [isSuccess]

theorem isError_iff : code.isError = true ↔ 400 ≤ code ∧ code < 600 := by
  have joined (n : Nat) : 400 ≤ n ∧ n < 500 ∨ 500 ≤ n ∧ n < 600 ↔ 400 ≤ n ∧ n < 600 := by omega
  simpa [isError, isClientError, isServerError] using joined code

/-- Among the statuses of success, one alone goes without a body. -/
theorem hasBody_iff_of_success (h : code.isSuccess = true) : code.hasBody = true ↔ code ≠ 204 := by
  have other : code ≠ 304 := by
    rintro rfl
    exact absurd h (by decide)
  simp [hasBody, other]

end Status

namespace Reply

/-- The status of a reply, if an answer comes at all. -/
def status? : Reply → Option Status
  | closed => none
  | answer status _ _ => some status

/-- A reply is over with its answer: the status, which has three digits, announces no other one. -/
def Concludes (reply : Reply) : Prop :=
  ∀ status, reply.status? = some status → 200 ≤ status ∧ status < 1000

/-- A reply is an answer with success as status and a body that arrives whole and writes some texts.
There is no body to an answer with status 204. -/
def Gives (reply : Reply) (texts : List String) : Prop :=
  ∃ status body, reply = answer status body true ∧
    (200 ≤ status ∧ status < 300 ∧ status ≠ 204) ∧ BodyOf texts body

/-- A reply is an answer with a status other than success, whatever there is of its body. -/
def Declines (reply : Reply) (code : Status) : Prop :=
  reply.status? = some code ∧ ¬ (200 ≤ code ∧ code < 300)

/-- A reply neither gives a list nor declines: there is no answer, or an answer with success as
status and a body that is not there, is cut off, or writes no list of texts. -/
def Fails (reply : Reply) : Prop :=
  (∀ texts, ¬ reply.Gives texts) ∧ ∀ code, ¬ reply.Declines code

/-- A reply is an answer that does not refuse the request. -/
def Accepts (reply : Reply) : Prop :=
  ∃ status, reply.status? = some status ∧ ¬ (400 ≤ status ∧ status < 600)

theorem received_answer (low : 200 ≤ status) (high : status < 1000) :
    (answer status body complete).received = answer status body complete :=
  if_pos (by simp [Status.isFinal, low, high])

theorem textsOfBody?_empty : textsOfBody? ByteArray.empty = none := by
  refine textsOfBody?_eq_none_iff.2 fun texts ⟨text, same, written⟩ => ?_
  obtain rfl : "" = text := String.toByteArray_inj.1 same
  exact (Json.ArrayFault.empty Json.Gap.nil).not_quotedArray texts written

/-- Texts are read from a body that is there and arrives whole. -/
theorem bind_receivedBody?_eq_some_iff :
    (receivedBody? status body complete).bind textsOfBody? = some texts ↔
      status.hasBody = true ∧ complete = true ∧ BodyOf texts body := by
  rw [← textsOfBody?_eq_some_iff]
  cases hasBody : status.hasBody <;> cases complete <;>
    simp [receivedBody?, hasBody, textsOfBody?_empty]

end Reply

/-- A body writes no other texts than those that were written. -/
theorem BodyOf.unique {others : List String} (h : BodyOf texts body) (h' : BodyOf others body) :
    texts = others :=
  Option.some.inj <|
    (textsOfBody?_eq_some_iff.2 h).symm.trans (textsOfBody?_eq_some_iff.2 h')

/-- A body with the literal of one text between its brackets. -/
theorem bodyOf_singleton {s : String} {cs : List Char} (h : Json.Spells s.toList cs) :
    BodyOf [s] (String.ofList ('[' :: ('"' :: (cs ++ ['"']) ++ [']']))).toUTF8 := by
  refine ⟨_, rfl, [], _, [], ?_, Json.Gap.nil, ⟨'"' :: (cs ++ ['"']), rfl, ?_⟩, Json.Gap.nil⟩
  · rw [String.toList_ofList, List.nil_append, List.append_nil]
  · exact ⟨[], _, [], (List.append_nil _).symm, Json.Gap.nil, ⟨cs, rfl, h⟩, Json.Gap.nil⟩

namespace Client

variable {feed : Feed} {request : Request} {path : String}

/-! ## Polls -/

/-- A poll of a server that has its say in one answer. -/
theorem pollResult_answer (low : 200 ≤ status) (high : status < 1000) :
    pollResult feed request (.answer status body complete) =
      if status.isSuccess then
        ((Reply.receivedBody? status body complete).bind textsOfBody?).elim
          (.error (.request .unreadableBody)) .ok
      else .error (.status status feed.path) := by
  rw [pollResult, Reply.received_answer low high]
  dsimp only
  cases (Reply.receivedBody? status body complete).bind textsOfBody? <;> rfl

theorem pollResult_of_gives (h : reply.Gives texts) : pollResult feed request reply = .ok texts := by
  obtain ⟨status, body, rfl, ⟨low, high, content⟩, written⟩ := h
  have success := Status.isSuccess_iff.2 ⟨low, high⟩
  have read := Reply.bind_receivedBody?_eq_some_iff.2
    ⟨(Status.hasBody_iff_of_success success).2 content, rfl, written⟩
  rw [pollResult_answer low (Nat.lt_trans high (by decide)), if_pos success, read]
  rfl

theorem pollResult_of_declines (concludes : reply.Concludes) (h : reply.Declines code) :
    pollResult feed request reply = .error (.status code feed.path) := by
  obtain ⟨answered, refused⟩ := h
  obtain ⟨low, high⟩ := concludes code answered
  cases reply with
  | closed => cases answered
  | answer status body complete =>
    cases answered
    rw [pollResult_answer low high, if_neg (mt Status.isSuccess_iff.1 refused)]

theorem pollResult_of_fails (feed : Feed) (request : Request) (concludes : reply.Concludes)
    (h : reply.Fails) : ∃ fault, pollResult feed request reply = .error (.request fault) := by
  cases reply with
  | closed => exact ⟨_, rfl⟩
  | answer status body complete =>
    obtain ⟨low, high⟩ := concludes status rfl
    have success : status.isSuccess = true := Status.isSuccess_iff.2 <|
      Classical.byContradiction fun other => h.2 status ⟨rfl, other⟩
    have nothing : (Reply.receivedBody? status body complete).bind textsOfBody? = none := by
      refine Option.eq_none_iff_forall_ne_some.2 fun texts read => h.1 texts ?_
      obtain ⟨content, rfl, written⟩ := Reply.bind_receivedBody?_eq_some_iff.1 read
      obtain ⟨-, below⟩ := Status.isSuccess_iff.1 success
      exact ⟨status, body, rfl,
        ⟨low, below, (Status.hasBody_iff_of_success success).1 content⟩, written⟩
    rw [pollResult_answer low high, if_pos success, nothing]
    exact ⟨_, rfl⟩

/-- An answer that says that there is no content is no list, whatever follows its head. -/
theorem pollResult_without_content :
    pollResult feed request (.answer 204 body complete) = .error (.request .unreadableBody) := by
  have success : Status.isSuccess 204 = true := rfl
  have nothing : Reply.receivedBody? 204 body complete = some ByteArray.empty := rfl
  rw [pollResult_answer (by decide) (by decide), if_pos success, nothing, Option.bind_some,
    Reply.textsOfBody?_empty]
  rfl

/-- What a poll comes to for each kind of reply. -/
inductive PollOutcome (feed : Feed) (reply : Reply) : Except Failure (List String) → Prop
  | gives {texts : List String} (h : reply.Gives texts) : PollOutcome feed reply (.ok texts)
  | declines {code : Status} (h : reply.Declines code) :
    PollOutcome feed reply (.error (.status code feed.path))
  | fails {fault : RequestFault} (h : reply.Fails) :
    PollOutcome feed reply (.error (.request fault))

theorem outcome_pollResult (feed : Feed) (request : Request) (concludes : reply.Concludes) :
    PollOutcome feed reply (pollResult feed request reply) := by
  by_cases given : ∃ texts, reply.Gives texts
  · obtain ⟨texts, gives⟩ := given
    rw [pollResult_of_gives gives]
    exact .gives gives
  by_cases declined : ∃ code, reply.Declines code
  · obtain ⟨code, declines⟩ := declined
    rw [pollResult_of_declines concludes declines]
    exact .declines declines
  have fails : reply.Fails := ⟨not_exists.1 given, not_exists.1 declined⟩
  obtain ⟨fault, came⟩ := pollResult_of_fails feed request concludes fails
  rw [came]
  exact .fails fails

theorem pollResult_eq_ok_iff (concludes : reply.Concludes) :
    pollResult feed request reply = .ok texts ↔ reply.Gives texts := by
  refine ⟨?_, pollResult_of_gives⟩
  intro result
  have outcome := outcome_pollResult feed request concludes
  rw [result] at outcome
  cases outcome with
  | gives gives => exact gives

theorem pollResult_eq_status_iff (concludes : reply.Concludes) :
    pollResult feed request reply = .error (.status code path) ↔
      reply.Declines code ∧ path = feed.path := by
  constructor
  · intro result
    have outcome := outcome_pollResult feed request concludes
    rw [result] at outcome
    cases outcome with
    | declines declines => exact ⟨declines, rfl⟩
  · rintro ⟨declines, rfl⟩
    exact pollResult_of_declines concludes declines

theorem exists_pollResult_eq_request_iff (concludes : reply.Concludes) :
    (∃ fault, pollResult feed request reply = .error (.request fault)) ↔ reply.Fails := by
  refine ⟨?_, pollResult_of_fails feed request concludes⟩
  rintro ⟨fault, result⟩
  have outcome := outcome_pollResult feed request concludes
  rw [result] at outcome
  cases outcome with
  | fails fails => exact fails

/-! ## Submitted forms -/

theorem submitResult_of_accepts (concludes : reply.Concludes) (h : reply.Accepts) :
    submitResult request reply = .ok () := by
  obtain ⟨status, answered, kind⟩ := h
  obtain ⟨low, high⟩ := concludes status answered
  cases reply with
  | closed => cases answered
  | answer other body complete =>
    cases answered
    rw [submitResult, Reply.received_answer low high]
    exact if_neg (mt Status.isError_iff.1 kind)

theorem submitResult_of_not_accepts (request : Request) (concludes : reply.Concludes)
    (h : ¬ reply.Accepts) : ∃ fault, submitResult request reply = .error (.request fault) := by
  cases reply with
  | closed => exact ⟨_, rfl⟩
  | answer status body complete =>
    obtain ⟨low, high⟩ := concludes status rfl
    have refused : status.isError = true := Status.isError_iff.2 <|
      Classical.byContradiction fun kind => h ⟨status, rfl, kind⟩
    rw [submitResult, Reply.received_answer low high]
    exact ⟨_, if_pos refused⟩

theorem submitResult_eq_ok_iff (h : reply.Concludes) :
    submitResult request reply = .ok () ↔ reply.Accepts := by
  refine ⟨fun result => ?_, submitResult_of_accepts h⟩
  apply Classical.byContradiction
  intro refused
  obtain ⟨fault, came⟩ := submitResult_of_not_accepts request h refused
  cases came.symm.trans result

/-- What becomes of a submitted form is settled by the status alone. -/
theorem submitResult_congr {other : Reply} (h : other.status? = reply.status?) :
    submitResult request other = submitResult request reply := by
  cases reply <;> cases other <;> cases h
  · rfl
  · next status _ _ _ _ =>
    simp only [submitResult, Reply.received]
    cases status.isFinal <;> rfl

/-! ## Requests and replies -/

variable {c : Client} {serve : Request → Reply} {s : Submission} {url : Url}

theorem exists_pollRequest (h : c.url feed.path = .ok url) :
    ∃ r, c.pollRequest feed = .ok r ∧ r.url = url := by
  rw [pollRequest, h]
  exact ⟨_, rfl, rfl⟩

theorem exists_submitRequest (h : c.url s.action = .ok url) :
    ∃ r, c.submitRequest s = .ok r ∧ r.url = url := by
  rw [submitRequest, h]
  exact ⟨_, rfl, rfl⟩

theorem fetch_eq (h : c.pollRequest feed = .ok request) :
    c.fetch serve feed = pollResult feed request (serve request) := by
  rw [fetch, h]

theorem submit_eq (h : c.submitRequest s = .ok request) :
    c.submit serve s = submitResult request (serve request) := by
  rw [submit, h]

/-- **The reply settles what a request comes to.** Let each reply of a server close the connection
or be one answer. A poll whose address is a URL then makes a request for it, and takes a list
exactly if the reply gives that list; it reports a status, with the path of the feed, exactly if the
reply declines with it; and it reports that the request failed exactly if the reply does neither. A
submitted form gets through exactly if an answer accepts it, and what there is of the body has no
bearing on that. Where the address is no URL there is no request, and both report that it failed; it
is one exactly if base and path spell it and requests can be made for it. No list is taken but the
one that was sent. -/
theorem reply_settles_outcome (c : Client) (serve : Request → Reply)
    (concludes : ∀ r, (serve r).Concludes) :
    (∀ feed url, c.url feed.path = .ok url → ∃ r, c.pollRequest feed = .ok r ∧ r.url = url ∧
      (∀ texts, c.fetch serve feed = .ok texts ↔ (serve r).Gives texts) ∧
      (∀ code path, c.fetch serve feed = .error (.status code path) ↔
        (serve r).Declines code ∧ path = feed.path) ∧
      ((∃ fault, c.fetch serve feed = .error (.request fault)) ↔ (serve r).Fails)) ∧
    (∀ s url, c.url s.action = .ok url → ∃ r, c.submitRequest s = .ok r ∧ r.url = url ∧
      (c.submit serve s = .ok () ↔ (serve r).Accepts) ∧
      (¬ (serve r).Accepts → ∃ fault, c.submit serve s = .error (.request fault)) ∧
      ∀ serve', (serve' r).status? = (serve r).status? → c.submit serve' s = c.submit serve s) ∧
    (∀ feed fault, c.url feed.path = .error fault →
      c.pollRequest feed = .error fault ∧ c.fetch serve feed = .error (.request fault)) ∧
    (∀ s fault, c.url s.action = .error fault →
      c.submitRequest s = .error fault ∧ c.submit serve s = .error (.request fault)) ∧
    (∀ path url, c.url path = .ok url ↔
      url.Spells (Url.essence (c.base ++ path)) ∧ url.isSendable = true) ∧
    ∀ feed r status body complete sent texts, c.pollRequest feed = .ok r →
      serve r = .answer status body complete → BodyOf sent body →
      c.fetch serve feed = .ok texts → texts = sent := by
  refine ⟨?_, ?_, ?_, ?_, fun _ _ => url_eq_ok_iff, ?_⟩
  · intro feed url usable
    obtain ⟨r, made, own⟩ := exists_pollRequest usable
    rw [fetch_eq made]
    exact ⟨r, made, own, fun _ => pollResult_eq_ok_iff (concludes r),
      fun _ _ => pollResult_eq_status_iff (concludes r),
      exists_pollResult_eq_request_iff (concludes r)⟩
  · intro s url usable
    obtain ⟨r, made, own⟩ := exists_submitRequest usable
    simp only [submit_eq made]
    exact ⟨r, made, own, submitResult_eq_ok_iff (concludes r),
      submitResult_of_not_accepts r (concludes r), fun _ same => submitResult_congr same⟩
  · intro feed fault unusable
    have unmade : c.pollRequest feed = .error fault := by rw [pollRequest, unusable]; rfl
    exact ⟨unmade, by rw [fetch, unmade]⟩
  · intro s fault unusable
    have unmade : c.submitRequest s = .error fault := by rw [submitRequest, unusable]; rfl
    exact ⟨unmade, by rw [submit, unmade]⟩
  · intro feed r status body complete sent texts made answered written taken
    rw [fetch_eq made, pollResult_eq_ok_iff (concludes r), answered] at taken
    obtain ⟨_, _, same, -, written'⟩ := taken
    cases same
    exact written'.unique written

/-- A list behind a status of success, the same one behind another status and cut off in the middle,
and an accepted form; and a list from a server whose address is spelled in an odd way. -/
theorem reply_settles_outcome_cut_off :
    let c := ofBase "http://127.0.0.1:4300" none
    let odd := ofBase "HTTPs:/\\127.0.0.1" none
    let body := "[\"a\"]".toUTF8
    let serve : Request → Reply := fun r =>
      if r.url.path = "/gui/balance" then .answer 206 body true
      else if r.url.path = "/gui/blockHeight" then .answer 503 body false
      else .answer 200 body false
    (∀ r, (serve r).Concludes) ∧ c.fetch serve .balance = .ok ["a"] ∧
      c.fetch serve .blockHeight = .error (.status 503 "/gui/blockHeight") ∧
      (∃ fault, c.fetch serve .heartbeat = .error (.request fault)) ∧
      c.submit serve ⟨"refreshForm", "/"⟩ = .ok () ∧ odd.fetch serve .balance = .ok ["a"] := by
  intro c odd body serve
  have concludes (r : Request) : (serve r).Concludes := by
    intro status answered
    unfold serve at answered
    split at answered
    · cases answered
      decide
    · split at answered <;> cases answered <;> decide
  have written : BodyOf ["a"] body :=
    bodyOf_singleton (s := "a") (.one (.plain (by decide) (by decide) (by decide)) .nil)
  obtain ⟨polls, forms, -⟩ := reply_settles_outcome c serve concludes
  refine ⟨concludes, ?_, ?_, ?_, ?_, ?_⟩
  · obtain ⟨r, -, own, taken, -⟩ :=
      polls .balance ⟨.http, .dotted 2130706433, some 4300, "/gui/balance", none, none⟩ (by cbv)
    exact (taken _).2 ⟨206, body, by simp [serve, own], by decide, written⟩
  · obtain ⟨r, -, own, -, declined, -⟩ :=
      polls .blockHeight ⟨.http, .dotted 2130706433, some 4300, "/gui/blockHeight", none, none⟩
        (by cbv)
    exact (declined _ _).2 ⟨⟨by simp [serve, own, Reply.status?], by decide⟩, rfl⟩
  · obtain ⟨r, -, own, -, -, failed⟩ :=
      polls .heartbeat ⟨.http, .dotted 2130706433, some 4300, "/gui/heartbeat", none, none⟩ (by cbv)
    have cut : serve r = .answer 200 body false := by simp [serve, own]
    rw [failed, cut]
    constructor
    · rintro texts ⟨_, _, same, -⟩
      cases same
    · rintro code ⟨answered, other⟩
      cases answered
      exact other (by decide)
  · obtain ⟨r, -, own, accepted, -⟩ := forms ⟨"refreshForm", "/"⟩
      ⟨.http, .dotted 2130706433, some 4300, "/", none, none⟩ (by cbv)
    exact accepted.2 ⟨200, by simp [serve, own, Reply.status?], by decide⟩
  · obtain ⟨r, -, own, taken, -⟩ := (reply_settles_outcome odd serve concludes).1 .balance
      ⟨.https, .dotted 2130706433, none, "/gui/balance", none, none⟩ (by cbv)
    exact (taken _).2 ⟨206, body, by simp [serve, own], by decide, written⟩

/-- An answer with status 204 is one of success, and a list of texts that follows its head arrives
whole. Still the poll does not take it. -/
theorem array_without_content_refused :
    let c := ofBase "http://127.0.0.1:4300" none
    let body := "[\"a\"]".toUTF8
    let serve : Request → Reply := fun _ => .answer 204 body true
    c.url Feed.balance.path =
        .ok ⟨.http, .dotted 2130706433, some 4300, "/gui/balance", none, none⟩ ∧
      Status.isSuccess 204 = true ∧ BodyOf ["a"] body ∧
      c.fetch serve .balance = .error (.request .unreadableBody) ∧
      c.fetch serve .balance ≠ .ok ["a"] := by
  intro c body serve
  have written : BodyOf ["a"] body :=
    bodyOf_singleton (s := "a") (.one (.plain (by decide) (by decide) (by decide)) .nil)
  have usable : c.url Feed.balance.path =
      .ok ⟨.http, .dotted 2130706433, some 4300, "/gui/balance", none, none⟩ := by cbv
  have refused : c.fetch serve .balance = .error (.request .unreadableBody) := by
    obtain ⟨r, made, -⟩ := exists_pollRequest usable
    rw [fetch_eq made]
    exact pollResult_without_content
  refine ⟨usable, rfl, written, refused, ?_⟩
  intro taken
  cases refused.symm.trans taken

end Client

end WalletWatch.Http
