import WalletWatch.Http.FormBody
import WalletWatch.Http.Url
import WalletWatch.Json.Reader
import WalletWatch.Page.Basic
import WalletWatch.Report
/-!
# The client of a wallet server

Which request a poll or a submitted form makes, and what its answer comes to. The id of the session
goes into the body of the requests that are made in its name, and nowhere else.

A poll takes an answer with success as status and an array of strings as body. For a submitted form
any answer will do that does not refuse it; its body is not looked at.
-/

namespace WalletWatch.Http

inductive Method
  | get
  | post
deriving DecidableEq, Repr

namespace Method

def name : Method → String
  | get => "GET"
  | post => "POST"

end Method

structure Request where
  method : Method
  url : Url
  /-- The encoded form in the body, if there is one. -/
  form : Option String
deriving DecidableEq, Repr

namespace Request

def contentType (r : Request) : Option String :=
  r.form.map fun _ => FormBody.contentType

def body (r : Request) : String :=
  r.form.getD ""

end Request

/-- What a server does with a request. -/
inductive Reply
  /-- It closes the connection. -/
  | closed
  /-- It answers, with a body that arrives whole or not. -/
  | answer (status : Status) (body : ByteArray) (complete : Bool)

namespace Reply

/-- What a client gets of a reply. The connection ends after one answer, so an answer that announces
another one is as good as none. -/
def received : Reply → Reply
  | answer status body complete =>
    if status.isFinal then answer status body complete else closed
  | closed => closed

/-- The body as it arrives, or nothing if it does not arrive whole. -/
def receivedBody? (status : Status) (body : ByteArray) (complete : Bool) : Option ByteArray :=
  if !status.hasBody then some ByteArray.empty else if complete then some body else none

end Reply

def textsOfBody? (body : ByteArray) : Option (List String) :=
  ((String.fromUTF8? body).bind Json.read?).bind Json.texts?

/-- The client of a server, perhaps in the name of a session. -/
structure Client where
  base : String
  session : Option String
deriving DecidableEq, Repr

namespace Client

/-- A text without the slashes at its end. -/
def dropSlashes (s : String) : String :=
  String.ofList (Text.dropEnd (· == '/') s.toList)

/-- The client of a server at a base address. An empty id is no session. -/
def ofBase (base : String) (session : Option String) : Client :=
  ⟨dropSlashes base, session.filter (! ·.isEmpty)⟩

/-- The name of the form field that carries the id of the session. -/
def sessionField : String := "session_id"

/-- The encoded form that carries the id of the session. -/
def sessionForm (c : Client) : Option String :=
  c.session.map fun id => FormBody.encode [(sessionField, id)]

/-! ## Requests -/

/-- The address of a path on the server, if it is one that requests can be made for. -/
def url (c : Client) (path : String) : Except RequestFault Url :=
  match Url.read? (c.base ++ path) with
  | none => .error .unusableAddress
  | some url => if url.isSendable then .ok url else .error (.unusableUrl url.text)

def pollForm (c : Client) (feed : Feed) : Option String :=
  if feed.sessionScoped then c.sessionForm else none

def pollRequest (c : Client) (feed : Feed) : Except RequestFault Request :=
  (c.url feed.path).map fun url =>
    let form := c.pollForm feed
    ⟨if form.isSome then .post else .get, url, form⟩

def submitRequest (c : Client) (s : Submission) : Except RequestFault Request :=
  (c.url s.action).map fun url => ⟨.post, url, c.sessionForm⟩

/-! ## Answers -/

/-- What the reply to a poll comes to. -/
def pollResult (feed : Feed) (request : Request) (reply : Reply) : Except Failure (List String) :=
  match reply.received with
  | .closed => .error (.request (.noAnswer request.url.text))
  | .answer status body complete =>
    if status.isSuccess then
      match (Reply.receivedBody? status body complete).bind textsOfBody? with
      | some fields => .ok fields
      | none => .error (.request .unreadableBody)
    else .error (.status status feed.path)

/-- What the reply to a submitted form comes to. -/
def submitResult (request : Request) (reply : Reply) : Except Failure Unit :=
  match reply.received with
  | .closed => .error (.request (.noAnswer request.url.text))
  | .answer status _ _ =>
    if status.isError then
      .error (.request (.refused status request.url.withoutFragment.text))
    else .ok ()

/-- Polls a feed of a server that treats each request as `serve` says. -/
def fetch (c : Client) (serve : Request → Reply) (feed : Feed) : Except Failure (List String) :=
  match c.pollRequest feed with
  | .error fault => .error (.request fault)
  | .ok request => pollResult feed request (serve request)

/-- Submits a form to a server that treats each request as `serve` says. -/
def submit (c : Client) (serve : Request → Reply) (s : Submission) : Except Failure Unit :=
  match c.submitRequest s with
  | .error fault => .error (.request fault)
  | .ok request => submitResult request (serve request)

end Client

end WalletWatch.Http
