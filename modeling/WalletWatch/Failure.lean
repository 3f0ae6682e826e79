import WalletWatch.Http.Status
/-!
# Why a poll fails

A poll fails because the request did not get through, because the server answered with another
status than success, or because its answer has too few fields. Each cause is a constructor;
`message` is the one place where they get their wording.
-/

namespace WalletWatch

/-- Why a request did not get through. -/
inductive RequestFault
  /-- The address of the request is no URL. -/
  | unusableAddress
  /-- The address is a URL that no request can be made for. -/
  | unusableUrl (url : String)
  /-- The connection ended without an answer. -/
  | noAnswer (url : String)
  /-- The body of the answer did not arrive whole, or is no array of strings. -/
  | unreadableBody
  /-- The server refused a submitted form. -/
  | refused (status : Http.Status) (url : String)
deriving DecidableEq, Repr

/-- Why a poll, or the submission of a form, failed. -/
inductive Failure
  | request (fault : RequestFault)
  | status (code : Http.Status) (path : String)
  | malformed (path : String) (expected got : Nat)
deriving DecidableEq, Repr

namespace RequestFault

def message : RequestFault → String
  | unusableAddress => "builder error"
  | unusableUrl url => "builder error for url (" ++ url ++ ")"
  | noAnswer url => "error sending request for url (" ++ url ++ ")"
  | unreadableBody => "error decoding response body"
  | refused status url =>
    "HTTP status " ++ (if status.isClientError then "client" else "server") ++ " error ("
      ++ toString status ++ " " ++ status.reason?.getD "" ++ ") for url (" ++ url ++ ")"

end RequestFault

namespace Failure

def message : Failure → String
  | request fault => "request failed: " ++ fault.message
  | status code path =>
    "server answered " ++ toString code ++ " " ++ code.reason?.getD "<unknown status code>"
      ++ " for " ++ path
  | malformed path expected got =>
    "malformed response from " ++ path ++ ": expected " ++ toString expected ++ " fields, got "
      ++ toString got

end Failure

end WalletWatch
