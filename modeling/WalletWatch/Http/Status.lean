/-!
# Status codes

The classes of the status codes of HTTP, and the reason phrases that the standard gives to them.
-/

namespace WalletWatch.Http

abbrev Status := Nat

namespace Status

def reasons : List (Status × String) := [
  (100, "Continue"), (101, "Switching Protocols"), (102, "Processing"), (103, "Early Hints"),
  (200, "OK"), (201, "Created"), (202, "Accepted"), (203, "Non Authoritative Information"),
  (204, "No Content"), (205, "Reset Content"), (206, "Partial Content"), (207, "Multi-Status"),
  (208, "Already Reported"), (226, "IM Used"),
  (300, "Multiple Choices"), (301, "Moved Permanently"), (302, "Found"), (303, "See Other"),
  (304, "Not Modified"), (305, "Use Proxy"), (307, "Temporary Redirect"),
  (308, "Permanent Redirect"),
  (400, "Bad Request"), (401, "Unauthorized"), (402, "Payment Required"), (403, "Forbidden"),
  (404, "Not Found"), (405, "Method Not Allowed"), (406, "Not Acceptable"),
  (407, "Proxy Authentication Required"), (408, "Request Timeout"), (409, "Conflict"),
  (410, "Gone"), (411, "Length Required"), (412, "Precondition Failed"),
  (413, "Payload Too Large"), (414, "URI Too Long"), (415, "Unsupported Media Type"),
  (416, "Range Not Satisfiable"), (417, "Expectation Failed"), (418, "I'm a teapot"),
  (421, "Misdirected Request"), (422, "Unprocessable Entity"), (423, "Locked"),
  (424, "Failed Dependency"), (425, "Too Early"), (426, "Upgrade Required"),
  (428, "Precondition Required"), (429, "Too Many Requests"),
  (431, "Request Header Fields Too Large"), (451, "Unavailable For Legal Reasons"),
  (500, "Internal Server Error"), (501, "Not Implemented"), (502, "Bad Gateway"),
  (503, "Service Unavailable"), (504, "Gateway Timeout"), (505, "HTTP Version Not Supported"),
  (506, "Variant Also Negotiates"), (507, "Insufficient Storage"), (508, "Loop Detected"),
  (510, "Not Extended"), (511, "Network Authentication Required")]

def reason? (code : Status) : Option String :=
  reasons.lookup code

def isSuccess (code : Status) : Bool :=
  200 ≤ code && code < 300

/-- Whether a code puts the blame on the request. -/
def isClientError (code : Status) : Bool :=
  400 ≤ code && code < 500

/-- Whether a code puts the blame on the server. -/
def isServerError (code : Status) : Bool :=
  500 ≤ code && code < 600

/-- Whether a code reports that a request was refused. -/
def isError (code : Status) : Bool :=
  code.isClientError || code.isServerError

/-- Whether an answer with this code is all that a server has to say. A code below 200 announces
another answer, unless it changes the protocol, and a code has three digits. -/
def isFinal (code : Status) : Bool :=
  code == 101 || (200 ≤ code && code < 1000)

/-- Whether an answer with this code has a body at all. -/
def hasBody (code : Status) : Bool :=
  code != 204 && code != 304

end Status

end WalletWatch.Http
