import WalletWatch.Host.Basic
import WalletWatch.Http.Percent
import WalletWatch.Text.Cut
/-!
# URLs

The addresses of a wallet server: a scheme, a host, perhaps the number of a service there, and a
path with an optional query and fragment. Reading one settles its written form: the scheme is in
lower case and has two slashes behind it, what may not stand for itself is percent-encoded, `.` and
`..` are resolved, the usual service is left out, and there is always a path. A user and a password
before the host are read over; they are no part of an address.

Five schemes have addresses of this form, and requests are made over two of them. A text with any
other scheme is not read: no request can be made for it, and how a refusal would spell it is left
out.
-/

namespace WalletWatch.Http

/-- The schemes whose addresses are a host with a path. -/
inductive Scheme
  | http
  | https
  | ws
  | wss
  | ftp
deriving DecidableEq, Repr

namespace Scheme

def all : List Scheme := [http, https, ws, wss, ftp]

def name : Scheme → String
  | http => "http"
  | https => "https"
  | ws => "ws"
  | wss => "wss"
  | ftp => "ftp"

/-- The number of the service that is asked if none is named. -/
def usualService : Scheme → Nat
  | http | ws => 80
  | https | wss => 443
  | ftp => 21

/-- Whether a request can be made over a scheme. -/
def takesRequests : Scheme → Bool
  | http | https => true
  | ws | wss | ftp => false

/-- The scheme with a name, in letters of either case. -/
def ofName? (letters : List Char) : Option Scheme :=
  all.find? (·.name.toList == letters.map Char.toLower)

theorem mem_all (s : Scheme) : s ∈ all := by
  cases s <;> decide

theorem name_injective {s t : Scheme} (h : s.name = t.name) : s = t := by
  revert h
  cases s <;> cases t <;> decide

end Scheme

/-- A URL in its settled form. -/
structure Url where
  scheme : Scheme
  host : Host
  service : Option Nat
  path : String
  query : Option String
  fragment : Option String
deriving DecidableEq, Repr

namespace Url

/-! ## Writing -/

/-- The host, and the number of the service after a colon. -/
def authority (u : Url) : String :=
  u.host.text ++ ((u.service.map fun number => ":" ++ toString number).getD "")

/-- What a request asks for: the path and the query. -/
def target (u : Url) : String :=
  u.path ++ ((u.query.map ("?" ++ ·)).getD "")

def text (u : Url) : String :=
  u.scheme.name ++ "://" ++ u.authority ++ u.target ++ ((u.fragment.map ("#" ++ ·)).getD "")

/-- A URL without its fragment, which no server gets to see. -/
def withoutFragment (u : Url) : Url :=
  { u with fragment := none }

/-- The greatest length of an address that can be asked for. -/
def greatestLength : Nat := 65534

/-- Whether a request for a URL can be made and written down. -/
def isSendable (u : Url) : Bool :=
  u.scheme.takesRequests && u.host.text.toList.all Host.isSendable &&
    u.text.length ≤ greatestLength

/-! ## Characters -/

/-- Whether a character is a control character or a space. -/
def isControlOrSpace (c : Char) : Bool :=
  c ≤ ' '

/-- Whether a character is printable ASCII other than the space. -/
def isGraphic (c : Char) : Bool :=
  ' ' < c && c.toNat < 0x7F

def plainInFragment (c : Char) : Bool :=
  isGraphic c && !(['"', '<', '>', '\x60'].contains c)

def plainInQuery (c : Char) : Bool :=
  isGraphic c && !(['"', '#', '<', '>', '\''].contains c)

def plainInPath (c : Char) : Bool :=
  plainInFragment c && !(['#', '?', '\x7b', '\x7d'].contains c)

/-! ## Reading the authority -/

/-- The greatest number that a service at a host can have. -/
def greatestService : Nat := 65535

/-- The number of a service, which is written in ASCII digits. No digits name no number, and the
usual one need not be named. -/
def service? (scheme : Scheme) (digits : List Char) : Option (Option Nat) :=
  if digits.isEmpty then some none
  else if digits.all Char.isDigit then
    let number := digits.foldl (fun n c => 10 * n + (c.toNat - 48)) 0
    if number ≤ greatestService then some (some number |>.filter (· != scheme.usualService))
    else none
  else none

/-- The host at the start of an authority, and the colon with what follows it. Colons between square
brackets belong to the host. -/
def splitHost (bracketed : Bool) : List Char → List Char × List Char
  | [] => ([], [])
  | c :: rest =>
    if c == ':' && !bracketed then ([], c :: rest)
    else
      let split := splitHost (c == '[' || (bracketed && c != ']')) rest
      (c :: split.1, split.2)

/-- An authority without the user and the password before its last `@`. -/
def dropUser (cs : List Char) : List Char :=
  (cs.reverse.takeWhile (· != '@')).reverse

/-- Reads the host and the service of an authority. -/
def authority? (scheme : Scheme) (cs : List Char) : Option (Host × Option Nat) := do
  let (host, colon) := splitHost false (dropUser cs)
  return (← Host.read? host, ← service? scheme (colon.drop 1))

/-! ## Reading the path -/

/-- Whether a character separates the segments of a path: a slash in one of its two directions. -/
def isSlash (c : Char) : Bool :=
  c == '/' || c == '\\'

def plainDots : List Char → List Char
  | '%' :: '2' :: 'e' :: rest => '.' :: plainDots rest
  | '%' :: '2' :: 'E' :: rest => '.' :: plainDots rest
  | c :: rest => c :: plainDots rest
  | [] => []

/-- Whether a segment names a drive: a letter, and a colon or a bar. -/
def isDrive : List Char → Bool
  | [letter, mark] => letter.isAlpha && (mark == ':' || mark == '|')
  | _ => false

/-- The segments before a `..`, the last one first, without the one that it takes away. A drive is
not taken away. -/
def leave : List (List Char) → List (List Char)
  | [] => []
  | last :: before => if isDrive last then last :: before else before

/-- Resolves `.` and `..`, given the segments before, the last one first. A path that ends in one of
them ends in a slash. -/
def resolve : (before : List (List Char)) → List (List Char) → List (List Char)
  | before, [] => before.reverse
  | before, segment :: rest =>
    if plainDots segment = ['.'] then resolve (if rest.isEmpty then [] :: before else before) rest
    else if plainDots segment = ['.', '.'] then
      resolve (if rest.isEmpty then [] :: leave before else leave before) rest
    else resolve (segment :: before) rest

/-- The settled form of a path, which starts with a slash or is empty. -/
def settlePath (cs : List Char) : String :=
  let segments := resolve [] (Text.pieces isSlash (cs.drop 1))
  String.ofList (segments.flatMap fun segment => '/' :: percentEncode plainInPath segment)

/-! ## Reading a URL -/

/-- The text after a mark, if the mark occurs. -/
def after? (mark : Char) (cs : List Char) : Option (List Char) :=
  match cs.dropWhile (· != mark) with
  | [] => none
  | _ :: rest => some rest

/-- The scheme at the start of a text, and what follows its colon. Slashes right behind the colon do
not count, however many there are. -/
def splitScheme? (cs : List Char) : Option (Scheme × List Char) := do
  let scheme ← Scheme.ofName? (cs.takeWhile (· != ':'))
  let rest ← after? ':' cs
  return (scheme, rest.dropWhile isSlash)

/-- Reads what follows a scheme and its slashes. -/
def ofRest? (scheme : Scheme) (cs : List Char) : Option Url :=
  let beforeFragment := cs.takeWhile (· != '#')
  let beforeQuery := beforeFragment.takeWhile (· != '?')
  (authority? scheme (beforeQuery.takeWhile (! isSlash ·))).map fun (host, service) =>
    { scheme
      host
      service
      path := settlePath (beforeQuery.dropWhile (! isSlash ·))
      query := (after? '?' beforeFragment).map fun q =>
        String.ofList (percentEncode plainInQuery q)
      fragment := (after? '#' cs).map fun f => String.ofList (percentEncode plainInFragment f) }

/-- What counts of a text that is read as a URL. Control characters and spaces at both ends, and
tabs and line breaks anywhere, do not. -/
def essence (s : String) : List Char :=
  (Text.dropEnds isControlOrSpace s.toList).filter fun c => c != '\t' && c != '\n' && c != '\r'

def read? (s : String) : Option Url :=
  (splitScheme? (essence s)).bind fun (scheme, rest) => ofRest? scheme rest

end Url

end WalletWatch.Http
