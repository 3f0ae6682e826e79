import WalletWatch.Host.Dotted
import WalletWatch.Host.Groups
import WalletWatch.Host.Name
/-!
# Hosts

Who is asked at an address: a name, or a number in one of two notations. A name that ends in a
number has to be a number as a whole, and groups stand in square brackets.
-/

namespace WalletWatch

inductive Host
  | named (name : String)
  | dotted (number : Nat)
  | grouped (groups : List Nat)
deriving DecidableEq, Repr

namespace Host

def readPlain? (cs : List Char) : Option Host := do
  let name ← Name.read? cs
  if name.isEmpty then none
  else if Dotted.isNumeric name then (Dotted.read? name).map dotted
  else some (named (String.ofList name))

def read? : List Char → Option Host
  | '[' :: rest =>
    if rest.getLast? = some ']' then (Groups.read? rest.dropLast).map grouped else none
  | cs => readPlain? cs

def text : Host → String
  | named name => name
  | dotted number => Dotted.text number
  | grouped groups => "[" ++ Groups.text groups ++ "]"

/-- Whether a character of a name can be sent in a request. -/
def isSendable (c : Char) : Bool :=
  !(['"', '\x60', '\x7b', '\x7d'].contains c)

end Host

end WalletWatch
