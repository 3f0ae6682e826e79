import WalletWatch.Json.Reader
import WalletWatch.Json.Writer
import WalletWatch.Numeral.Binary
import WalletWatch.Settings.Basic
/-!
# Settings as JSON

Settings are written as an object with all eight fields in a fixed order. They are read from an
object or from an array. An object gives each field at most once, in any order; what it does not
give keeps its default, and members with other keys are ignored, whatever they hold. An array gives
the fields in their order, from the first one on. Anything else is no settings: nothing is taken
over from a document that has a fault anywhere.
-/

namespace WalletWatch

open Binary

namespace Screen

/-- The name of a screen in a document. -/
def key : Screen → String
  | bootstrapper => "bootstrapper"
  | consensusBuilder => "consensus_builder"
  | wallet _ => "wallet"

/-- The key of the one field of a wallet. -/
def lastPageKey : String := "last_page"

/-- A screen as a document: its name, or for a wallet an object that holds its field. -/
def toJson : Screen → Json
  | bootstrapper => .ofText bootstrapper.key
  | consensusBuilder => .ofText consensusBuilder.key
  | wallet lastPage =>
    .object [(some (wallet lastPage).key, .object [(some lastPageKey, .bool lastPage)])]

/-- Reads the field of a wallet from the members of an object, given what was read of it before.
A literal without text is no key. -/
def lastPageOfMembers : Option Bool → List (Option String × Json) → Option Bool
  | found, [] => found
  | _, (none, _) :: _ => none
  | found, (some key, value) :: rest =>
    if key = lastPageKey then
      match found, value with
      | none, .bool lastPage => lastPageOfMembers (some lastPage) rest
      | _, _ => none
    else lastPageOfMembers found rest

/-- Reads the field of a wallet, from an object or from an array of one item. -/
def lastPageOfJson : Json → Option Bool
  | .object members => lastPageOfMembers none members
  | .array [.bool lastPage] => some lastPage
  | _ => none

/-- Reads a screen. A screen without fields can also be written as an object, with its name as the
only key and `null` as its value. -/
def ofJson? : Json → Option Screen
  | .string (some name) =>
    if name = bootstrapper.key then some bootstrapper
    else if name = consensusBuilder.key then some consensusBuilder
    else none
  | .object [(some name, value)] =>
    if name = (wallet true).key then (lastPageOfJson value).map wallet
    else match value with
      | .null =>
        if name = bootstrapper.key then some bootstrapper
        else if name = consensusBuilder.key then some consensusBuilder
        else none
      | _ => none
  | _ => none

end Screen

namespace Settings

inductive Field
  | windowX
  | windowY
  | windowW
  | windowH
  | serverUrl
  | sessionId
  | consensusBuilder
  | startScreen
deriving DecidableEq, Repr

namespace Field

/-- The fields in the order in which they are written. -/
def all : List Field :=
  [windowX, windowY, windowW, windowH, serverUrl, sessionId, consensusBuilder, startScreen]

def key : Field → String
  | windowX => "window_x"
  | windowY => "window_y"
  | windowW => "window_w"
  | windowH => "window_h"
  | serverUrl => "server_url"
  | sessionId => "session_id"
  | consensusBuilder => "consensus_builder"
  | startScreen => "start_screen"

def ofKey? (key : String) : Option Field :=
  all.find? (·.key == key)

end Field

/-! ## Writing -/

/-- Sizes are written positionally from a millionth up to thirteen digits before the point. -/
def sizeLayout : Numeral.Layout := ⟨-6, 12⟩

/-- A size that may be missing. One that is not finite is written as missing. -/
def sizeToJson (size : Option Single) : Json :=
  ((size.bind (Numeral.ofSingle? sizeLayout)).map Json.number).getD .null

def textToJson (text : Option String) : Json :=
  (text.map Json.ofText).getD .null

def valueOf (s : Settings) : Field → Json
  | .windowX => sizeToJson s.windowX
  | .windowY => sizeToJson s.windowY
  | .windowW => sizeToJson s.windowW
  | .windowH => sizeToJson s.windowH
  | .serverUrl => .ofText s.serverUrl
  | .sessionId => textToJson s.sessionId
  | .consensusBuilder => .bool s.consensusBuilder
  | .startScreen => s.startScreen.toJson

def toJson (s : Settings) : Json :=
  .object (Field.all.map fun field => (some field.key, s.valueOf field))

def write (s : Settings) : String :=
  s.toJson.pretty

/-! ## Reading -/

def optional {α : Type} (read : Json → Option α) : Json → Option (Option α)
  | .null => some none
  | value => (read value).map some

def sizeOfJson? : Json → Option Single
  | .number value => value.single?
  | _ => none

/-- Gives a field the value that a document holds for it. -/
def assign (s : Settings) (field : Field) (value : Json) : Option Settings :=
  match field with
  | .windowX => (optional sizeOfJson? value).map ({ s with windowX := · })
  | .windowY => (optional sizeOfJson? value).map ({ s with windowY := · })
  | .windowW => (optional sizeOfJson? value).map ({ s with windowW := · })
  | .windowH => (optional sizeOfJson? value).map ({ s with windowH := · })
  | .serverUrl => value.text?.map ({ s with serverUrl := · })
  | .sessionId => (optional Json.text? value).map ({ s with sessionId := · })
  | .consensusBuilder => value.bool?.map ({ s with consensusBuilder := · })
  | .startScreen => (Screen.ofJson? value).map ({ s with startScreen := · })

/-- Reads the members of an object into settings, given the fields that were read before. -/
def ofMembers (read : List Field) (s : Settings) :
    List (Option String × Json) → Option Settings
  | [] => some s
  | (none, _) :: _ => none
  | (some key, value) :: rest =>
    match Field.ofKey? key with
    | none => ofMembers read s rest
    | some field =>
      if field ∈ read then none
      else match s.assign field value with
        | none => none
        | some s => ofMembers (field :: read) s rest

/-- Reads the items of an array into settings, for the given fields in turn. -/
def ofItems (s : Settings) : List Field → List Json → Option Settings
  | _, [] => some s
  | [], _ :: _ => none
  | field :: fields, value :: rest =>
    match s.assign field value with
    | none => none
    | some s => ofItems s fields rest

def ofJson? : Json → Option Settings
  | .object members => ofMembers [] default members
  | .array items => ofItems default Field.all items
  | _ => none

def read? (text : String) : Option Settings :=
  (Json.read? text).bind ofJson?

end Settings

end WalletWatch
