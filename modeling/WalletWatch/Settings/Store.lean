import WalletWatch.Journal
import WalletWatch.Settings.Codec
/-!
# Where settings are kept

Settings are kept in one file of a directory. A missing file, a file that is no text and a file that
holds no settings all give the settings of a first run; a missing directory takes no file.
-/

namespace WalletWatch

/-- The directory that settings are kept in. -/
structure Store where
  present : Bool
  file : Option ByteArray
  /-- Whether the directory has a place for logs. -/
  logs : Bool

namespace Store

def empty : Store := ⟨true, none, false⟩

def missing : Store := ⟨false, none, false⟩

def ofBytes (bytes : ByteArray) : Store := { empty with file := some bytes }

def ofText (text : String) : Store := ofBytes text.toUTF8

/-- The text of the settings file, if it is there and is a text. -/
def text? (s : Store) : Option String :=
  s.file.bind String.fromUTF8?

/-- A text that is kept is found again. -/
theorem text?_ofText (text : String) : (ofText text).text? = some text := by
  have valid : text.toUTF8.IsValidUTF8 := text.isValidUTF8
  change String.fromUTF8? text.toUTF8 = some text
  unfold String.fromUTF8?
  rw [dif_pos valid]
  rfl

/-- Makes the directory and its place for logs. -/
def prepare (s : Store) : Store :=
  { s with present := true, logs := true }

/-- Loads the settings, and says what was found. -/
def load (s : Store) : Settings × Event :=
  match s.text? with
  | none => (.default, .settingsMissing)
  | some text =>
    match Settings.read? text with
    | none => (.default, .settingsUnreadable)
    | some settings => (settings, .settingsLoaded)

/-- Saves settings, and reports if that was not possible. -/
def save (s : Store) (settings : Settings) : Store × List Event :=
  if s.present then ({ s with file := some settings.write.toUTF8 }, [])
  else (s, [.settingsNotSaved])

end Store

end WalletWatch
