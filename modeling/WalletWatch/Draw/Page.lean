import WalletWatch.Draw.Text
import WalletWatch.Page.Basic
import WalletWatch.Settings.Directory
import WalletWatch.Text.Age
/-!
# Drawing a page

The texts of a page, from top to bottom: a header with the name of the program and the title of the
screen, the elements, and a footer with the server, the age of what is shown and the version. The
footer is laid out before the elements, so its texts come first. A page that is shut down is drawn
as a notice and nothing else.
-/

namespace WalletWatch

namespace Element

def dot : String := "\ue18a"

/-- What stands for a value that is not known. -/
def ellipsis : String := "…"

def statusColor (e : Element) : Color :=
  .ofTag e.modifiers.head?

/-- A status: its label, a dot and the text in the colour of the status. -/
def drawStatus (e : Element) : List Drawn := [
  .plain e.label .body .muted,
  .plain dot .small e.statusColor,
  .plain e.text .body e.statusColor]

/-- A value: its label, and the text without blanks at its ends. -/
def drawValue (e : Element) : List Drawn :=
  let value := Text.trim e.text
  [.plain e.label .body .muted,
    .fixed (if value.isEmpty then ellipsis else value) .body .primary]

/-- The texts of an element. Markers are not drawn, buttons show their value, and a text without a
label stands for itself. -/
def draw (e : Element) : List Drawn :=
  match e.kind with
  | .marker => []
  | .button => [.plain e.value .button .secondary]
  | .text =>
    if e.hasClass ClassName.status then e.drawStatus
    else if e.label.isEmpty then [.plain e.text .body .secondary]
    else e.drawValue

end Element

namespace Page

def version : String := "0.1.0"

/-- The sign for something that was switched off. -/
def powerSign : String := "\ue3da"

/-- The notice of a page that is shut down. -/
def notice : List Drawn := [
  .plain powerSign .icon (.ofTag (some "red")),
  .plain "SHUTDOWN NOTICE" .heading .primary,
  .plain "Wallet was shutdown." .body .muted]

def header (p : Page) : List Drawn := [
  .plain Directory.programName .title .primary,
  .plain ((p.screen.map Screen.title).getD "") .heading .accent]

/-- What the footer says of the age of a page. -/
def ageText (p : Page) (now : Int) : String :=
  match p.updated with
  | some second => "Updated " ++ Text.age (now - second)
  | none => "Waiting for server"

def footer (p : Page) (server : String) (now : Int) : List Drawn := [
  .plain server .small .dim,
  .plain (p.ageText now) .small .dim,
  .plain ("v" ++ version) .small .dim]

/-- The texts of a page, in the order in which they are drawn. -/
def draw (p : Page) (server : String) (now : Int) : List Drawn :=
  if p.shutdown then notice
  else Drawn.visible (p.header ++ p.footer server now ++ p.elements.flatMap Element.draw)

end Page

end WalletWatch
