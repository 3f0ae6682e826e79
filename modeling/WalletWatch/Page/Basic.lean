import WalletWatch.Page.Element
import WalletWatch.Screen
/-!
# Pages

The page that is shown: a screen, its elements and forms, and the forms that were submitted on it
and not posted yet. Writing by class reaches every element that carries the class, writing by id the
first one with the id. Only forms that stand on the page can be submitted. A page that is shut down
has nothing on it and cannot be loaded any more.
-/

namespace WalletWatch

structure Form where
  name : String
  action : String
deriving DecidableEq, Repr

structure Submission where
  form : String
  action : String
deriving DecidableEq, Repr

/-- The page that is shown. -/
structure Page where
  screen : Option Screen
  elements : List Element
  forms : List Form
  shutdown : Bool
  /-- The second at which something was written last. -/
  updated : Option Int
  /-- Submitted forms that were not taken yet, oldest first. -/
  outbox : List Submission
deriving DecidableEq, Repr

/-- Changes the first item that satisfies a test. -/
def updateFirst {α : Type} (test : α → Bool) (change : α → α) : List α → List α
  | [] => []
  | a :: rest => if test a then change a :: rest else a :: updateFirst test change rest

namespace Page

def blank : Page :=
  ⟨none, [], [], false, none, []⟩

/-! ## Finding elements -/

def hasClass (p : Page) (className : String) : Bool :=
  p.elements.any (·.hasClass className)

def elementsOf (p : Page) (className : String) : List Element :=
  p.elements.filter (·.hasClass className)

def element? (p : Page) (id : String) : Option Element :=
  p.elements.find? (·.hasId id)

/-- Whether the history of transactions shows its last page, as its marker says. -/
def isLastPage (p : Page) : Bool :=
  (p.element? ElementId.isLastPage).any (·.className == "true")

/-! ## Writing -/

def updateClass (p : Page) (className : String) (change : Element → Element) : Page :=
  { p with elements := p.elements.map fun e => if e.hasClass className then change e else e }

def updateId (p : Page) (id : String) (change : Element → Element) : Page :=
  { p with elements := updateFirst (·.hasId id) change p.elements }

def writeText (p : Page) (className text : String) : Page :=
  p.updateClass className ({ · with text := text })

/-- Overwrites the whole class name of every element that carries a class. -/
def writeClassName (p : Page) (className newName : String) : Page :=
  p.updateClass className ({ · with className := newName })

def writeTextOf (p : Page) (id text : String) : Page :=
  p.updateId id ({ · with text := text })

def writeValueOf (p : Page) (id value : String) : Page :=
  p.updateId id ({ · with value := value })

/-- Notes the second at which something was written. -/
def touch (p : Page) (now : Int) : Page :=
  { p with updated := some now }

/-! ## Submitting -/

/-- Submits the first form with a name, or nothing if the page has none. -/
def submit? (p : Page) (name : String) : Option Page :=
  (p.forms.find? (·.name == name)).map fun form =>
    { p with outbox := p.outbox ++ [⟨form.name, form.action⟩] }

def takeOutbox (p : Page) : List Submission × Page :=
  (p.outbox, { p with outbox := [] })

/-- Shuts the page down: nothing stays on it, and nothing that was submitted is posted any more. -/
def shutDown (p : Page) : Page :=
  { p with shutdown := true, elements := [], forms := [], outbox := [] }

end Page

end WalletWatch
