import WalletWatch.Text.Words
/-!
# Elements of a page

An element is found by its id, or by a class: its class name is a list of words, and it carries each
of them as a class. A marker is never shown; it says something by its class name.
-/

namespace WalletWatch

inductive ElementKind
  | text
  | button
  | marker
deriving DecidableEq, Repr

structure Element where
  kind : ElementKind
  id : Option String
  className : String
  label : String
  text : String
  value : String
deriving DecidableEq, Repr

namespace Element

/-- A text with a label, found by its class. -/
def labelled (label className : String) : Element :=
  ⟨.text, none, className, label, "", ""⟩

/-- An element that is found by its id, without label and class. -/
def plain (kind : ElementKind) (id : String) : Element :=
  ⟨kind, some id, "", "", "", ""⟩

def hasClass (className : String) (e : Element) : Bool :=
  (Text.words e.className).contains className

def hasId (id : String) (e : Element) : Bool :=
  e.id == some id

/-- The classes after the first one, such as the colour in `status blue`. -/
def modifiers (e : Element) : List String :=
  (Text.words e.className).tail

end Element

/-! ## The names of the server's templates -/

namespace ClassName

def blockHeight : String := "block_height"
def status : String := "status"
def confirmed : String := "confirmed"
def unconfirmed : String := "unconfirmed"
def spfFunds : String := "spf_funds"
def bootstrapperProgress : String := "bootstrapper-progress"
def consensusBuilderProgress : String := "consensus-builder-progress"

end ClassName

namespace ElementId

def balance : String := "balance"
def whaleSize : String := "whale_size"
def whaleSizeButton : String := "whale_size_button"
def isLastPage : String := "is_last_page"

end ElementId

namespace FormName

def refresh : String := "refreshForm"
def refreshBootstrapper : String := "refreshBootstrapper"
def refreshConsensusBuilder : String := "refreshConsensusBuilder"
def refreshTransactions : String := "refresh_transactions"

end FormName

end WalletWatch
