import WalletWatch.Page.Basic
/-!
# Templates

What the server renders for each screen, and loading a page with it. Loading replaces elements and
forms; what was submitted before and not taken yet stays submitted.
-/

namespace WalletWatch

namespace Screen

def formNames : Screen → List String
  | bootstrapper => [FormName.refreshBootstrapper]
  | consensusBuilder => [FormName.refreshConsensusBuilder]
  | wallet _ => [FormName.refresh, FormName.refreshTransactions]

/-- Where the forms of a screen are posted to. -/
def formAction : String := "/"

/-- The forms of a screen, with their action. -/
def forms (s : Screen) : List Form :=
  s.formNames.map (⟨·, formAction⟩)

/-- The class name by which the marker of a wallet says which page of the history it shows. -/
def lastPageMark (lastPage : Bool) : String :=
  if lastPage then "true" else "false"

def elements : Screen → List Element
  | bootstrapper => [.labelled "Bootstrapping consensus" ClassName.bootstrapperProgress]
  | consensusBuilder => [.labelled "Building consensus" ClassName.consensusBuilderProgress]
  | wallet lastPage => [
    .labelled "Block height" ClassName.blockHeight,
    .labelled "Status" ClassName.status,
    .plain .marker ElementId.balance,
    .labelled "Confirmed SCP" ClassName.confirmed,
    .labelled "Unconfirmed SCP" ClassName.unconfirmed,
    .labelled "SPF funds" ClassName.spfFunds,
    .plain .text ElementId.whaleSize,
    .plain .button ElementId.whaleSizeButton,
    { Element.plain .marker ElementId.isLastPage with className := lastPageMark lastPage }]

end Screen

namespace Page

/-- Loads a screen, unless the page is shut down. -/
def load (p : Page) (s : Screen) : Page :=
  if p.shutdown then p
  else { p with screen := some s, elements := s.elements, forms := s.forms }

def ofScreen (s : Screen) : Page :=
  blank.load s

end Page

end WalletWatch
