import WalletWatch.Binary.Format
import WalletWatch.Page.Template
/-!
# Settings

What is kept from one run to the next: where the window was, which server to watch and in the name
of which session, and how onboarding goes.
-/

namespace WalletWatch

open Binary

structure Settings where
  windowX : Option Single
  windowY : Option Single
  windowW : Option Single
  windowH : Option Single
  serverUrl : String
  sessionId : Option String
  /-- Whether onboarding has a step that builds the consensus. -/
  consensusBuilder : Bool
  startScreen : Screen
deriving DecidableEq

namespace Settings

/-- The settings of a first run. -/
def default : Settings where
  windowX := none
  windowY := none
  windowW := none
  windowH := none
  serverUrl := "http://localhost:4300"
  sessionId := none
  consensusBuilder := true
  startScreen := .bootstrapper

/-- The screen that the server renders after a form was submitted. Only the end of bootstrapping can
lead to another step of onboarding; all else leads to the wallet, on the page of the history that
was shown before. -/
def screenAfter (s : Settings) (form : String) (current : Option Screen) : Screen :=
  if form = FormName.refreshBootstrapper ∧ s.consensusBuilder then .consensusBuilder
  else .wallet (Screen.lastPage current)

/-- Equality of optional numbers by value: no number equals itself if it is none. -/
def sameSize : Option Single → Option Single → Bool
  | none, none => true
  | some a, some b => a.same b
  | _, _ => false

/-- Equality of settings, with numbers compared by value. -/
def same (a b : Settings) : Bool :=
  sameSize a.windowX b.windowX && sameSize a.windowY b.windowY
    && sameSize a.windowW b.windowW && sameSize a.windowH b.windowH
    && a.serverUrl == b.serverUrl && a.sessionId == b.sessionId
    && a.consensusBuilder == b.consensusBuilder && a.startScreen == b.startScreen

end Settings

end WalletWatch
