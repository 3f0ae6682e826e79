/-!
# Screens

The layouts that the server renders: two steps of onboarding, and the wallet, whose history of
transactions shows its last page or an earlier one.
-/

namespace WalletWatch

/-- What the server shows. -/
inductive Screen
  | bootstrapper
  | consensusBuilder
  | wallet (lastPage : Bool)
deriving DecidableEq, Repr

namespace Screen

def title : Screen → String
  | bootstrapper => "Bootstrapping"
  | consensusBuilder => "Building Consensus"
  | wallet _ => "Wallet"

/-- How a screen is named in the journal. -/
def describe : Screen → String
  | bootstrapper => "Bootstrapper"
  | consensusBuilder => "ConsensusBuilder"
  | wallet true => "Wallet \x7b last_page: true \x7d"
  | wallet false => "Wallet \x7b last_page: false \x7d"

/-- Whether a screen other than the wallet, or a wallet on its last page, is shown. -/
def lastPage : Option Screen → Bool
  | some (wallet lastPage) => lastPage
  | _ => true

end Screen

end WalletWatch
