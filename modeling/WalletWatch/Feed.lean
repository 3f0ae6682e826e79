/-!
# Feeds

The five things that are polled on the wallet server, each at its own path. Two of them report how
far onboarding has come; three concern a wallet, and are asked for in the name of a session.
-/

namespace WalletWatch

/-- What is polled on the server. -/
inductive Feed
  | bootstrapper
  | consensusBuilder
  | blockHeight
  | balance
  | heartbeat
deriving DecidableEq, Repr

namespace Feed

/-- All feeds, in the order in which their loops are started. -/
def all : List Feed :=
  [bootstrapper, consensusBuilder, blockHeight, balance, heartbeat]

/-- Where a feed is found on the server. -/
def path : Feed → String
  | bootstrapper => "/gui/bootstrapperProgress"
  | consensusBuilder => "/gui/consensusBuilderProgress"
  | blockHeight => "/gui/blockHeight"
  | balance => "/gui/balance"
  | heartbeat => "/gui/heartbeat"

/-- Whether requests for a feed carry the id of the session. -/
def sessionScoped : Feed → Bool
  | bootstrapper | consensusBuilder => false
  | blockHeight | balance | heartbeat => true

def key : Feed → String
  | bootstrapper => "bootstrapper"
  | consensusBuilder => "consensus_builder"
  | blockHeight => "block_height"
  | balance => "balance"
  | heartbeat => "heartbeat"

def ofKey? (key : String) : Option Feed :=
  all.find? (·.key == key)

/-- The name of the loop that polls a feed. -/
def loopName : Feed → String
  | bootstrapper => "bootstrapper-progress"
  | consensusBuilder => "consensus-builder-progress"
  | blockHeight => "block_height"
  | balance => "balance"
  | heartbeat => "heartbeat"

theorem mem_all (f : Feed) : f ∈ all := by
  cases f <;> decide

end Feed

/-! ## One value for each feed -/

structure PerFeed (α : Type) where
  bootstrapper : α
  consensusBuilder : α
  blockHeight : α
  balance : α
  heartbeat : α
deriving DecidableEq, Repr

namespace PerFeed

variable {α : Type}

def const (a : α) : PerFeed α := ⟨a, a, a, a, a⟩

def get (p : PerFeed α) : Feed → α
  | .bootstrapper => p.bootstrapper
  | .consensusBuilder => p.consensusBuilder
  | .blockHeight => p.blockHeight
  | .balance => p.balance
  | .heartbeat => p.heartbeat

def set (p : PerFeed α) (f : Feed) (a : α) : PerFeed α :=
  match f with
  | .bootstrapper => { p with bootstrapper := a }
  | .consensusBuilder => { p with consensusBuilder := a }
  | .blockHeight => { p with blockHeight := a }
  | .balance => { p with balance := a }
  | .heartbeat => { p with heartbeat := a }

@[simp] theorem get_const (a : α) (f : Feed) : (const a).get f = a := by
  cases f <;> rfl

@[simp] theorem get_set_self (p : PerFeed α) (f : Feed) (a : α) : (p.set f a).get f = a := by
  cases f <;> rfl

@[simp] theorem get_set_of_ne (p : PerFeed α) {f g : Feed} (h : g ≠ f) (a : α) :
    (p.set f a).get g = p.get g := by
  cases f <;> cases g <;> simp_all [set, get]

@[ext] theorem ext_get {p q : PerFeed α} (h : ∀ f, p.get f = q.get f) : p = q := by
  cases p
  cases q
  simp only [mk.injEq]
  exact ⟨h .bootstrapper, h .consensusBuilder, h .blockHeight, h .balance, h .heartbeat⟩

end PerFeed

end WalletWatch
