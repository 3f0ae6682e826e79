import WalletWatch.Binary.Format
/-!
# Arithmetic of binary numbers

Each operation on finite numbers is the exact result, rounded once. The geometry of a window needs
differences, halves and one comparison; reading a decimal needs products and quotients of positive
numbers.
-/

namespace WalletWatch.Binary.Number

variable {f : Format}

/-- A finite number as a fraction with a sign in its numerator. -/
def fraction (negative : Bool) (significand : Nat) (exponent : Int) : Int × Nat :=
  let q := quotient significand exponent
  (if negative then -(q.1 : Int) else q.1, q.2)

/-- The number nearest to a fraction that is not zero. -/
def ofFraction (f : Format) (num : Int) (den : Nat) : Number f :=
  ofRatio f (num < 0) num.natAbs den

def neg : Number f → Number f
  | .finite negative significand exponent h => .finite (!negative) significand exponent h
  | .infinite negative => .infinite (!negative)
  | .nan => .nan

/-- The difference. Equal numbers leave the positive zero; so only a negative zero without a
positive zero leaves a negative zero. -/
def sub : Number f → Number f → Number f
  | .finite n₁ m₁ e₁ _, .finite n₂ m₂ e₂ _ =>
    let a := fraction n₁ m₁ e₁
    let b := fraction n₂ m₂ e₂
    let num := a.1 * b.2 - b.1 * a.2
    if num = 0 then zero f (n₁ && !n₂ && m₁ == 0) else ofFraction f num (a.2 * b.2)
  | .nan, _ => .nan
  | _, .nan => .nan
  | .infinite n₁, .infinite n₂ => if n₁ = n₂ then .nan else .infinite n₁
  | .infinite n₁, .finite .. => .infinite n₁
  | .finite .., .infinite n₂ => .infinite (!n₂)

def add (a b : Number f) : Number f := a.sub b.neg

def half : Number f → Number f
  | .finite negative m e _ => ofRatio f negative (quotient m e).1 (2 * (quotient m e).2)
  | .infinite negative => .infinite negative
  | .nan => .nan

def exceedsOne : Number f → Bool
  | .finite negative m e _ => !negative && (quotient m e).2 < (quotient m e).1
  | .infinite negative => !negative
  | .nan => false

/-- The product of two numbers without regard to signs; both are finite where it is used. -/
def product : Number f → Number f → Number f
  | .finite _ m₁ e₁ _, .finite _ m₂ e₂ _ =>
    let a := quotient m₁ e₁
    let b := quotient m₂ e₂
    ofRatio f false (a.1 * b.1) (a.2 * b.2)
  | .infinite _, .finite _ m _ _ => if m = 0 then .nan else .infinite false
  | .finite _ m _ _, .infinite _ => if m = 0 then .nan else .infinite false
  | .infinite _, .infinite _ => .infinite false
  | _, _ => .nan

/-- The quotient of two numbers without regard to signs; the second is finite and not zero where it
is used. -/
def ratio : Number f → Number f → Number f
  | .finite _ m₁ e₁ _, .finite _ m₂ e₂ _ =>
    let a := quotient m₁ e₁
    let b := quotient m₂ e₂
    if m₂ = 0 then (if m₁ = 0 then .nan else .infinite false)
    else ofRatio f false (a.1 * b.2) (a.2 * b.1)
  | .infinite _, .finite .. => .infinite false
  | .finite .., .infinite _ => zero f false
  | _, _ => .nan

end WalletWatch.Binary.Number
