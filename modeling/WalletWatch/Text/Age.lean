/-!
# Ages

How long ago something was, in the largest unit that fits, rounded down.
-/

namespace WalletWatch.Text

/-- The text for an age in seconds. What lies in the future, or less than two seconds back, is just
now. -/
def age (seconds : Int) : String :=
  if seconds < 2 then "just now"
  else if seconds < 60 then toString seconds ++ "s ago"
  else if seconds < 3600 then toString (seconds / 60) ++ "m ago"
  else toString (seconds / 3600) ++ "h ago"

end WalletWatch.Text
