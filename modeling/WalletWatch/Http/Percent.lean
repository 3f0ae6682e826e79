import WalletWatch.Text.Hex
/-!
# Percent encoding

A byte that may not stand for itself is written as a percent sign and two digits in upper case. A
character outside a set is encoded byte by byte in UTF-8. Decoding takes a percent sign without two
digits after it for itself.
-/

namespace WalletWatch.Http

/-- A byte as a percent sign and two digits. -/
def percentByte (b : UInt8) : List Char :=
  ['%', Text.hexUpper (b.toNat / 16), Text.hexUpper (b.toNat % 16)]

/-- A text with every character encoded that may not stand for itself. -/
def percentEncode (standsForItself : Char → Bool) (cs : List Char) : List Char :=
  cs.flatMap fun c =>
    if standsForItself c then [c] else (String.utf8EncodeChar c).flatMap percentByte

/-- The bytes that a text with encoded bytes stands for. -/
def percentDecode : List Char → List UInt8
  | [] => []
  | '%' :: high :: low :: rest =>
    match Text.hexByte? high low with
    | some b => b :: percentDecode rest
    | none => 0x25 :: percentDecode (high :: low :: rest)
  | c :: rest => String.utf8EncodeChar c ++ percentDecode rest
termination_by structural cs => cs

end WalletWatch.Http
