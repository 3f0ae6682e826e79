import WalletWatch.Http.Percent
import WalletWatch.Text.Cut
/-!
# Form bodies

The body of a request with a form, in the encoding `application/x-www-form-urlencoded`: fields are
joined by `&`, a name and its value by `=`. In both, letters, digits and `*-._` stand for
themselves, a space is written `+`, and all other bytes of the UTF-8 text are percent-encoded.
`decode?` reads a body back into its fields.
-/

namespace WalletWatch.Http.FormBody

def contentType : String := "application/x-www-form-urlencoded"

/-! ## Writing -/

def isPlain (b : UInt8) : Bool :=
  (0x30 ≤ b && b ≤ 0x39) || (0x41 ≤ b && b ≤ 0x5A) || (0x61 ≤ b && b ≤ 0x7A)
    || b == 0x2A || b == 0x2D || b == 0x2E || b == 0x5F

/-- One byte of a name or a value. -/
def encodeByte (b : UInt8) : List Char :=
  if isPlain b then [Char.ofNat b.toNat]
  else if b = 0x20 then ['+']
  else percentByte b

/-- A name or a value. -/
def encodeText (s : String) : List Char :=
  s.toList.flatMap fun c => (String.utf8EncodeChar c).flatMap encodeByte

def encodeField (field : String × String) : List Char :=
  encodeText field.1 ++ '=' :: encodeText field.2

def encode (fields : List (String × String)) : String :=
  String.ofList (List.intercalate ['&'] (fields.map encodeField))

/-! ## Reading -/

/-- The bytes that a name or a value stands for; only ASCII characters can stand in it. -/
def decodeBytes : List Char → Option (List UInt8)
  | [] => some []
  | '+' :: rest => (decodeBytes rest).map (0x20 :: ·)
  | '%' :: high :: low :: rest =>
    match Text.hexByte? high low with
    | some b => (decodeBytes rest).map (b :: ·)
    | none => none
  | c :: rest =>
    if c != '%' && c.toNat < 0x80 then (decodeBytes rest).map (UInt8.ofNat c.toNat :: ·) else none

/-- The text that a name or a value stands for. -/
def decodeText (cs : List Char) : Option String :=
  (decodeBytes cs).bind fun bytes => String.fromUTF8? ⟨bytes.toArray⟩

/-- Reads one field: a name, the sign `=`, and a value without that sign. -/
def decodeField (cs : List Char) : Option (String × String) :=
  match Text.pieces (· == '=') cs with
  | [name, value] => do return (← decodeText name, ← decodeText value)
  | _ => none

def decode? (body : String) : Option (List (String × String)) :=
  (Text.pieces (· == '&') body.toList).mapM decodeField

end WalletWatch.Http.FormBody
