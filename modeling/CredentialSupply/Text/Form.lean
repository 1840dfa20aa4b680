import CredentialSupply.Text.Digits
import CredentialSupply.Text.Utf8

set_option autoImplicit false

/-!
# Form bodies

The encoding of `application/x-www-form-urlencoded`: letters, digits and `*-._` stand for
themselves, a space is written as a plus sign, and every other byte of the UTF-8 form by a
percent sign and two upper-case hexadecimal digits. Pairs are joined by `=` and `&`.
-/

namespace CredentialSupply.Form

/-- Bytes that stand for themselves. -/
def isPlain (b : UInt8) : Bool :=
  let c := Char.ofNat b.toNat
  Text.isLetter c || Text.isDigit c || c == '*' || c == '-' || c == '.' || c == '_'

/-- A byte by its number. -/
def percent (b : UInt8) : List Char :=
  ['%', Text.upperHexDigit (b.toNat / 16), Text.upperHexDigit (b.toNat % 16)]

/-- A byte as it stands in a form body. -/
def encodeByte (b : UInt8) : List Char :=
  if isPlain b then [Char.ofNat b.toNat]
  else if b = 0x20 then ['+']
  else percent b

/-- A name or value as it stands in a form body. -/
def encodeText (text : String) : String :=
  String.ofList ((Utf8.encode text).flatMap encodeByte)

/-- The body for a list of named values. -/
def encode (pairs : List (String × String)) : String :=
  "&".intercalate (pairs.map fun (name, value) => encodeText name ++ "=" ++ encodeText value)

end CredentialSupply.Form
