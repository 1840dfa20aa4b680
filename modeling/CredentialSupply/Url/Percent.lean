import CredentialSupply.Text.Digits
import CredentialSupply.Text.Utf8

set_option autoImplicit false

/-!
# Percent encoding in addresses

Each part of an address has a set of characters that it must not hold as they are; they
and all characters outside ASCII are written as the bytes of their UTF-8 form, a percent
sign and two upper-case hexadecimal digits each. `decode` undoes the writing on bytes.
-/

namespace CredentialSupply.Url.Percent

/-- Control characters of ASCII. -/
def isControl (c : Char) : Bool := c.toNat < 0x20 || c.toNat == 0x7F

/-- Characters that a fragment must not hold. -/
def inFragment (c : Char) : Bool := isControl c || " \"<>`".toList.contains c

/-- Characters that a query must not hold. -/
def inQuery (c : Char) : Bool := isControl c || " \"#<>".toList.contains c

/-- Characters that the query of a special scheme must not hold. -/
def inSpecialQuery (c : Char) : Bool := inQuery c || c == '\''

/-- Characters that a path must not hold. -/
def inPath (c : Char) : Bool := inFragment c || "#?\x7b\x7d".toList.contains c

/-- Characters that a user name or a password must not hold. -/
def inUserInfo (c : Char) : Bool := inPath c || "/:;=@[\\]^|".toList.contains c

/-- A byte by its number. -/
def byte (b : UInt8) : List Char :=
  ['%', Text.upperHexDigit (b.toNat / 16), Text.upperHexDigit (b.toNat % 16)]

/-- A character, by its bytes when it is outside ASCII or in the given set. -/
def encodeChar (avoid : Char → Bool) (c : Char) : List Char :=
  if c.toNat < 0x80 && !avoid c then [c] else (Utf8.encodeChar c).flatMap byte

/-- Text without the characters of the given set. -/
def encode (avoid : Char → Bool) (cs : List Char) : String :=
  String.ofList (cs.flatMap (encodeChar avoid))

/-- The bytes that the bytes of a text stand for. -/
def decode : List UInt8 → List UInt8
  | b :: high :: low :: tail =>
      if b = 0x25 then
        match Text.hexValue? (Char.ofNat high.toNat), Text.hexValue? (Char.ofNat low.toNat) with
        | some h, some l => (h * 16 + l).toUInt8 :: decode tail
        | _, _ => b :: decode (high :: low :: tail)
      else b :: decode (high :: low :: tail)
  | rest => rest

end CredentialSupply.Url.Percent
