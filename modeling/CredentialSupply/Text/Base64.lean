import CredentialSupply.Text.Utf8

set_option autoImplicit false

/-!
# Base 64

The standard alphabet with padding: three bytes become four characters, and a rest of one
or two bytes is filled up with `=`.
-/

namespace CredentialSupply.Base64

/-- The character for a six-bit value. -/
def symbol (n : Nat) : Char :=
  if n < 26 then Char.ofNat (0x41 + n)
  else if n < 52 then Char.ofNat (0x61 + (n - 26))
  else if n < 62 then Char.ofNat (0x30 + (n - 52))
  else if n = 62 then '+'
  else '/'

/-- The characters for a list of bytes. -/
def encode : List UInt8 → List Char
  | a :: b :: c :: rest =>
      let n := (a.toNat * 0x100 + b.toNat) * 0x100 + c.toNat
      symbol (n / 0x40000) :: symbol (n / 0x1000 % 0x40) :: symbol (n / 0x40 % 0x40) ::
        symbol (n % 0x40) :: encode rest
  | [a, b] =>
      let n := (a.toNat * 0x100 + b.toNat) * 4
      [symbol (n / 0x1000), symbol (n / 0x40 % 0x40), symbol (n % 0x40), '=']
  | [a] =>
      let n := a.toNat * 0x10
      [symbol (n / 0x40), symbol (n % 0x40), '=', '=']
  | [] => []

/-- The base 64 form of a text's UTF-8 bytes. -/
def encodeText (text : String) : String := String.ofList (encode (Utf8.encode text))

end CredentialSupply.Base64
