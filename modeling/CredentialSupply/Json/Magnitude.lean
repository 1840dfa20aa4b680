import CredentialSupply.Json.Value
import CredentialSupply.Number.Binary64

set_option autoImplicit false

/-!
# Magnitude of numbers

Which numerals have a finite value when they are read as floating-point numbers. The value is
the product of two numbers that are rounded first: the significand, of which as many digits
count as fit into 64 bits, and a power of ten. So a numeral just below the limit can be too
large, and one just above it finite.
-/

namespace CredentialSupply.Numeral

/-- Appends digits to a significand while it fits into 64 bits; also gives the digits from the
first one that does not fit. -/
def extend (significand : Nat) : List Char → Nat × List Char
  | [] => (significand, [])
  | c :: rest =>
      let longer := significand * 10 + Text.digitValue c
      if longer < Nat.pow 2 64 then extend longer rest else (significand, c :: rest)

/-- The significand, and the power of ten by which to multiply it. A digit of the whole part
that does not fit still counts for the power, as do those that follow it; the digits after the
point are tried again up to the first one that does not fit. -/
def scientific (n : Numeral) : Nat × Int :=
  let fraction := n.fraction.getD []
  let (whole, beyond) := extend 0 (Text.decimal n.whole).toList
  let (significand, ignored) := extend whole fraction
  (significand,
    n.exponent.getD 0 + beyond.length - ((fraction.length - ignored.length : Nat) : Int))

/-- Least product that is rounded to infinity. -/
def overflowLimit : Nat := Nat.pow 2 1024 - Nat.pow 2 970

/-- Whether the number is finite in binary floating point. No power of ten above `10 ^ 308` is,
and no product with a negative power can be too large. -/
def isFinite (n : Numeral) : Bool :=
  let (significand, power) := n.scientific
  significand = 0 || power < 0 ||
    (power ≤ 308 &&
      Binary64.ofNat significand * Binary64.ofNat (Nat.pow 10 power.toNat) < overflowLimit)

end CredentialSupply.Numeral
