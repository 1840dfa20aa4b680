import CredentialSupply.Text.Digits

set_option autoImplicit false

/-!
# Binary floating point with 53 significant bits

Non-negative binary64 numbers are represented by the rational numbers they stand for.
`nearest` rounds a rational number to the nearest one with a significand of 53 bits, a tie
to the even significand, and each arithmetic operation is the exact one followed by
`nearest`. The quantities computed here lie between `2 ^ -200` and `2 ^ 1024`, so neither
subnormal numbers nor infinities arise, and `nearest` has no case for them.
`bits` gives the IEEE 754 interchange encoding.
-/

namespace CredentialSupply.Binary64

/-- `num / den` rounded to the nearest natural number, a tie to the even one. -/
def roundDiv (num den : Nat) : Nat :=
  let quotient := num / den
  let rest := num % den
  if 2 * rest < den then quotient
  else if den < 2 * rest then quotient + 1
  else quotient + quotient % 2

/-- `num / (den * 2 ^ shift)` rounded to a natural number. -/
def roundScaled (num den : Nat) : Int → Nat
  | .ofNat shift => roundDiv num (den * Nat.pow 2 shift)
  | .negSucc shift => roundDiv (num * Nat.pow 2 (shift + 1)) den

/-- `significand * 2 ^ shift`. -/
def scaled (significand : Nat) : Int → Rat
  | .ofNat shift => ((significand * Nat.pow 2 shift : Nat) : Rat)
  | .negSucc shift => mkRat significand (Nat.pow 2 (shift + 1))

/-- Whether `num / den` is at least `2 ^ shift`. -/
def reaches (num den : Nat) : Int → Bool
  | .ofNat shift => den * Nat.pow 2 shift ≤ num
  | .negSucc shift => den ≤ num * Nat.pow 2 (shift + 1)

/-- The place value of the last of 53 significant bits of `num / den`, as a power of two:
the quotient lies between `2 ^ (lastPlace + 52)` and `2 ^ (lastPlace + 53)`. -/
def lastPlace (num den : Nat) : Int :=
  let top : Int := (num.log2 : Int) - (den.log2 : Int)
  if reaches num den top then top - 52 else top - 53

/-- Significand and place value of the 53-bit number nearest to a positive `q`. -/
def decompose (q : Rat) : Nat × Int :=
  let place := lastPlace q.num.toNat q.den
  let significand := roundScaled q.num.toNat q.den place
  if significand = Nat.pow 2 53 then (Nat.pow 2 52, place + 1) else (significand, place)

/-- The 53-bit number nearest to `q`; zero when `q` is not positive. -/
def nearest (q : Rat) : Rat :=
  if q.num ≤ 0 then 0
  else
    let place := lastPlace q.num.toNat q.den
    scaled (roundScaled q.num.toNat q.den place) place

/-- The floating-point number nearest to a natural number. -/
def ofNat (n : Nat) : Rat := nearest (n : Rat)

/-- Rounded sum. -/
def add (a b : Rat) : Rat := nearest (a + b)

/-- Rounded difference, for `b ≤ a`. -/
def sub (a b : Rat) : Rat := nearest (a - b)

/-- Rounded product. -/
def mul (a b : Rat) : Rat := nearest (a * b)

/-- Rounded quotient, for a positive `b`. -/
def div (a b : Rat) : Rat := nearest (a / b)

/-- The interchange encoding of a non-negative number with 53 significant bits. -/
def bits (q : Rat) : Nat :=
  if q.num ≤ 0 then 0
  else
    let (significand, place) := decompose q
    -- the exponent is that of the leading bit, 52 places up, with a bias of 1023
    (place + 1075).toNat * Nat.pow 2 52 + (significand - Nat.pow 2 52)

/-- The encoding as sixteen hexadecimal digits. -/
def bitText (q : Rat) : String := Text.padded 16 (Text.hexadecimal (bits q))

end CredentialSupply.Binary64
