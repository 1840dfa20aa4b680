import CredentialSupply.Text.Digits

set_option autoImplicit false

/-!
# Spans of time

A `Span` is a length of time in whole nanoseconds whose seconds fit 64 bits. `ofParts?`
carries excess nanoseconds into the seconds and refuses what does not fit, and
`ofParts?_seconds_subsecond` says that it reads back what `seconds` and `subsecond` show.
`text` writes a span in its largest unit.
-/

namespace CredentialSupply

/-- Nanoseconds in a second. -/
abbrev nanosPerSecond : Nat := 1000000000

/-- Nanoseconds in a millisecond. -/
abbrev nanosPerMilli : Nat := 1000000

/-- Nanoseconds in `2 ^ 64` seconds. -/
abbrev spanLimit : Nat := Nat.pow 2 64 * nanosPerSecond

/-- A length of time: whole nanoseconds, with seconds below `2 ^ 64`. -/
@[ext] structure Span where
  nanos : Nat
  fits : nanos < spanLimit
  deriving DecidableEq

namespace Span

/-- The empty span. -/
def zero : Span := ⟨0, by decide⟩

/-- `n` seconds. -/
def ofSeconds (n : UInt64) : Span :=
  ⟨n.toNat * nanosPerSecond, Nat.mul_lt_mul_of_pos_right n.toNat_lt (by decide)⟩

/-- `n` milliseconds. -/
def ofMillis (n : UInt64) : Span :=
  ⟨n.toNat * nanosPerMilli,
    Nat.lt_trans (Nat.mul_lt_mul_of_pos_right n.toNat_lt (by decide))
      (Nat.mul_lt_mul_of_pos_left (by decide) (by decide))⟩

/-- Seconds plus nanoseconds; none when the seconds, with the carry, exceed 64 bits. -/
def ofParts? (seconds nanos : Nat) : Option Span :=
  if h : seconds * nanosPerSecond + nanos < spanLimit then some ⟨_, h⟩ else none

/-- Whole seconds. -/
def seconds (s : Span) : Nat := s.nanos / nanosPerSecond

/-- Nanoseconds beyond the whole seconds. -/
def subsecond (s : Span) : Nat := s.nanos % nanosPerSecond

/-- Whether the span is empty. -/
def isZero (s : Span) : Bool := s.nanos == 0

theorem isZero_iff (s : Span) : s.isZero = true ↔ s.nanos = 0 := by
  simp [isZero]

theorem seconds_add_subsecond (s : Span) :
    s.seconds * nanosPerSecond + s.subsecond = s.nanos := by
  unfold seconds subsecond
  rw [Nat.mul_comm]
  exact Nat.div_add_mod _ _

theorem ofParts?_seconds_subsecond (s : Span) : ofParts? s.seconds s.subsecond = some s := by
  have h := s.seconds_add_subsecond
  unfold ofParts?
  rw [dif_pos (h ▸ s.fits)]
  exact congrArg some (Span.ext h)

theorem seconds_lt (s : Span) : s.seconds < Nat.pow 2 64 :=
  Nat.div_lt_of_lt_mul (by rw [Nat.mul_comm]; exact s.fits)

theorem subsecond_lt (s : Span) : s.subsecond < nanosPerSecond :=
  Nat.mod_lt _ (by decide)

/-! ## Text -/

/-- `whole` and, when it is not zero, the fraction `part / 10 ^ places` without trailing
zeros. -/
def fractionText (whole part places : Nat) : String :=
  if part = 0 then Text.decimal whole
  else
    let digits := (Text.padded places (Text.decimal part)).toList
    Text.decimal whole ++ "." ++
      String.ofList (digits.reverse.dropWhile (· == '0')).reverse

/-- The span in the largest of the units second, millisecond, microsecond and nanosecond
whose count is not zero. -/
def text (s : Span) : String :=
  if s.nanos ≥ nanosPerSecond then fractionText s.seconds s.subsecond 9 ++ "s"
  else if s.nanos ≥ 1000000 then fractionText (s.nanos / 1000000) (s.nanos % 1000000) 6 ++ "ms"
  else if s.nanos ≥ 1000 then fractionText (s.nanos / 1000) (s.nanos % 1000) 3 ++ "µs"
  else Text.decimal s.nanos ++ "ns"

end Span

end CredentialSupply
