import CredentialSupply.Time.Span

set_option autoImplicit false

/-!
# Instants of a monotonic clock

An `Instant` counts nanoseconds from the origin of the clock and may lie before it. The
clock represents an instant when its whole seconds fit a signed 64-bit number; `later?` and
`earlier?` move an instant by a span and answer none when the result is not
representable. `since` is the time between two instants, zero when the first is earlier.
-/

namespace CredentialSupply

/-- Nanoseconds since the clock's origin. -/
@[ext] structure Instant where
  nanos : Int
  deriving DecidableEq

namespace Instant

/-- The clock's origin. -/
def origin : Instant := ⟨0⟩

instance : LE Instant := ⟨fun s t => s.nanos ≤ t.nanos⟩

instance : LT Instant := ⟨fun s t => s.nanos < t.nanos⟩

theorem le_def {s t : Instant} : s ≤ t ↔ s.nanos ≤ t.nanos := Iff.rfl

theorem lt_def {s t : Instant} : s < t ↔ s.nanos < t.nanos := Iff.rfl

instance (s t : Instant) : Decidable (s ≤ t) := inferInstanceAs (Decidable (s.nanos ≤ t.nanos))

instance (s t : Instant) : Decidable (s < t) := inferInstanceAs (Decidable (s.nanos < t.nanos))

/-- The earlier of two instants. -/
def earliest (s t : Instant) : Instant := if s ≤ t then s else t

/-- The later of two instants. -/
def latest (s t : Instant) : Instant := if s ≤ t then t else s

/-- Nanoseconds in `2 ^ 63` seconds. -/
def reach : Nat := Nat.pow 2 63 * nanosPerSecond

/-- The clock represents instants whose seconds have 64 bits with a sign. -/
def Representable (t : Instant) : Prop := -(reach : Int) ≤ t.nanos ∧ t.nanos < (reach : Int)

instance (t : Instant) : Decidable t.Representable :=
  inferInstanceAs (Decidable (_ ∧ _))

/-- `t` if the clock represents it. -/
def represented? (t : Instant) : Option Instant := if t.Representable then some t else none

/-- The instant `span` after `t`. -/
def later? (t : Instant) (span : Span) : Option Instant :=
  represented? ⟨t.nanos + span.nanos⟩

/-- The instant `span` before `t`. -/
def earlier? (t : Instant) (span : Span) : Option Instant :=
  represented? ⟨t.nanos - span.nanos⟩

/-- Nanoseconds from `s` up to `t`; zero when `t` is the earlier one. -/
def since (t s : Instant) : Nat := (t.nanos - s.nanos).toNat

/-- The first whole millisecond at or after `t`. -/
def ceilMilli (t : Instant) : Instant :=
  ⟨-(Int.fdiv (-t.nanos) nanosPerMilli * nanosPerMilli)⟩

/-- Whole milliseconds since the origin. -/
def millis (t : Instant) : Int := Int.fdiv t.nanos nanosPerMilli

theorem later?_eq_some {t u : Instant} {span : Span} (h : t.later? span = some u) :
    u.nanos = t.nanos + span.nanos := by
  unfold later? represented? at h
  split at h
  · cases h; rfl
  · cases h

theorem earlier?_eq_some {t u : Instant} {span : Span} (h : t.earlier? span = some u) :
    u.nanos = t.nanos - span.nanos := by
  unfold earlier? represented? at h
  split at h
  · cases h; rfl
  · cases h

end Instant

end CredentialSupply
