import CredentialSupply.Time.Instant

set_option autoImplicit false

/-!
# Cache entries

An `Entry` is a value with the instants at which it was installed and at which it stops being
served. A `Lifetime` stamps fresh values: the time to live bounds the stay in the cache, and
a value with an expiry of its own leaves a safety buffer before that expiry. The stamp is
none when the clock cannot represent the end of the time to live.
-/

namespace CredentialSupply

/-- Values that may have an expiry of their own. -/
class Perishable (V : Type) where
  ownExpiry : V → Option Instant

/-- A value with the span of time in which it may be served. -/
structure Entry (V : Type) where
  value : V
  installedAt : Instant
  expiresAt : Instant

namespace Entry

variable {V : Type}

/-- Whether the entry may be served at `now`: up to and including its expiry. -/
def isValid (e : Entry V) (now : Instant) : Bool := now ≤ e.expiresAt

/-- Nanoseconds for which the entry is served in all; zero when it was installed expired. -/
def lifetime (e : Entry V) : Nat := e.expiresAt.since e.installedAt

end Entry

/-- How long fresh values stay in a cache. -/
structure Lifetime where
  timeToLive : Span
  buffer : Span
  deriving DecidableEq

namespace Lifetime

variable {V : Type} [Perishable V]

/-- The latest instant at which a value with its own expiry may be served: the buffer before
it, or the expiry itself when the clock does not reach back that far. -/
def buffered (l : Lifetime) (own : Instant) : Instant := (own.earlier? l.buffer).getD own

/-- Expiry of a value fetched at `now`. It lies before `now` for a value that expires within
the buffer. -/
def expiry? (l : Lifetime) (value : V) (now : Instant) : Option Instant :=
  (now.later? l.timeToLive).map fun deadline =>
    match Perishable.ownExpiry value with
    | none => deadline
    | some own => deadline.earliest (l.buffered own)

/-- The entry for a value fetched at `now`. -/
def entry? (l : Lifetime) (value : V) (now : Instant) : Option (Entry V) :=
  (l.expiry? value now).map fun expiresAt => ⟨value, now, expiresAt⟩

end Lifetime

end CredentialSupply
