import CredentialSupply.Metrics.Event
import CredentialSupply.Number.Binary64

set_option autoImplicit false

/-!
# Counts of a chain

A `Tally` counts the events of one chain. A `Snapshot` shows the counts as they fit 64 bits
and the microseconds of the last refresh, none when that was no whole microsecond or there
was no refresh. `Snapshot.hitRate` is the share of lookups answered from the cache.
-/

namespace CredentialSupply

/-- Counts of events, and the microseconds of the last refresh. -/
structure Tally where
  requests : Nat
  hits : Nat
  refreshes : Nat
  refreshErrors : Nat
  outageServes : Nat
  rateLimited : Nat
  retries : Nat
  lastRefreshMicros : Nat
  deriving DecidableEq

namespace Tally

/-- Nothing counted yet. -/
def empty : Tally := ⟨0, 0, 0, 0, 0, 0, 0, 0⟩

/-- The counts after one more event. -/
def record (t : Tally) : Event → Tally
  | .hit => { t with requests := t.requests + 1, hits := t.hits + 1 }
  | .miss => { t with requests := t.requests + 1 }
  | .refreshed took => { t with refreshes := t.refreshes + 1, lastRefreshMicros := took / 1000 }
  | .refreshFailed => { t with refreshErrors := t.refreshErrors + 1 }
  | .outageServed => { t with outageServes := t.outageServes + 1 }
  | .rateLimited => { t with rateLimited := t.rateLimited + 1 }
  | .retried => { t with retries := t.retries + 1 }

end Tally

/-- The counts of a chain as reported. -/
structure Snapshot where
  totalRequests : UInt64
  cacheHits : UInt64
  refreshSuccesses : UInt64
  refreshErrors : UInt64
  outageServes : UInt64
  rateLimited : UInt64
  retries : UInt64
  lastRefreshMicros : Option UInt64
  deriving DecidableEq

/-- The counts as reported: each modulo `2 ^ 64`. -/
def Tally.snapshot (t : Tally) : Snapshot where
  totalRequests := t.requests.toUInt64
  cacheHits := t.hits.toUInt64
  refreshSuccesses := t.refreshes.toUInt64
  refreshErrors := t.refreshErrors.toUInt64
  outageServes := t.outageServes.toUInt64
  rateLimited := t.rateLimited.toUInt64
  retries := t.retries.toUInt64
  lastRefreshMicros :=
    if t.lastRefreshMicros.toUInt64 = 0 then none else some t.lastRefreshMicros.toUInt64

/-- Share of lookups answered from the cache, in floating point; zero without lookups. -/
def Snapshot.hitRate (s : Snapshot) : Rat :=
  if s.totalRequests = 0 then 0
  else Binary64.div (Binary64.ofNat s.cacheHits.toNat) (Binary64.ofNat s.totalRequests.toNat)

end CredentialSupply
