import CredentialSupply.Failure
import CredentialSupply.Json.Reader
import CredentialSupply.Json.Shape
import CredentialSupply.Metrics.Tally

set_option autoImplicit false

/-!
# Snapshots as JSON
-/

namespace CredentialSupply.Snapshot

/-- The names of the members. -/
def memberNames : List String :=
  ["total_requests", "cache_hits", "refresh_successes", "refresh_errors", "outage_serves",
   "rate_limited", "retries", "last_refresh_micros"]

/-- The snapshot as an object. -/
def toJson (s : Snapshot) : Json :=
  .record (memberNames.zip
    [.nat s.totalRequests.toNat, .nat s.cacheHits.toNat, .nat s.refreshSuccesses.toNat,
     .nat s.refreshErrors.toNat, .nat s.outageServes.toNat, .nat s.rateLimited.toNat,
     .nat s.retries.toNat,
     match s.lastRefreshMicros with
     | none => .null
     | some n => .nat n.toNat])

/-- The snapshot given by the slots of its members. -/
def ofSlots? : List Json.Slot → Option Snapshot
  | [totalRequests, cacheHits, refreshSuccesses, refreshErrors, outageServes, rateLimited, retries,
      lastRefreshMicros] => do
      let totalRequests ← totalRequests.required? Json.uint64?
      let cacheHits ← cacheHits.required? Json.uint64?
      let refreshSuccesses ← refreshSuccesses.required? Json.uint64?
      let refreshErrors ← refreshErrors.required? Json.uint64?
      let outageServes ← outageServes.required? Json.uint64?
      let rateLimited ← rateLimited.required? Json.uint64?
      let retries ← retries.required? Json.uint64?
      let lastRefreshMicros ← lastRefreshMicros.optional? Json.uint64?
      return { totalRequests, cacheHits, refreshSuccesses, refreshErrors, outageServes,
               rateLimited, retries, lastRefreshMicros }
  | _ => none

/-- The snapshot in a text. -/
def read (text : String) : Except Failure Snapshot :=
  match ((Json.read text).bind (·.slots? memberNames)).bind ofSlots? with
  | some s => .ok s
  | none => .error .malformed

end CredentialSupply.Snapshot
