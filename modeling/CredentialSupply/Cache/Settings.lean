import CredentialSupply.Cache.Entry
import CredentialSupply.Failure

set_option autoImplicit false

/-!
# Settings of a cache

How long values stay, how long a caller waits for another caller's refresh, and, for a cache
that refreshes early, how long before expiry and whether it needs traffic to do so.
-/

namespace CredentialSupply

/-- When a refresh before expiry starts: on a lookup in the window, or also by a timer. -/
inductive RefreshMode where
  | lazy
  | eager
  deriving DecidableEq

namespace RefreshMode

/-- The mode by name. -/
def name : RefreshMode → String
  | .lazy => "lazy"
  | .eager => "eager"

/-- The mode with the given name. -/
def ofName? (name : String) : Option RefreshMode :=
  if name = "lazy" then some .lazy else if name = "eager" then some .eager else none

theorem ofName?_name (m : RefreshMode) : ofName? m.name = some m := by
  cases m <;> rfl

/-- The mode as a word in descriptions. -/
def text : RefreshMode → String
  | .lazy => "Lazy"
  | .eager => "Eager"

end RefreshMode

/-- The settings of a cache. -/
structure CacheSettings where
  lifetime : Lifetime
  refreshTimeout : Span
  deriving DecidableEq

namespace CacheSettings

/-- Checks that values stay at all and that callers wait at all. -/
def validate (s : CacheSettings) : Except Failure Unit :=
  if s.lifetime.timeToLive.isZero then
    .error (.configuration "time_to_live" "Must be greater than zero.")
  else if s.refreshTimeout.isZero then
    .error (.configuration "refresh_timeout" "Must be greater than zero.")
  else .ok ()

/-- The settings in words. -/
def text (s : CacheSettings) : String :=
  Text.record "CacheSettings"
    [("lifetime", Text.record "CacheLifetime"
        [("time_to_live", s.lifetime.timeToLive.text),
         ("min_time_to_live", s.lifetime.buffer.text)]),
     ("refresh_timeout", s.refreshTimeout.text)]

end CacheSettings

/-- Checks the window of a cache that refreshes early against its time to live. -/
def validateWindow (window timeToLive : Span) : Except Failure Unit :=
  if window.isZero then .error (.configuration "preemptive_window" "Must be greater than zero.")
  else if timeToLive.nanos ≤ window.nanos then
    .error (.configuration "preemptive_window" "Must be less than time_to_live.")
  else .ok ()

/-- Checks the time to live of stored values for outages. -/
def validateOutage (timeToLive : Span) : Except Failure Unit :=
  if timeToLive.isZero then
    .error (.configuration "outage_time_to_live" "Must be greater than zero.")
  else .ok ()

end CredentialSupply
