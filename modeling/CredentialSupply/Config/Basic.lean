import CredentialSupply.Cache.Settings
import CredentialSupply.Limit.TokenBucket
import CredentialSupply.Text.Blank

set_option autoImplicit false

/-!
# Configuration of a chain

Which layers a chain has and how they are set. `Config.validate` refuses a blank name, zero
settings of the selected layers, layers that need a cache without one, and a window that does
not fit the time to live.
-/

namespace CredentialSupply

/-- The options of a chain. -/
structure Config where
  name : String
  cached : Bool
  timeToLive : Span
  buffer : Span
  refreshTimeout : Span
  preemptive : Bool
  window : Span
  mode : RefreshMode
  rateLimited : Bool
  bucketSize : UInt32
  refillTokens : UInt32
  refillPeriod : Span
  retrying : Bool
  outageCached : Bool
  outageTimeToLive : Span
  health : Bool
  deriving DecidableEq

namespace Config

/-- A cache that keeps values for an hour, and nothing else. -/
def standard : Config where
  name := "default"
  cached := true
  timeToLive := Span.ofSeconds 3600
  buffer := Span.zero
  refreshTimeout := Span.ofSeconds 15
  preemptive := false
  window := Span.ofSeconds 30
  mode := .lazy
  rateLimited := false
  bucketSize := 10
  refillTokens := 1
  refillPeriod := Span.ofSeconds 60
  retrying := false
  outageCached := false
  outageTimeToLive := Span.ofSeconds 36000
  health := false

/-- The standard options under a name. -/
def withName (name : String) : Config := { standard with name }

/-- The settings of the chain's cache. -/
def cacheSettings (c : Config) : CacheSettings := ⟨⟨c.timeToLive, c.buffer⟩, c.refreshTimeout⟩

/-- Checks what needs a cache, or the settings of the cache. -/
def validateCache (c : Config) : Except Failure Unit :=
  if c.cached then c.cacheSettings.validate
  else if c.rateLimited then
    .error (.configuration "rate_limited" "Rate limiting requires caching to be enabled.")
  else if c.preemptive then
    .error (.configuration "preemptive_refresh"
      "Preemptive refresh requires caching to be enabled.")
  else .ok ()

/-- Checks the options. -/
def validate (c : Config) : Except Failure Unit := do
  if Text.isBlankText c.name then .error (.configuration "name" "Must not be empty.")
  c.validateCache
  if c.preemptive && c.timeToLive.nanos ≤ c.window.nanos then
    .error (.configuration "preemptive_window" "Must be less than time_to_live.")
  if c.rateLimited then TokenBucket.validate c.bucketSize c.refillTokens c.refillPeriod
  if c.outageCached then validateOutage c.outageTimeToLive

/-! ## Changes -/

/-- A change of the options. -/
inductive Change where
  | restart (name : String)
  | name (name : String)
  | cached (timeToLive refreshTimeout : Span)
  | uncached
  | buffer (span : Span)
  | preemptive (window : Span) (mode : RefreshMode)
  | rateLimited (size tokens : UInt32) (period : Span)
  | retrying (on : Bool)
  | outageCached (timeToLive : Span)
  | health (on : Bool)

/-- The options after a change. Switching a layer on also sets it. -/
def change (c : Config) : Change → Config
  | .restart name => withName name
  | .name name => { c with name }
  | .cached timeToLive refreshTimeout => { c with cached := true, timeToLive, refreshTimeout }
  | .uncached => { c with cached := false }
  | .buffer buffer => { c with buffer }
  | .preemptive window mode => { c with preemptive := true, window, mode }
  | .rateLimited size tokens period =>
      { c with rateLimited := true, bucketSize := size, refillTokens := tokens,
               refillPeriod := period }
  | .retrying retrying => { c with retrying }
  | .outageCached outageTimeToLive => { c with outageCached := true, outageTimeToLive }
  | .health health => { c with health }

/-! ## Description -/

/-- The options in words. -/
def text (c : Config) : String :=
  Text.record "ChainConfig"
    [("name", Text.quoted c.name), ("cached", Text.truth c.cached),
     ("time_to_live", c.timeToLive.text), ("min_time_to_live", c.buffer.text),
     ("refresh_timeout", c.refreshTimeout.text), ("preemptive_refresh", Text.truth c.preemptive),
     ("preemptive_window", c.window.text), ("refresh_mode", c.mode.text),
     ("rate_limited", Text.truth c.rateLimited),
     ("bucket_size", Text.decimal c.bucketSize.toNat),
     ("refill_tokens", Text.decimal c.refillTokens.toNat),
     ("refill_period", c.refillPeriod.text), ("retrying", Text.truth c.retrying),
     ("outage_cached", Text.truth c.outageCached),
     ("outage_time_to_live", c.outageTimeToLive.text), ("health", Text.truth c.health)]

/-- A chain that is being configured, in words. -/
def builderText (c : Config) : String :=
  Text.partialRecord "ProviderChainBuilder" [("config", c.text)]

/-- A chain with the options, in words. -/
def chainText (c : Config) : String := Text.partialRecord "ProviderChain" [("config", c.text)]

end Config

end CredentialSupply
