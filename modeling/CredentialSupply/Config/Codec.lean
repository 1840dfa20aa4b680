import CredentialSupply.Config.Basic
import CredentialSupply.Json.Reader
import CredentialSupply.Json.Shape

set_option autoImplicit false

/-!
# Configurations as JSON

A configuration is written as an object with one member for each option. In reading, an
option that is not given has the value that `Config.unset` has for it.
-/

namespace CredentialSupply

/-- A refresh mode by its name. -/
def RefreshMode.ofJson? (j : Json) : Option RefreshMode := j.caseName?.bind RefreshMode.ofName?

namespace Config

/-- The names of the options in order. -/
def memberNames : List String :=
  ["name", "cached", "time_to_live", "min_time_to_live", "refresh_timeout", "preemptive_refresh",
   "preemptive_window", "refresh_mode", "rate_limited", "bucket_size", "refill_tokens",
   "refill_period", "retrying", "outage_cached", "outage_time_to_live", "health"]

/-- The values of the options in order. -/
def memberValues (c : Config) : List Json :=
  [.text c.name, .bool c.cached, .ofSpan c.timeToLive, .ofSpan c.buffer, .ofSpan c.refreshTimeout,
   .bool c.preemptive, .ofSpan c.window, .text c.mode.name, .bool c.rateLimited,
   .nat c.bucketSize.toNat, .nat c.refillTokens.toNat, .ofSpan c.refillPeriod, .bool c.retrying,
   .bool c.outageCached, .ofSpan c.outageTimeToLive, .bool c.health]

/-- The options as an object. -/
def toJson (c : Config) : Json := .record (memberNames.zip c.memberValues)

/-- What is read for the options that a document does not give: of some types the empty value,
and of the others a value of the option's own. -/
def unset : Config where
  name := "default"
  cached := true
  timeToLive := Span.ofSeconds 3600
  buffer := Span.zero
  refreshTimeout := Span.ofSeconds 15
  preemptive := false
  window := Span.ofSeconds 30
  mode := .lazy
  rateLimited := false
  bucketSize := 10
  refillTokens := 1
  refillPeriod := Span.ofSeconds 60
  retrying := false
  outageCached := false
  outageTimeToLive := Span.ofSeconds 36000
  health := false

/-- The options given by the slots of all members. -/
def ofSlots? : List Json.Slot → Option Config
  | [name, cached, timeToLive, buffer, refreshTimeout, preemptive, window, mode, rateLimited,
      bucketSize, refillTokens, refillPeriod, retrying, outageCached, outageTimeToLive,
      health] => do
      let name ← name.orDefault? unset.name Json.text?
      let cached ← cached.orDefault? unset.cached Json.bool?
      let timeToLive ← timeToLive.orDefault? unset.timeToLive Json.span?
      let buffer ← buffer.orDefault? unset.buffer Json.span?
      let refreshTimeout ← refreshTimeout.orDefault? unset.refreshTimeout Json.span?
      let preemptive ← preemptive.orDefault? unset.preemptive Json.bool?
      let window ← window.orDefault? unset.window Json.span?
      let mode ← mode.orDefault? unset.mode RefreshMode.ofJson?
      let rateLimited ← rateLimited.orDefault? unset.rateLimited Json.bool?
      let bucketSize ← bucketSize.orDefault? unset.bucketSize Json.uint32?
      let refillTokens ← refillTokens.orDefault? unset.refillTokens Json.uint32?
      let refillPeriod ← refillPeriod.orDefault? unset.refillPeriod Json.span?
      let retrying ← retrying.orDefault? unset.retrying Json.bool?
      let outageCached ← outageCached.orDefault? unset.outageCached Json.bool?
      let outageTimeToLive ← outageTimeToLive.orDefault? unset.outageTimeToLive Json.span?
      let health ← health.orDefault? unset.health Json.bool?
      return { name, cached, timeToLive, buffer, refreshTimeout, preemptive, window, mode,
               rateLimited, bucketSize, refillTokens, refillPeriod, retrying, outageCached,
               outageTimeToLive, health }
  | _ => none

/-- The options in a document. -/
def ofJson? (j : Json) : Option Config := (j.slots? memberNames).bind ofSlots?

/-- The options in a text. -/
def read (text : String) : Except Failure Config :=
  match (Json.read text).bind ofJson? with
  | some c => .ok c
  | none => .error .malformed

end Config

end CredentialSupply
