import CredentialSupply.Cache.Basic
import CredentialSupply.Limit.TokenBucket

set_option autoImplicit false

/-!
# Layers

The layers of a stack stand in a list, innermost first, over the source. Levels count from
the source: a fetch at level 0 calls the source, and a fetch at level `i + 1` goes through
layer `i`, which fetches at level `i` when it needs to.
-/

namespace CredentialSupply

/-- Where a health query fetches when there is no good status on record. -/
inductive HealthTarget where
  | level (level : Nat)
  | source (index : Nat)
  | gone
  deriving DecidableEq

/-- The record of the calls through a layer: how many have ended, whether the last one to end
produced a value, and where to fetch for a better status. -/
structure HealthRecord where
  observed : Nat
  success : Option Bool
  target : Option HealthTarget
  deriving DecidableEq

namespace HealthRecord

/-- Nothing recorded and no target. -/
def blank : HealthRecord := ⟨0, none, none⟩

/-- The record after one more call. -/
def observe (h : HealthRecord) (success : Bool) : HealthRecord :=
  { h with observed := h.observed + 1, success := some success }

/-- Binds the target, unless one is bound. -/
def bind (h : HealthRecord) (target : HealthTarget) : Bool × HealthRecord :=
  match h.target with
  | some _ => (false, h)
  | none => (true, { h with target := some target })

/-- The status after a query that fetched when `seen` calls had ended: that of the last call
since, or good if the query was answered above the layer. -/
def statusSince (h : HealthRecord) (seen : Nat) : Bool :=
  if h.observed = seen then true else h.success.getD true

end HealthRecord

/-- A layer of a stack with its state: one retry of unavailable values, the last value kept
for outages, a limit on the rate of calls, a record of health, or a cache. -/
inductive Layer (V : Type) where
  | retry
  | outage (timeToLive : Span) (stored : Option (Entry V))
  | rateLimit (bucket : TokenBucket)
  | health (record : HealthRecord)
  | cache (cache : Cache V)

namespace Layer

variable {V : Type}

/-- The layer as a cache. -/
def cache? : Layer V → Option (Cache V)
  | .cache c => some c
  | _ => none

/-- The layer as a record of health. -/
def health? : Layer V → Option HealthRecord
  | .health h => some h
  | _ => none

/-- The layer as a token bucket. -/
def bucket? : Layer V → Option TokenBucket
  | .rateLimit b => some b
  | _ => none

/-- The layer with its cache changed, if it is one. -/
def mapCache (f : Cache V → Cache V) : Layer V → Layer V
  | .cache c => .cache (f c)
  | layer => layer

end Layer

end CredentialSupply
