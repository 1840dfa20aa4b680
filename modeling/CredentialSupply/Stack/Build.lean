import CredentialSupply.Config.Basic
import CredentialSupply.Stack.Machine

set_option autoImplicit false

/-!
# Building stacks

A stack is built from plans of its layers, innermost first; a layer with settings that it
refuses makes the whole stack fail. The layers of a chain follow from its configuration: the
source, then one retry, the value for outages, the record of health, the limit of the rate,
and the cache.
-/

namespace CredentialSupply

/-- How a cache refreshes before expiry. -/
structure EarlyPlan where
  window : Span
  mode : RefreshMode

/-- A layer to be built. A cache either counts in the meter of the stack or in its own one. -/
inductive LayerPlan where
  | retry
  | outage (timeToLive : Span)
  | rateLimit (size tokens : UInt32) (period : Span)
  | health (targets : List HealthTarget)
  | cache (settings : CacheSettings) (ownMeter : Bool) (early : Option EarlyPlan)

namespace Machine

variable {V σ C : Type}

/-- The name of a meter that a cache has for itself. -/
def ownMeterName : String := "default"

/-- A stack of no layers over a source, that counts under a name. -/
def bare (name : String) (source : σ) (others : List σ) : Machine V σ C where
  world :=
    { now := Instant.origin, layers := [], source, others, meters := Meters.named [name],
      calls := [], ready := [] }
  tasks := []
  running := none
  dropped := false

/-- The machine with a layer on top of the others. -/
def addLayer (m : Machine V σ C) (layer : Layer V) : Machine V σ C :=
  m.mapWorld fun w => { w with layers := w.layers ++ [layer] }

/-- The meter for a cache: that of the stack, or a new one. -/
def addMeter (m : Machine V σ C) (ownMeter : Bool) : Nat × Machine V σ C :=
  if ownMeter then
    (m.world.meters.meters.length,
      m.mapWorld fun w => { w with meters := w.meters.add ownMeterName })
  else (0, m)

/-- The machine with a cache on top of the others. A cache that refreshes before expiry has a
worker, which is ready to run. -/
def addCache (m : Machine V σ C) (settings : CacheSettings) (ownMeter : Bool)
    (early : Option EarlyPlan) : Except Failure (Machine V σ C) := do
  settings.validate
  let (meter, m) := m.addMeter ownMeter
  match early with
  | none => return m.addLayer (.cache (Cache.empty settings meter none))
  | some plan =>
      validateWindow plan.window settings.lifetime.timeToLive
      let (worker, m) := m.spawn (.work m.world.layers.length)
      let early := EarlyRefresh.fresh plan.window plan.mode worker
      return m.addLayer (.cache (Cache.empty settings meter (some early)))

/-- The machine with one more layer as planned. -/
def addPlanned (m : Machine V σ C) : LayerPlan → Except Failure (Machine V σ C)
  | .retry => .ok (m.addLayer .retry)
  | .outage timeToLive =>
      (validateOutage timeToLive).map fun _ => m.addLayer (.outage timeToLive none)
  | .rateLimit size tokens period =>
      (TokenBucket.create size tokens period m.world.now).map fun b => m.addLayer (.rateLimit b)
  | .health _ => .ok (m.addLayer (.health HealthRecord.blank))
  | .cache settings ownMeter early => m.addCache settings ownMeter early

/-- Binds a target of the record of health that is a layer, and tells whether it took effect. -/
def bindTarget (m : Machine V σ C) (layer : Nat) (target : HealthTarget) : Bool × Machine V σ C :=
  match (m.world.layers[layer]?).bind Layer.health? with
  | none => (false, m)
  | some h =>
      let (bound, h) := h.bind target
      (bound, m.mapWorld (·.setLayer layer (.health h)))

/-- Binds the planned targets of all records of health, and tells which ones took effect. -/
def bindTargets (m : Machine V σ C) (plans : List LayerPlan) : List Bool × Machine V σ C :=
  plans.zipIdx.foldl (fun (answers, m) (plan, layer) =>
    match plan with
    | .health targets =>
        targets.foldl (fun (answers, m) target =>
          let (bound, m) := bindTarget m layer target
          (answers ++ [bound], m)) (answers, m)
    | _ => (answers, m)) (([], m) : List Bool × Machine V σ C)

/-- A stack as planned, innermost layer first, and which targets took effect. -/
def build (name : String) (source : σ) (others : List σ) (plans : List LayerPlan) :
    Except Failure (List Bool × Machine V σ C) :=
  (plans.foldlM addPlanned (bare name source others)).map (·.bindTargets plans)

end Machine

/-! ## Chains -/

/-- The layers that a configuration asks for, innermost first. Health queries fetch at the top
of the chain. -/
def Config.plans (c : Config) : List LayerPlan :=
  let below : List LayerPlan :=
    (if c.retrying then [.retry] else []) ++
      (if c.outageCached then [.outage c.outageTimeToLive] else [])
  let above : List LayerPlan :=
    (if c.rateLimited then [.rateLimit c.bucketSize c.refillTokens c.refillPeriod] else []) ++
      (if c.cached then
        [.cache c.cacheSettings false (if c.preemptive then some ⟨c.window, c.mode⟩ else none)]
      else [])
  let top := below.length + 1 + above.length
  below ++ (if c.health then [.health [.level top]] else []) ++ above

/-- The chain with a configuration over a source. -/
def Config.build {V σ C : Type} (c : Config) (source : σ) : Except Failure (Machine V σ C) := do
  c.validate
  let (_, m) ← Machine.build c.name source [] c.plans
  return m

end CredentialSupply
