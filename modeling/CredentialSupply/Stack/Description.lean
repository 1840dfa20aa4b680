import CredentialSupply.Stack.World
import CredentialSupply.Text.Quoted

set_option autoImplicit false

/-!
# Stacks in words

A stack is described by its outermost layer. The state of a limit and the time of a status
have no words, and such a layer is only named.
-/

namespace CredentialSupply

namespace Cache

variable {V : Type}

/-- The cache in words, under the name of its meter. -/
def text (c : Cache V) (chain : String) : String :=
  let plain := Text.partialRecord "BlockingCachingProvider"
    [("chain", Text.quoted chain), ("settings", c.settings.text)]
  match c.early with
  | none => plain
  | some r => Text.partialRecord "PreemptiveCachingProvider"
      [("cache", plain), ("window", r.window.text), ("mode", r.mode.text)]

end Cache

namespace World

variable {V σ C : Type} [Source σ V C]

/-- A layer in words. -/
def layerText (w : World V σ) : Layer V → String
  | .retry => Text.record "RetryingProvider" [("chain", Text.quoted w.chain)]
  | .outage timeToLive _ => Text.partialRecord "OutageCachingProvider"
      [("chain", Text.quoted w.chain), ("time_to_live", timeToLive.text)]
  | .rateLimit _ => "rate_limit"
  | .health h =>
      match h.success with
      | some _ => "health"
      | none => Text.partialRecord "HealthTrackingProvider"
          [("chain", Text.quoted w.chain), ("health", Text.option none)]
  | .cache c => c.text (w.meters.name c.meter)

/-- The stack in words. -/
def text (w : World V σ) : String :=
  match w.layers.getLast? with
  | none => Source.text w.source
  | some layer => w.layerText layer

end World

end CredentialSupply
