import CredentialSupply.Number.Binary64
import CredentialSupply.Time.Span

set_option autoImplicit false

/-!
# Seconds in floating point
-/

namespace CredentialSupply

/-- Seconds of a number of nanoseconds in floating point: the whole seconds and the rest are
rounded apart and then added. -/
def floatSeconds (nanos : Nat) : Rat :=
  Binary64.add (Binary64.ofNat (nanos / nanosPerSecond))
    (Binary64.div (Binary64.ofNat (nanos % nanosPerSecond)) (Binary64.ofNat nanosPerSecond))

end CredentialSupply
