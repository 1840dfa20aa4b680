import CredentialSupply.Outcome
import CredentialSupply.Time.Instant

set_option autoImplicit false

/-!
# Sources

A source makes values, possibly slowly and possibly failing, and is at the bottom of every
stack. Its state changes when a call starts and when a call goes on after a wait; any number
of calls may wait at the same time.
-/

namespace CredentialSupply

/-- What a call does next: wait until an instant and then go on, or end. -/
inductive Progress (V C : Type) where
  | wait (due : Instant) (call : C)
  | answer (outcome : Outcome V)

/-- A source with states `σ` of values `V`. A call that waits is remembered as a `C`. -/
class Source (σ : Type) (V C : outParam Type) where
  /-- A call starts; the flag asks for a value that no cache has answered. -/
  start : Bool → Instant → σ → σ × Progress V C
  /-- A call goes on after its wait. -/
  resume : C → Instant → σ → σ × Progress V C
  /-- The source gives up what it holds; none if this takes no time. -/
  close : Instant → σ → σ × Option Instant
  /-- Whether the health of a stack over the source can be told. -/
  supportsHealth : σ → Bool
  /-- The source in words. -/
  text : σ → String

end CredentialSupply
