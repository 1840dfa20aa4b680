import CredentialSupply.Time.Span

set_option autoImplicit false

/-!
# Events

What is counted about a chain: lookups answered from the cache or not, refreshes with the
time they took or failed, and what the layers below the cache did.
-/

namespace CredentialSupply

/-- A counted event. A refresh carries the nanoseconds that it took. -/
inductive Event where
  | hit
  | miss
  | refreshed (took : Nat)
  | refreshFailed
  | outageServed
  | rateLimited
  | retried
  deriving DecidableEq

end CredentialSupply
