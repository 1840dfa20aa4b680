import CredentialSupply.Cache.EarlyRefresh
import CredentialSupply.Cache.Lock

set_option autoImplicit false

/-!
# Caches

A cache holds at most one entry, which is never changed but replaced by the entry of the next
generation. Refreshes are made under a lock, so that callers who find the entry stale at the
same time cost one call: a caller remembers the generation that it saw, and takes over the
entry if the generation has changed by the time it gets the lock.
-/

namespace CredentialSupply

/-- A cache. `generation` counts the entries installed so far, and `meter` is the position of
the meter that counts its events. -/
structure Cache (V : Type) where
  settings : CacheSettings
  meter : Nat
  entry : Option (Entry V)
  generation : Nat
  lock : Lock
  early : Option EarlyRefresh

namespace Cache

variable {V : Type}

/-- An empty cache. -/
def empty (settings : CacheSettings) (meter : Nat) (early : Option EarlyRefresh) : Cache V :=
  ⟨settings, meter, none, 0, Lock.free, early⟩

/-- The entry, if it may be served at `now`. -/
def valid? (c : Cache V) (now : Instant) : Option (Entry V) := c.entry.filter (·.isValid now)

/-- The entry, if it was installed after the generation that a caller saw. -/
def replacement? (c : Cache V) (seen : Nat) : Option (Entry V) :=
  if c.generation = seen then none else c.entry

/-- The cache with the next generation installed, and its worker told so. -/
def install (c : Cache V) (e : Entry V) : Cache V :=
  { c with
    entry := some e
    generation := c.generation + 1
    early := c.early.map ({ · with refreshed := true }) }

/-- The cache after a lookup that found the valid entry `e`: inside the window its refresh is
scheduled. None when the clock does not represent the end of the window around `now`. -/
def noticed? (c : Cache V) (e : Entry V) (now : Instant) : Option (Cache V) :=
  match c.early with
  | none => some c
  | some r =>
      (now.later? r.window).map fun edge =>
        if !e.isValid edge && e.outlasts r.window then
          { c with early := some (r.schedule ⟨c.generation, e.expiresAt⟩) }
        else c

/-- The cache with the state of its refresh before expiry changed. -/
def mapEarly (c : Cache V) (f : EarlyRefresh → EarlyRefresh) : Cache V :=
  { c with early := c.early.map f }

end Cache

end CredentialSupply
