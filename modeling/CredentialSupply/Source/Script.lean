import CredentialSupply.Cache.Entry
import CredentialSupply.Source.Basic

set_option autoImplicit false

/-!
# Scripted sources

A scripted source answers its calls from a list, one item after the other, and repeats the
last item. It is a stand-in for a real source.
-/

namespace CredentialSupply

/-- A value that may have an expiry of its own beside it. -/
structure Dated (α : Type) where
  value : α
  expiresAt : Option Instant

instance {α : Type} : Perishable (Dated α) := ⟨Dated.expiresAt⟩

/-- An answer of a script: a value, made at the instant of the answer, or a failure. -/
inductive ScriptReply (V : Type) where
  | value (make : Instant → V)
  | failure (f : Failure)

/-- The outcome of a call that is answered at `now`. -/
def ScriptReply.outcome {V : Type} (now : Instant) : ScriptReply V → Outcome V
  | .value make => .value (make now)
  | .failure f => .failed f

/-- An answer and the milliseconds after which it comes. -/
structure ScriptItem (V : Type) where
  delay : Nat
  reply : ScriptReply V

/-- A script, the calls answered so far, whether the source is known to be healthy or not, and
how often it was closed, if it can be closed. -/
structure Script (V : Type) where
  items : List (ScriptItem V)
  answered : Nat
  healthKnown : Bool
  closable : Bool
  closed : Nat

namespace Script

variable {V : Type}

/-- The item for the call after `answered` others. -/
def item? (s : Script V) : Option (ScriptItem V) := (s.items[s.answered]?).or s.items.getLast?

/-- A call: it is answered at once or after the delay of its item. -/
def start (now : Instant) (s : Script V) : Script V × Progress V (ScriptReply V) :=
  let next := { s with answered := s.answered + 1 }
  match s.item? with
  | none => (next, .answer (.failed (.service "The script is empty.")))
  | some item =>
      if item.delay = 0 then (next, .answer (item.reply.outcome now))
      else (next, .wait ⟨now.nanos + item.delay * nanosPerMilli⟩ item.reply)

instance : Source (Script V) V (ScriptReply V) where
  start _ now s := s.start now
  resume reply now s := (s, .answer (reply.outcome now))
  close _ s := (if s.closable then { s with closed := s.closed + 1 } else s, none)
  supportsHealth s := s.healthKnown
  text _ := "raw"

end Script

end CredentialSupply
