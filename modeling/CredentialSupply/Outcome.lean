import CredentialSupply.Failure

set_option autoImplicit false

/-!
# Outcomes

A call ends with a value, with a failure, or crashes because an instant that it computes is
out of the clock's range. A crash passes through everything that waits for the call.
-/

namespace CredentialSupply

/-- How a call ends. -/
inductive Outcome (α : Type) where
  | value (a : α)
  | failed (failure : Failure)
  | crashed

namespace Outcome

variable {α β : Type}

/-- What a crash reports. -/
def crashReport : String := "overflow when adding duration to instant"

/-- Whether the call produced a value. -/
def isValue : Outcome α → Bool
  | .value _ => true
  | _ => false

/-- The outcome with its value replaced. -/
def map (f : α → β) : Outcome α → Outcome β
  | .value a => .value (f a)
  | .failed failure => .failed failure
  | .crashed => .crashed

/-- The outcome of a call whose failure is known by cause. -/
def ofExcept : Except Failure α → Outcome α
  | .ok a => .value a
  | .error failure => .failed failure

end Outcome

end CredentialSupply
