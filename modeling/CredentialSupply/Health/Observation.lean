import CredentialSupply.Failure
import CredentialSupply.Json.Reader
import CredentialSupply.Json.Shape
import CredentialSupply.Time.Timestamp

set_option autoImplicit false

/-!
# Observations of health

When a call was observed and whether it produced a value, as written in JSON.
-/

namespace CredentialSupply

/-- Outcome of a call at a point of civil time. -/
structure Observation where
  observedAt : Timestamp
  success : Bool
  deriving DecidableEq

namespace Observation

/-- The names of the members. -/
def memberNames : List String := ["observed_at", "success"]

/-- The observation as an object. -/
def toJson (o : Observation) : Json :=
  .record [("observed_at", .text o.observedAt.text), ("success", .bool o.success)]

/-- The observation given by the slots of its members. -/
def ofSlots? : List Json.Slot → Option Observation
  | [observedAt, success] => do
      let observedAt ← observedAt.required? fun j => j.text?.bind Timestamp.read
      let success ← success.required? Json.bool?
      return ⟨observedAt, success⟩
  | _ => none

/-- The observation in a text. -/
def read (text : String) : Except Failure Observation :=
  match ((Json.read text).bind (·.slots? memberNames)).bind ofSlots? with
  | some o => .ok o
  | none => .error .malformed

end Observation

end CredentialSupply
