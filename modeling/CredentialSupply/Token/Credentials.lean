import CredentialSupply.Failure
import CredentialSupply.Json.Reader
import CredentialSupply.Json.Shape
import CredentialSupply.Token.AccessToken

set_option autoImplicit false

/-!
# Client credentials

The identity that a client presents to a token endpoint, and the scope that it asks for.
-/

namespace CredentialSupply

/-- Identifier and secret of a client, and the scope to request. -/
structure Credentials where
  clientId : String
  clientSecret : String
  scope : Option String
  deriving DecidableEq

namespace Credentials

/-- The names of the members. -/
def memberNames : List String := ["client_id", "client_secret", "scope"]

/-- The credentials given by the slots of their members; the scope may be missing in an array
too. -/
def ofSlots? : List Json.Slot → Option Credentials
  | [clientId, clientSecret, scope] => do
      let clientId ← clientId.required? Json.text?
      let clientSecret ← clientSecret.required? Json.text?
      let scope ← scope.orDefault? none (Json.Slot.nullable Json.text?)
      return ⟨clientId, clientSecret, scope⟩
  | _ => none

/-- The credentials in a text. -/
def read (text : String) : Except Failure Credentials :=
  match ((Json.read text).bind (·.slots? memberNames)).bind ofSlots? with
  | some c => .ok c
  | none => .error .malformed

/-- The credentials in words, without the secret. -/
def text (c : Credentials) : String :=
  Text.record "ClientCredentials"
    [("client_id", Text.quoted c.clientId), ("client_secret", redacted),
     ("scope", Text.option (c.scope.map Text.quoted))]

end Credentials

end CredentialSupply
