import CredentialSupply.Cache.Entry
import CredentialSupply.Text.Quoted

set_option autoImplicit false

/-!
# Access tokens

A token with its type, the granted scope and its expiry. Its description leaves the secret
out, and is none for a token with an expiry, since an instant has no description.
-/

namespace CredentialSupply

/-- What stands for a secret in descriptions. -/
def redacted : String := Text.quoted "<redacted>"

/-- An access token. -/
structure AccessToken where
  secret : String
  tokenType : String
  scope : Option String
  expiresAt : Option Instant
  deriving DecidableEq

namespace AccessToken

instance : Perishable AccessToken := ⟨AccessToken.expiresAt⟩

/-- The value of an authorization header. -/
def authorization (t : AccessToken) : String := t.tokenType ++ " " ++ t.secret

/-- The token in words. -/
def description? (t : AccessToken) : Option String :=
  match t.expiresAt with
  | some _ => none
  | none => some (Text.record "AccessToken"
      [("secret", redacted), ("token_type", Text.quoted t.tokenType),
       ("scope", Text.option (t.scope.map Text.quoted)), ("expires_at", Text.option none)])

end AccessToken

end CredentialSupply
