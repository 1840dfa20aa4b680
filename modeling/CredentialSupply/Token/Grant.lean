import CredentialSupply.Failure
import CredentialSupply.Json.Reader
import CredentialSupply.Json.Shape
import CredentialSupply.Token.AccessToken
import CredentialSupply.Token.Credentials

set_option autoImplicit false

/-!
# Grants of access tokens

A token is asked for with a grant: a refresh token that is held, or the credentials of the
client alone. The server grants a token, and possibly a new refresh token, or says why not.
-/

namespace CredentialSupply

/-- A refresh token and its expiry. -/
structure RefreshToken where
  secret : String
  expiresAt : Option Instant
  deriving DecidableEq

/-- Whether a refresh token may be used at `now`: strictly before its expiry. -/
def RefreshToken.isUsable (t : RefreshToken) (now : Instant) : Bool :=
  t.expiresAt.all fun expiresAt => now < expiresAt

/-- What a token is asked for with. -/
inductive Grant where
  | refresh (secret : String)
  | credentials
  deriving DecidableEq

/-- The fields of the form for a grant. -/
def Grant.fields (c : Credentials) : Grant → List (String × String)
  | .refresh secret => [("grant_type", "refresh_token"), ("refresh_token", secret)]
  | .credentials =>
      ("grant_type", "client_credentials") ::
        match c.scope with
        | none => []
        | some scope => [("scope", scope)]

/-- What a server grants. The spans are in seconds. -/
structure GrantedToken where
  accessToken : String
  tokenType : String
  expiresIn : Option UInt64
  refreshToken : Option String
  refreshTokenExpiresIn : Option UInt64
  scope : Option String
  deriving DecidableEq

namespace GrantedToken

/-- The type of a token for which none is given. -/
def standardType : String := "Bearer"

/-- The names of the members. -/
def memberNames : List String :=
  ["access_token", "token_type", "expires_in", "refresh_token", "refresh_token_expires_in",
   "scope"]

/-- The grant given by the slots of its members. -/
def ofSlots? : List Json.Slot → Option GrantedToken
  | [accessToken, tokenType, expiresIn, refreshToken, refreshTokenExpiresIn, scope] => do
      let accessToken ← accessToken.required? Json.text?
      let tokenType ← tokenType.orDefault? standardType Json.text?
      let expiresIn ← expiresIn.optional? Json.uint64?
      let refreshToken ← refreshToken.optional? Json.text?
      let refreshTokenExpiresIn ← refreshTokenExpiresIn.optional? Json.uint64?
      let scope ← scope.optional? Json.text?
      return { accessToken, tokenType, expiresIn, refreshToken, refreshTokenExpiresIn, scope }
  | _ => none

/-- The grant in a document of bytes. -/
def decode (bytes : List UInt8) : Except Failure GrantedToken :=
  match ((Json.readBytes bytes).bind (·.slots? memberNames)).bind ofSlots? with
  | some g => .ok g
  | none => .error .malformed

/-- The instant some seconds after `now`, if seconds are given; none when the clock does not
represent it. -/
def expiry? (now : Instant) : Option UInt64 → Option (Option Instant)
  | none => some none
  | some seconds => (now.later? (Span.ofSeconds seconds)).map some

/-- The refresh token that comes with a grant at `now`; none when the clock does not represent
its expiry. -/
def refresh? (g : GrantedToken) (now : Instant) : Option (Option RefreshToken) :=
  match g.refreshToken with
  | none => some none
  | some secret => (expiry? now g.refreshTokenExpiresIn).map fun expiresAt =>
      some ⟨secret, expiresAt⟩

/-- The access token of a grant at `now`; none when the clock does not represent its expiry. -/
def access? (g : GrantedToken) (now : Instant) : Option AccessToken :=
  (expiry? now g.expiresIn).map fun expiresAt => ⟨g.accessToken, g.tokenType, g.scope, expiresAt⟩

end GrantedToken

/-- The reason that a server gives for not granting a token. -/
def refusal? (text : String) : Option String :=
  ((Json.read text).bind (·.slots? ["error"])).bind fun
    | [reason] => reason.required? Json.text?
    | _ => none

/-- Whether a failure means that the server rejects the grant itself. -/
def Failure.isInvalidGrant : Failure → Bool
  | .httpStatus status _ (some body) => status.code = 400 && refusal? body = some "invalid_grant"
  | _ => false

end CredentialSupply
