import CredentialSupply.Http.Exchange
import CredentialSupply.Source.Basic
import CredentialSupply.Token.Grant

set_option autoImplicit false

/-!
# Access tokens from servers

A token client asks a server for access tokens. It holds the refresh token that came with the
last one and, unless the fetch is forced, uses it for the next one; a refresh token that has
expired or is rejected is dropped, and the credentials are used. Closing the client drops the
refresh token and, where an address for it is known, revokes it.
-/

namespace CredentialSupply

/-- A client for the tokens of a server, over a network. -/
structure TokenClient (ν : Type) where
  tokenUrl : Url
  revocationUrl : Option Url
  credentials : Credentials
  requireHttps : Bool
  requestTimeout : Span
  held : Option RefreshToken
  network : ν

/-- A request for a token whose reply is awaited. -/
structure TokenCall where
  grant : Grant
  reply : Http.Reply

namespace TokenClient

variable {ν : Type}

/-- A client with the usual settings. -/
def standard (tokenUrl : Url) (credentials : Credentials) (network : ν) : TokenClient ν :=
  ⟨tokenUrl, none, credentials, true, Http.standardTimeout, none, network⟩

/-- Takes a grant: the refresh token that came with it, or none, replaces the one that is held.
The clock may not represent the expiry of either token. -/
def accept (c : TokenClient ν) (g : GrantedToken) (now : Instant) :
    TokenClient ν × Outcome AccessToken :=
  match g.refresh? now with
  | none => (c, .crashed)
  | some held =>
      ({ c with held },
        -- the refresh token has been taken by now, whatever becomes of the access token
        match g.access? now with
        | none => .crashed
        | some token => .value token)

/-- What a reply grants. -/
def granted (c : TokenClient ν) (reply : Http.Reply) : Except Failure GrantedToken :=
  (reply.bytes c.tokenUrl Http.standardLimit).bind GrantedToken.decode

variable [Http.Network ν]

/-- Asks for a token with a grant. -/
def request (c : TokenClient ν) (grant : Grant) (now : Instant) : TokenClient ν × TokenCall :=
  let (network, reply) :=
    Http.exchange
      (Http.postForm c.tokenUrl "application/json" c.credentials.clientId
        c.credentials.clientSecret (grant.fields c.credentials))
      c.requestTimeout now c.network
  ({ c with network }, ⟨grant, reply⟩)

omit [Http.Network ν] in
/-- The reply to a request with the credentials has come. -/
def conclude (c : TokenClient ν) (reply : Http.Reply) (now : Instant) :
    TokenClient ν × Outcome AccessToken :=
  match c.granted reply with
  | .ok g => c.accept g now
  | .error f => (c, .failed f)

/-- Asks for a token with the credentials. -/
def requestWithCredentials (c : TokenClient ν) (now : Instant) :
    TokenClient ν × Progress AccessToken TokenCall :=
  let (c, call) := c.request .credentials now
  let due := call.reply.settledAt Http.standardLimit
  if due ≤ now then
    let (c, outcome) := c.conclude call.reply now
    (c, .answer outcome)
  else (c, .wait due call)

/-- The reply to a request has come. A rejected refresh token is dropped, and the credentials
are used. -/
def resume (call : TokenCall) (now : Instant) (c : TokenClient ν) :
    TokenClient ν × Progress AccessToken TokenCall :=
  match call.grant, c.granted call.reply with
  | .refresh _, .error f =>
      if f.isInvalidGrant then { c with held := none }.requestWithCredentials now
      else (c, .answer (.failed f))
  | _, _ =>
      let (c, outcome) := c.conclude call.reply now
      (c, .answer outcome)

/-- Asks for a token with a refresh token. -/
def requestWithRefresh (c : TokenClient ν) (secret : String) (now : Instant) :
    TokenClient ν × Progress AccessToken TokenCall :=
  let (c, call) := c.request (.refresh secret) now
  let due := call.reply.settledAt Http.standardLimit
  if due ≤ now then c.resume call now else (c, .wait due call)

/-- A fetch. -/
def start (force : Bool) (now : Instant) (c : TokenClient ν) :
    TokenClient ν × Progress AccessToken TokenCall :=
  match if c.requireHttps then c.tokenUrl.requireHttps else .ok () with
  | .error f => (c, .answer (.failed f))
  | .ok _ =>
      -- a forced fetch does not use the refresh token, and does not drop it
      match if force then none else c.held with
      | none => c.requestWithCredentials now
      | some t =>
          if t.isUsable now then c.requestWithRefresh t.secret now
          else { c with held := none }.requestWithCredentials now

/-- Drops the refresh token, and revokes it where an address for that is known. The instant is
that of the server's answer, whatever it is. -/
def close (now : Instant) (c : TokenClient ν) : TokenClient ν × Option Instant :=
  match c.held, c.revocationUrl with
  | some t, some url =>
      let (network, reply) :=
        Http.exchange
          (Http.postForm url "*/*" c.credentials.clientId c.credentials.clientSecret
            [("token", t.secret), ("token_type_hint", "refresh_token")])
          c.requestTimeout now c.network
      ({ c with held := none, network },
        if reply.arrivesAt ≤ now then none else some reply.arrivesAt)
  | _, _ => ({ c with held := none }, none)

omit [Http.Network ν] in
/-- The client in words. -/
def text (c : TokenClient ν) : String :=
  Text.record "AccessTokenProvider"
    [("token_url", Text.quoted c.tokenUrl.text),
     ("revocation_url", Text.option (c.revocationUrl.map fun url => Text.quoted url.text)),
     ("credentials", c.credentials.text), ("require_https", Text.truth c.requireHttps),
     ("has_refresh_token", Text.truth c.held.isSome)]

instance : Source (TokenClient ν) AccessToken TokenCall where
  start := start
  resume := resume
  close := close
  supportsHealth _ := false
  text := text

end TokenClient

end CredentialSupply
