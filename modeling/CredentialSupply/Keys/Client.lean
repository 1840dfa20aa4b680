import CredentialSupply.Http.Exchange
import CredentialSupply.Keys.KeySet
import CredentialSupply.Source.Basic
import CredentialSupply.Text.Quoted

set_option autoImplicit false

/-!
# Key sets from servers

A key client fetches the key set at an address. Unless told otherwise it insists on a secure
address and sends nothing to any other one.
-/

namespace CredentialSupply

/-- A client for the key set at an address, over a network. -/
structure KeyClient (ν : Type) where
  url : Url
  requireHttps : Bool
  maxResponseBytes : Nat
  requestTimeout : Span
  network : ν

namespace KeyClient

variable {ν : Type}

/-- A client with the usual settings. -/
def standard (url : Url) (network : ν) : KeyClient ν :=
  ⟨url, true, Http.standardLimit, Http.standardTimeout, network⟩

/-- The key set in a document of bytes. -/
def decode (bytes : List UInt8) : Except Failure KeySet :=
  match (Json.readBytes bytes).bind KeySet.ofJson? with
  | some s => .ok s
  | none => .error .malformed

/-- The outcome of a fetch by its reply. -/
def outcome (c : KeyClient ν) (reply : Http.Reply) : Outcome KeySet :=
  .ofExcept ((reply.bytes c.url c.maxResponseBytes).bind decode)

/-- A fetch. -/
def start [Http.Network ν] (now : Instant) (c : KeyClient ν) :
    KeyClient ν × Progress KeySet (Outcome KeySet) :=
  match if c.requireHttps then c.url.requireHttps else .ok () with
  | .error f => (c, .answer (.failed f))
  | .ok _ =>
      let (network, reply) := Http.exchange (Http.getJson c.url) c.requestTimeout now c.network
      let due := reply.settledAt c.maxResponseBytes
      ({ c with network },
        if due ≤ now then .answer (c.outcome reply) else .wait due (c.outcome reply))

/-- The client in words. -/
def text (c : KeyClient ν) : String :=
  Text.record "JwksProvider"
    [("url", Text.quoted c.url.text), ("require_https", Text.truth c.requireHttps),
     ("max_response_bytes", Text.decimal c.maxResponseBytes),
     ("request_timeout", c.requestTimeout.text)]

instance [Http.Network ν] : Source (KeyClient ν) KeySet (Outcome KeySet) where
  start _ now c := c.start now
  resume outcome _ c := (c, .answer outcome)
  close _ c := (c, none)
  supportsHealth _ := true
  text := text

end KeyClient

end CredentialSupply
