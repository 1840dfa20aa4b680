import CredentialSupply.Http.Exchange

set_option autoImplicit false

/-!
# Scripted servers

A scripted server answers requests from a list, one reply after the other, and repeats the
last one. It takes part in the network under every name but one, over plain connections only,
and only while it listens; where nobody listens, a connection is refused at once.
-/

namespace CredentialSupply.Http

/-- What a scripted server does with a request. -/
inductive ScriptedReply where
  | answer (status : Status) (body : List UInt8) (announcesLength : Bool)
  | breakOff (status : Status) (body : List UInt8)
  | stall (status : Status) (body : List UInt8) (announcesLength : Bool)
  | silence
  | hangUp
  | babble

/-- A scripted server, whether it listens, and the requests that reached it. -/
structure Endpoint where
  replies : List ScriptedReply
  listening : Bool
  requests : List Request

namespace Endpoint

/-- Statuses whose responses have no body. -/
def hasNoBody (s : Status) : Bool := s.code = 204 || s.code = 304

/-- Bytes that are announced and missing when a response breaks off. -/
def missingBytes : Nat := 10

/-- The reply to a request that was sent at `now` and is given up at `giveUp`. -/
def reply (now giveUp : Instant) : ScriptedReply → Reply
  | .answer status body announcesLength =>
      if hasNoBody status then ⟨.ok ⟨status, none, .ok [], now⟩, now⟩
      else
        ⟨.ok ⟨status, if announcesLength then some body.length else none, .ok body, now⟩, now⟩
  | .breakOff status body =>
      ⟨.ok ⟨status, some (body.length + missingBytes), .error .decode, now⟩, now⟩
  | .stall status body announcesLength =>
      ⟨.ok ⟨status, if announcesLength then some body.length else none, .error .timeout, giveUp⟩,
        now⟩
  | .silence => ⟨.error .timeout, giveUp⟩
  | .hangUp | .babble => ⟨.error .exchange, now⟩

/-- A name under which nobody ever listens. -/
def refusingHost : String := "refused.test"

/-- Whether a request to an address reaches the server. -/
def isReached (e : Endpoint) (url : Url) : Bool :=
  e.listening && url.scheme = "http" &&
    (url.authority.map fun a => a.host.text) ≠ some refusingHost

/-- The reply to the next request. -/
def next? (e : Endpoint) : Option ScriptedReply :=
  (e.replies[e.requests.length]?).or e.replies.getLast?

instance : Network Endpoint where
  send request timeout now e :=
    if e.isReached request.url then
      let giveUp : Instant := ⟨now.nanos + timeout.nanos⟩
      ({ e with requests := e.requests ++ [request] }, reply now giveUp (e.next?.getD .hangUp))
    else (e, ⟨.error .connect, now⟩)

end Endpoint

end CredentialSupply.Http
