import CredentialSupply.Failure
import CredentialSupply.Text.Base64
import CredentialSupply.Text.Form
import CredentialSupply.Text.Utf8
import CredentialSupply.Time.Instant
import CredentialSupply.Url.Percent

set_option autoImplicit false

/-!
# Exchanges with servers

An exchange sends a request over a network and gets a reply at some later instant: a response
or a fault. `Response.content` is what a response is worth: the bytes of a successful one,
unless there are more of them than expected, and a failure otherwise.
-/

namespace CredentialSupply.Http

/-- What is asked of a server. -/
inductive Method where
  | get
  | post
  deriving DecidableEq

/-- The name of a method. -/
def Method.name : Method → String
  | .get => "GET"
  | .post => "POST"

/-- A request. The headers are in the order of their names. -/
structure Request where
  method : Method
  url : Url
  headers : List (String × String)
  body : String
  deriving DecidableEq

/-- A response: its status, the length announced for its body, and the body, complete or
broken off, with the instant at which that is known. -/
structure Response where
  status : Status
  announced : Option Nat
  body : Except TransportFault (List UInt8)
  bodyAt : Instant

/-- What comes of a request, and the instant at which the head of it is there. -/
structure Reply where
  content : Except TransportFault Response
  arrivesAt : Instant

/-- A network with states `ν`: what comes of a request that is sent at an instant and given up
after a span of time. -/
class Network (ν : Type) where
  send : Request → Span → Instant → ν → ν × Reply

/-! ## Requests -/

/-- The value of an authorization header for an identifier and a secret. -/
def basicAuthorization (id secret : String) : String :=
  "Basic " ++ Base64.encodeText (id ++ ":" ++ secret)

/-- A part of an address without its encoding. -/
def plainText? (text : String) : Option String :=
  Utf8.decode? (Url.Percent.decode (Utf8.encode text))

/-- Name and password of the user in an address. -/
def user? (url : Url) : Option (String × String) := do
  let authority ← url.authority
  let name ← plainText? authority.user
  let password := (plainText? authority.password).getD ""
  if name.isEmpty && password.isEmpty then none else some (name, password)

/-- The headers for a user named in an address. -/
def userHeaders (url : Url) : List (String × String) :=
  match user? url with
  | none => []
  | some (name, password) => [("authorization", basicAuthorization name password)]

/-- The address as it is asked for: a user is named in a header, and a fragment is kept back. -/
def requestUrl (url : Url) : Url :=
  let authority := url.authority.map fun a =>
    if (user? url).isSome then { a with user := "", password := "" } else a
  { url with authority, fragment := none }

/-- A request that asks for a JSON document. -/
def getJson (url : Url) : Request :=
  ⟨.get, requestUrl url, ("accept", "application/json") :: userHeaders url, ""⟩

/-- A request that sends a form under an identity, and accepts the given type. -/
def postForm (url : Url) (accept id secret : String) (fields : List (String × String)) :
    Request :=
  ⟨.post, requestUrl url,
    ("accept", accept) :: userHeaders url ++
      [("authorization", basicAuthorization id secret),
       ("content-type", "application/x-www-form-urlencoded")],
    Form.encode fields⟩

/-- Whether requests can be sent to an address at all. -/
def isSendable (url : Url) : Bool := url.scheme = "http" || url.scheme = "https"

/-- Sends a request, unless no request can be sent to its address. -/
def exchange {ν : Type} [Network ν] (request : Request) (timeout : Span) (now : Instant)
    (network : ν) : ν × Reply :=
  if isSendable request.url then Network.send request timeout now network
  else (network, ⟨.error .request, now⟩)

/-! ## Replies -/

/-- The complaint about a body that is too large. -/
def oversized (size limit : Nat) : Failure :=
  .client ("Response size " ++ Text.decimal size ++
    " bytes exceeds the configured guard of " ++ Text.decimal limit ++ " bytes.")

/-- The length announced for a body, if it exceeds the limit. -/
def Response.excess? (r : Response) (limit : Nat) : Option Nat := r.announced.filter (limit < ·)

/-- What a response to a request at `url` is worth. -/
def Response.content (r : Response) (url : Url) (limit : Nat) : Except Failure (List UInt8) :=
  if r.status.isSuccess then
    match r.excess? limit, r.body with
    -- the announced length is enough to refuse a body that is not there yet
    | some size, _ => .error (oversized size limit)
    | none, .error fault => .error (.transport fault)
    | none, .ok bytes =>
        if limit < bytes.length then .error (oversized bytes.length limit) else .ok bytes
  else
    .error (.httpStatus r.status url (match r.body with
      | .error _ => none
      | .ok bytes => some (Utf8.decodeLossy bytes)))

/-- What a reply to a request at `url` is worth. -/
def Reply.bytes (r : Reply) (url : Url) (limit : Nat) : Except Failure (List UInt8) :=
  match r.content with
  | .error fault => .error (.transport fault)
  | .ok response => response.content url limit

/-- The instant at which the worth of a reply is known. The body of a successful response is
not awaited when its announced length says enough. -/
def Reply.settledAt (r : Reply) (limit : Nat) : Instant :=
  match r.content with
  | .error _ => r.arrivesAt
  | .ok response =>
      if response.status.isSuccess && (response.excess? limit).isSome then r.arrivesAt
      else r.arrivesAt.latest response.bodyAt

/-- The time after which a request is given up. -/
def standardTimeout : Span := Span.ofSeconds 10

/-- The largest body that is accepted, in bytes. -/
def standardLimit : Nat := 1048576

end CredentialSupply.Http
