import CredentialSupply.Http.Status
import CredentialSupply.Text.Quoted
import CredentialSupply.Time.Span
import CredentialSupply.Url.Basic

set_option autoImplicit false

/-!
# Failures

What can go wrong when a value is supplied, by cause. `Failure.kind` sorts the causes by
what to do about them: only a failure of the kind `unavailable` may be tried again or
answered from a stored value. `Failure.message?` gives the wording.
-/

namespace CredentialSupply

/-- How an exchange with a server failed before a complete answer was there. -/
inductive TransportFault where
  | timeout
  | connect
  | decode
  | request
  | exchange
  deriving DecidableEq

/-- Why no value can be supplied. -/
inductive Failure where
  | invalidStatus
  | transport (fault : TransportFault)
  | malformed
  | address (flaw : Url.Flaw)
  | httpStatus (status : Http.Status) (url : Url) (body : Option String)
  | client (text : String)
  | service (text : String)
  | unavailable (text : String)
  | keyNotFound (kid : String)
  | refreshTimeout (timeout : Span)
  | refreshFailed
  | rateLimitExceeded (chain : String)
  | configuration (field reason : String)
  | healthNotSupported
  | metrics (text : String)
  deriving DecidableEq

/-- What a failure calls for: mending the request, reporting the server, waiting, mending the
settings, or not asking for health. -/
inductive FailureKind where
  | client
  | service
  | unavailable
  | configuration
  | healthNotSupported
  deriving DecidableEq

/-- The kind of an answer with this status. -/
def Http.Status.kind (s : Http.Status) : FailureKind :=
  if s.isTransient then .unavailable
  else if s.blamesRequest then .client
  else .service

namespace Failure

/-- The kind of a failure. -/
def kind : Failure → FailureKind
  | .transport .timeout | .transport .connect => .unavailable
  | .transport .decode | .transport .request => .client
  | .transport .exchange => .service
  | .httpStatus status _ _ => status.kind
  | .invalidStatus | .malformed | .address _ | .client _ | .keyNotFound _ => .client
  | .service _ | .refreshFailed | .metrics _ => .service
  | .unavailable _ | .refreshTimeout _ | .rateLimitExceeded _ => .unavailable
  | .configuration _ _ => .configuration
  | .healthNotSupported => .healthNotSupported

/-- Whether the failure may pass by itself. -/
def isUnavailable (f : Failure) : Bool := f.kind = .unavailable

/-- The failure in words; none for failures of the transport and of malformed documents, whose
wording belongs to the tools that found them. -/
def message? : Failure → Option String
  | .transport _ | .malformed => none
  | .invalidStatus => some "invalid status code"
  | .address flaw => some flaw.message
  | .httpStatus status url body =>
      some ("Upstream HTTP status " ++ status.text ++ " from " ++ url.text ++ ": " ++
        Text.option (body.map Text.quoted))
  | .client text => some ("Client error: " ++ text)
  | .service text => some ("Service error: " ++ text)
  | .unavailable text => some ("Upstream unavailable: " ++ text)
  | .keyNotFound kid => some ("Key '" ++ kid ++ "' not found in the JSON Web Key Set.")
  | .refreshTimeout timeout =>
      some ("Timed out after " ++ timeout.text ++
        " waiting for another caller to refresh the cache.")
  | .refreshFailed => some "Cache refresh produced no entry valid at the time of the request."
  | .rateLimitExceeded chain => some ("Rate limit exceeded for provider chain '" ++ chain ++ "'.")
  | .configuration field reason =>
      some ("Configuration invalid for " ++ field ++ ": " ++ reason)
  | .healthNotSupported => some "Health is not supported by this provider chain."
  | .metrics text => some ("Metrics error: " ++ text)

end Failure

/-- Refuses an address whose scheme is not `https`. -/
def Url.requireHttps (u : Url) : Except Failure Unit :=
  if u.isHttps then .ok ()
  else .error (.configuration "url" ("Upstream URL " ++ u.text ++ " must use HTTPS."))

end CredentialSupply
