import CredentialSupply.Proofs.Encoding
import CredentialSupply.Token.Client

set_option autoImplicit false

/-!
# What one fetch of a token sends

A `Wire` is a network with a record of what is sent over it, so that a client over it can be held to
what it has sent. A fetch is followed to its end, however long the replies take (`Ends`). It goes in
one of four ways (`Fetched`): it is refused, or it sends one grant, or a second one after the first
was rejected.
-/

namespace CredentialSupply

/-! ## The record -/

namespace Http

/-- A request that was sent, the instant, and what came of it. -/
structure Sending where
  request : Request
  sentAt : Instant
  reply : Reply

/-- A network with a record of what was sent over it, oldest first. -/
structure Wire (ν : Type) where
  network : ν
  sent : List Sending

instance {ν : Type} [Network ν] : Network (Wire ν) where
  send request timeout now w :=
    let (network, reply) := Network.send request timeout now w.network
    (⟨network, w.sent ++ [⟨request, now, reply⟩]⟩, reply)

variable {ν : Type} [Network ν]

/-- What an exchange adds to the record: the request, if one can be sent to its address. -/
theorem exchange_wire (request : Request) (timeout : Span) (now : Instant) (w : Wire ν) :
    (exchange request timeout now w).1.sent =
        w.sent ++ (if isSendable request.url then
          [⟨request, now, (exchange request timeout now w).2⟩] else []) ∧
      (isSendable request.url = false →
        (exchange request timeout now w).2 = ⟨.error .request, now⟩) := by
  rw [exchange]
  split
  next h => exact ⟨rfl, fun hnot => by rw [h] at hnot; cases hnot⟩
  next h => exact ⟨(List.append_nil _).symm, fun _ => rfl⟩

end Http

/-! ## A call to its end -/

/-- A call of a source that nothing disturbs: it has come so far at an instant, and goes on, each
time it is due, until it ends at another instant with an outcome. -/
inductive Ends {σ V C : Type} [Source σ V C] :
    σ × Progress V C → Instant → σ → Outcome V → Instant → Prop where
  | answer {s : σ} {outcome : Outcome V} {now : Instant} :
      Ends (s, .answer outcome) now s outcome now
  | wait {s s' : σ} {due now later endedAt : Instant} {call : C} {outcome : Outcome V}
      (after : now ≤ later) (reached : due.ceilMilli ≤ later)
      (ends : Ends (Source.resume call later s) later s' outcome endedAt) :
      Ends (s, .wait due call) now s' outcome endedAt

/-! ## Requests for tokens -/

namespace TokenClient

variable {ν : Type}

/-- The request for a token with a grant. -/
def grantRequest (c : TokenClient ν) (grant : Grant) : Http.Request :=
  Http.postForm c.tokenUrl "application/json" c.credentials.clientId c.credentials.clientSecret
    (grant.fields c.credentials)

/-- The request to revoke a refresh token. -/
def revocationRequest (c : TokenClient ν) (url : Url) (t : RefreshToken) : Http.Request :=
  Http.postForm url "*/*" c.credentials.clientId c.credentials.clientSecret
    [("token", t.secret), ("token_type_hint", "refresh_token")]

/-- Whether the client lets a fetch ask its address. -/
def permits (c : TokenClient ν) : Bool := !c.requireHttps || c.tokenUrl.isHttps

/-- Whether a fetch sends requests at all: the client lets it, and requests can be sent to the
address. -/
def maySend (c : TokenClient ν) : Bool := c.permits && Http.isSendable c.tokenUrl

/-- Whether a reply says that the grant itself is rejected. -/
def rejects (c : TokenClient ν) (reply : Http.Reply) : Bool :=
  match c.granted reply with
  | .error f => f.isInvalidGrant
  | .ok _ => false

/-- The refresh token that a fetch may use, which is held and has not expired. -/
def usable? (c : TokenClient ν) (force : Bool) (now : Instant) : Option RefreshToken :=
  if force then none else c.held.filter (·.isUsable now)

/-- The body of a request tells by a letter what kind of grant it is for. -/
theorem letter_grantRequest (c : TokenClient ν) (grant : Grant) :
    (c.grantRequest grant).body.toList[11]? =
      some (match grant with | .refresh _ => 'r' | .credentials => 'c') := by
  -- eleven letters come before the name of the grant
  cases grant with
  | refresh s =>
      have hbody : (c.grantRequest (.refresh s)).body = "grant_type=refresh_token" ++ "&" ++
          (Form.encodeText "refresh_token" ++ "=" ++ Form.encodeText s) := rfl
      rw [hbody]
      simp [String.toList_append]
  | credentials =>
      cases hscope : c.credentials.scope with
      | none =>
          have hbody : (c.grantRequest .credentials).body = "grant_type=client_credentials" := by
            simp only [grantRequest, Http.postForm, Grant.fields, hscope]
            rfl
          rw [hbody]
          rfl
      | some scope =>
          have hbody : (c.grantRequest .credentials).body = "grant_type=client_credentials" ++
              "&" ++ (Form.encodeText "scope" ++ "=" ++ Form.encodeText scope) := by
            simp only [grantRequest, Http.postForm, Grant.fields, hscope]
            rfl
          rw [hbody]
          simp [String.toList_append]

theorem grantRequest_refresh_ne (c : TokenClient ν) (s : String) :
    c.grantRequest .credentials ≠ c.grantRequest (.refresh s) := by
  intro h
  have hletter := c.letter_grantRequest .credentials
  rw [h, letter_grantRequest] at hletter
  simp at hletter

/-- Requests with different refresh tokens are different. -/
theorem grantRequest_refresh_injective {c : TokenClient ν} {s t : String}
    (h : c.grantRequest (.refresh s) = c.grantRequest (.refresh t)) : s = t :=
  Form.encode_snd_injective (congrArg Http.Request.body h)

/-! ## One fetch -/

/-- What comes of an answer at an instant: what is held afterwards, in place of what was held
before, and the outcome of the fetch. -/
inductive Concluded (answer : Except Failure GrantedToken) (before : Option RefreshToken)
    (now : Instant) : Option RefreshToken → Outcome AccessToken → Prop where
  | granted {g : GrantedToken} {held : Option RefreshToken} {token : AccessToken}
      (granted : answer = .ok g) (refresh : g.refresh? now = some held)
      (access : g.access? now = some token) : Concluded answer before now held (.value token)
  | refused {f : Failure} (refused : answer = .error f) :
      Concluded answer before now before (.failed f)
  /-- The clock does not represent an expiry. -/
  | lost {g : GrantedToken} {held : Option RefreshToken} (granted : answer = .ok g)
      (lost : g.refresh? now = none ∨ g.access? now = none) :
      Concluded answer before now held .crashed

/-- What is recorded when a grant is asked for, and the reply that there is. -/
inductive Asked (c : TokenClient ν) (grant : Grant) (now : Instant) (reply : Http.Reply) :
    List Http.Sending → Prop where
  | sent (sendable : Http.isSendable c.tokenUrl = true) :
      Asked c grant now reply [⟨c.grantRequest grant, now, reply⟩]
  /-- No request can be sent to the address. -/
  | unsent (sendable : Http.isSendable c.tokenUrl = false)
      (refused : c.granted reply = .error (.transport .request)) : Asked c grant now reply []

/-- How a fetch goes that starts at an instant: what it sends, what is held afterwards, and with
what and when it ends. -/
inductive Fetched (c : TokenClient ν) (force : Bool) (now : Instant) :
    List Http.Sending → Option RefreshToken → Outcome AccessToken → Instant → Prop where
  /-- The address is refused. -/
  | refused {f : Failure} (permits : c.permits = false) :
      Fetched c force now [] c.held (.failed f) now
  /-- Nothing is held that may be used. What is held all the same is dropped, but by a forced
  fetch. -/
  | credentials {reply : Http.Reply} {new : List Http.Sending} {held : Option RefreshToken}
      {outcome : Outcome AccessToken} {endedAt : Instant} (permits : c.permits = true)
      (usable : c.usable? force now = none) (asked : c.Asked .credentials now reply new)
      (concluded : Concluded (c.granted reply) (if force then c.held else none) endedAt held
        outcome) : Fetched c force now new held outcome endedAt
  /-- The refresh token is used. -/
  | refresh {t : RefreshToken} {reply : Http.Reply} {new : List Http.Sending}
      {held : Option RefreshToken} {outcome : Outcome AccessToken} {endedAt : Instant}
      (permits : c.permits = true) (usable : c.usable? force now = some t)
      (asked : c.Asked (.refresh t.secret) now reply new) (rejects : c.rejects reply = false)
      (concluded : Concluded (c.granted reply) c.held endedAt held outcome) :
      Fetched c force now new held outcome endedAt
  /-- The refresh token is rejected, and dropped. -/
  | fallBack {t : RefreshToken} {reply reply' : Http.Reply} {new new' : List Http.Sending}
      {later : Instant} {held : Option RefreshToken} {outcome : Outcome AccessToken}
      {endedAt : Instant} (permits : c.permits = true) (usable : c.usable? force now = some t)
      (asked : c.Asked (.refresh t.secret) now reply new) (rejects : c.rejects reply = true)
      (asked' : c.Asked .credentials later reply' new')
      (concluded : Concluded (c.granted reply') none endedAt held outcome) :
      Fetched c force now (new ++ new') held outcome endedAt

section Client

variable [Http.Network ν] {c c' : TokenClient (Http.Wire ν)} {force : Bool} {now endedAt : Instant}
  {outcome : Outcome AccessToken}

/-- The client has the same settings, holds another token, and has sent some more. -/
def Went (c : TokenClient (Http.Wire ν)) (new : List Http.Sending) (held : Option RefreshToken)
    (c' : TokenClient (Http.Wire ν)) : Prop :=
  ∃ network, c' = { c with held, network } ∧ network.sent = c.network.sent ++ new

omit [Http.Network ν] in
theorem Went.held_eq {c c' : TokenClient (Http.Wire ν)} {new : List Http.Sending}
    {held : Option RefreshToken} (h : Went c new held c') : c'.held = held := by
  obtain ⟨network, rfl, -⟩ := h
  rfl

omit [Http.Network ν] in
theorem Went.sent_eq {c c' : TokenClient (Http.Wire ν)} {new : List Http.Sending}
    {held : Option RefreshToken} (h : Went c new held c') :
    c'.network.sent = c.network.sent ++ new := by
  obtain ⟨network, rfl, hsent⟩ := h
  exact hsent

omit [Http.Network ν] in
/-- What a client holds may change without a request. -/
theorem went_hold (c : TokenClient (Http.Wire ν)) (held : Option RefreshToken) :
    Went c [] held { c with held } :=
  ⟨c.network, rfl, (List.append_nil _).symm⟩

omit [Http.Network ν] in
theorem Went.trans {c₁ c₂ : TokenClient (Http.Wire ν)} {new new' : List Http.Sending}
    {held held' : Option RefreshToken} (h : Went c new held c₁) (h' : Went c₁ new' held' c₂) :
    Went c (new ++ new') held' c₂ := by
  obtain ⟨network, rfl, sent⟩ := h
  obtain ⟨network', rfl, sent'⟩ := h'
  exact ⟨network', rfl, by rw [sent', sent, List.append_assoc]⟩

omit [Http.Network ν] in
/-- A client that has gone on reads replies as before. -/
theorem Went.granted_eq {c₁ : TokenClient (Http.Wire ν)} {new : List Http.Sending}
    {held : Option RefreshToken} (h : Went c new held c₁) (reply : Http.Reply) :
    c₁.granted reply = c.granted reply := by
  obtain ⟨network, rfl, -⟩ := h
  rfl

omit [Http.Network ν] in
theorem concluded_conclude (c : TokenClient (Http.Wire ν)) (reply : Http.Reply) (now : Instant) :
    ∃ held, (c.conclude reply now).1 = { c with held } ∧
      Concluded (c.granted reply) c.held now held (c.conclude reply now).2 := by
  rw [conclude]
  split
  next g hg =>
    rw [accept]
    split
    next hrefresh => exact ⟨c.held, rfl, .lost hg (Or.inl hrefresh)⟩
    next held hrefresh =>
      refine ⟨held, rfl, ?_⟩
      split
      next haccess => exact .lost hg (Or.inr haccess)
      next token haccess => exact .granted hg hrefresh haccess
  next f hf => exact ⟨c.held, rfl, .refused hf⟩

theorem asked_request (c : TokenClient (Http.Wire ν)) (grant : Grant) (now : Instant) :
    ∃ network reply new, c.request grant now = ({ c with network }, ⟨grant, reply⟩) ∧
      network.sent = c.network.sent ++ new ∧ c.Asked grant now reply new := by
  obtain ⟨hsent, hnot⟩ := Http.exchange_wire (c.grantRequest grant) c.requestTimeout now c.network
  generalize hreply : (Http.exchange (c.grantRequest grant) c.requestTimeout now c.network).2 =
    reply at hsent hnot
  refine ⟨_, reply, _, by rw [← hreply]; rfl, hsent, ?_⟩
  cases hsendable : Http.isSendable (c.grantRequest grant).url with
  | true => exact .sent hsendable
  | false =>
      refine .unsent hsendable ?_
      rw [hnot hsendable]
      rfl

/-- A client that has gone on asks for a token. -/
theorem Went.request {c₁ : TokenClient (Http.Wire ν)} {new : List Http.Sending}
    {held : Option RefreshToken} (went : Went c new held c₁) (grant : Grant) (now : Instant) :
    ∃ c₂ reply new', c₁.request grant now = (c₂, ⟨grant, reply⟩) ∧ Went c (new ++ new') held c₂ ∧
      c.Asked grant now reply new' := by
  obtain ⟨network, reply, new', hrequest, hsent, hasked⟩ := asked_request c₁ grant now
  have hwent : Went c (new ++ new') held { c₁ with network } := by
    rw [← went.held_eq]
    exact went.trans ⟨network, rfl, hsent⟩
  refine ⟨_, reply, new', hrequest, hwent, ?_⟩
  obtain ⟨network₁, rfl, -⟩ := went
  cases hasked with
  | sent sendable => exact .sent sendable
  | unsent sendable refused => exact .unsent sendable refused

/-- The answer of a client that concludes is the end. -/
theorem Went.conclude {new : List Http.Sending} {held : Option RefreshToken}
    {c₁ : TokenClient (Http.Wire ν)} {reply : Http.Reply} {answer : Except Failure GrantedToken}
    (went : Went c new held c₁) (answered : c₁.granted reply = answer)
    (ends : Ends ((c₁.conclude reply now).1, Progress.answer (c₁.conclude reply now).2) now c'
      outcome endedAt) :
    ∃ held', Went c new held' c' ∧ Concluded answer held endedAt held' outcome := by
  obtain ⟨network, rfl, hsent⟩ := went
  obtain ⟨held', hclient, hconcluded⟩ := concluded_conclude { c with held, network } reply now
  rw [answered] at hconcluded
  cases ends
  refine ⟨held', ⟨network, ?_, hsent⟩, hconcluded⟩
  rw [hclient]

/-- A request with the credentials goes to its end. -/
theorem ends_requestWithCredentials {new : List Http.Sending} {held : Option RefreshToken}
    {c₁ : TokenClient (Http.Wire ν)} (went : Went c new held c₁)
    (ends : Ends (c₁.requestWithCredentials now) now c' outcome endedAt) :
    ∃ reply new' held', Went c (new ++ new') held' c' ∧ c.Asked .credentials now reply new' ∧
      Concluded (c.granted reply) held endedAt held' outcome := by
  obtain ⟨c₂, reply, new', hrequest, hwent, hasked⟩ := went.request .credentials now
  rw [requestWithCredentials, hrequest] at ends
  suffices ∃ held', Went c (new ++ new') held' c' ∧
      Concluded (c.granted reply) held endedAt held' outcome by
    obtain ⟨held', hwent', hconcluded⟩ := this
    exact ⟨reply, new', held', hwent', hasked, hconcluded⟩
  simp only at ends
  split at ends
  · exact hwent.conclude (hwent.granted_eq reply) ends
  · cases ends with
    | wait after reached ends => exact hwent.conclude (hwent.granted_eq reply) ends

omit [Http.Network ν] in
theorem requireHttps_cases (c : TokenClient (Http.Wire ν)) :
    (c.permits = false ∧
        ∃ f, (if c.requireHttps then c.tokenUrl.requireHttps else .ok ()) = .error f) ∨
      (c.permits = true ∧
        (if c.requireHttps then c.tokenUrl.requireHttps else .ok ()) = .ok ()) := by
  rw [permits, Url.requireHttps]
  cases c.requireHttps <;> cases c.tokenUrl.isHttps <;> simp

/-- A request with the refresh token goes to its end. -/
theorem ends_requestWithRefresh {t : RefreshToken} (permits : c.permits = true)
    (usable : c.usable? force now = some t)
    (ends : Ends (c.requestWithRefresh t.secret now) now c' outcome endedAt) :
    ∃ new held, Went c new held c' ∧ Fetched c force now new held outcome endedAt := by
  obtain ⟨network, reply, new, hrequest, hsent, hasked⟩ := asked_request c (.refresh t.secret) now
  have hwent : Went c new c.held { c with network } := ⟨network, rfl, hsent⟩
  -- whenever the reply is there, the fetch goes on in the same way
  have hresume : ∀ later,
      Ends (resume ⟨.refresh t.secret, reply⟩ later { c with network }) later c' outcome endedAt →
        ∃ new held, Went c new held c' ∧ Fetched c force now new held outcome endedAt := by
    intro later ends
    rw [resume] at ends
    split at ends
    next s f hgrant hrefused =>
      -- a rejected grant is followed by a request with the credentials, any other failure is final
      split at ends
      next hinvalid =>
        have hrejects : c.rejects reply = true := by
          rw [rejects, show c.granted reply = .error f from hrefused]
          exact hinvalid
        obtain ⟨reply', new', held, hwent', hasked', hconcluded⟩ := ends_requestWithCredentials
          (show Went c new none { c with held := none, network } from ⟨network, rfl, hsent⟩) ends
        exact ⟨_, held, hwent', .fallBack permits usable hasked hrejects hasked' hconcluded⟩
      next hinvalid =>
        have hrejects : c.rejects reply = false := by
          rw [rejects, show c.granted reply = .error f from hrefused]
          exact Bool.not_eq_true _ ▸ hinvalid
        cases ends
        exact ⟨_, c.held, hwent, .refresh permits usable hasked hrejects (.refused hrefused)⟩
    next hother =>
      obtain ⟨held, hwent', hconcluded⟩ := hwent.conclude rfl ends
      refine ⟨_, held, hwent', .refresh permits usable hasked ?_ hconcluded⟩
      rw [rejects]
      split
      next f hrefused => exact absurd hrefused (hother t.secret f rfl)
      next => rfl
  rw [requestWithRefresh, hrequest] at ends
  simp only at ends
  split at ends
  · exact hresume now ends
  · cases ends with
    | wait after reached ends => exact hresume _ ends

/-- A fetch goes to its end in one of the ways that there are. -/
theorem ends_start (ends : Ends (start force now c) now c' outcome endedAt) :
    ∃ new held, Went c new held c' ∧ Fetched c force now new held outcome endedAt := by
  rw [start] at ends
  rcases c.requireHttps_cases with ⟨permits, f, hf⟩ | ⟨permits, hok⟩
  · rw [hf] at ends
    cases ends
    exact ⟨[], c.held, went_hold c c.held, .refused permits⟩
  · rw [hok] at ends
    simp only at ends
    split at ends
    next hnone =>
      obtain ⟨reply, new, held, hwent, hasked, hconcluded⟩ :=
        ends_requestWithCredentials (went_hold c c.held) ends
      refine ⟨_, held, hwent, .credentials permits ?_ hasked ?_⟩
      · cases force <;> simp_all [usable?]
      · cases force <;> simp_all
    next t hsome =>
      have hforce : force = false := by
        cases force with
        | true => simp at hsome
        | false => rfl
      subst hforce
      replace hsome : c.held = some t := by simpa using hsome
      split at ends
      next husable => exact ends_requestWithRefresh permits (by simp [usable?, hsome, husable]) ends
      next husable =>
        obtain ⟨reply, new, held, hwent, hasked, hconcluded⟩ :=
          ends_requestWithCredentials (went_hold c none) ends
        exact ⟨_, held, hwent,
          .credentials permits (by simp [usable?, hsome, husable]) hasked hconcluded⟩

end Client

end TokenClient

end CredentialSupply
