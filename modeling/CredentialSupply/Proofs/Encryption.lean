import CredentialSupply.Proofs.Custody

set_option autoImplicit false

/-!
# Where a client sends its secret

Every request of a token client carries its secret. A client that requires encryption asks for
tokens at an encrypted address only, since a fetch checks the address before it asks
(`posts_start`). Giving up a refresh token checks nothing: the request to revoke it goes to the
address for that, encrypted or not. So what such a client sends without encryption are the
revocations to a plain address, and these it sends whenever it is closed while it holds a token
(`only_revocations_go_unencrypted`).
-/

namespace CredentialSupply

open Http (Sending Wire)

/-! ## What a step of a call sends -/

namespace TokenClient

section Client

variable {ν : Type} [Http.Network ν] {c c₁ c₂ : TokenClient (Wire ν)}

/-- A client has gone on, and has sent nothing but requests for tokens. -/
def Posts (c c' : TokenClient (Wire ν)) : Prop :=
  ∃ new held, Went c new held c' ∧ ∀ x ∈ new, ∃ grant, x.request = c.grantRequest grant

omit [Http.Network ν] in
theorem Posts.trans (h : Posts c c₁) (h' : Posts c₁ c₂) : Posts c c₂ := by
  obtain ⟨new, held, went, requests⟩ := h
  obtain ⟨new', held', went', requests'⟩ := h'
  refine ⟨new ++ new', held', went.trans went', fun x hx => ?_⟩
  rcases List.mem_append.1 hx with hx | hx
  · exact requests x hx
  · obtain ⟨network, rfl, -⟩ := went
    exact requests' x hx

omit [Http.Network ν] in
theorem posts_hold (c : TokenClient (Wire ν)) (held : Option RefreshToken) :
    Posts c { c with held } :=
  ⟨[], held, went_hold c held, by simp⟩

omit [Http.Network ν] in
theorem posts_conclude (c : TokenClient (Wire ν)) (reply : Http.Reply) (now : Instant) :
    Posts c (c.conclude reply now).1 := by
  obtain ⟨held, hclient, -⟩ := held_conclude c reply now
  rw [hclient]
  exact posts_hold c held

theorem posts_request (c : TokenClient (Wire ν)) (grant : Grant) (now : Instant) :
    Posts c (c.request grant now).1 := by
  obtain ⟨network, reply, new, hrequest, sent, asked⟩ := asked_request c grant now
  rw [hrequest]
  refine ⟨new, c.held, ⟨network, rfl, sent⟩, fun x hx => ⟨grant, ?_⟩⟩
  cases asked with
  | sent sendable => rw [List.mem_singleton.1 hx]
  | unsent sendable refused => cases hx

theorem posts_requestWithCredentials (c : TokenClient (Wire ν)) (now : Instant) :
    Posts c (c.requestWithCredentials now).1 := by
  simp only [requestWithCredentials]
  split
  · exact (posts_request c .credentials now).trans (posts_conclude _ _ now)
  · exact posts_request c .credentials now

theorem posts_resume (call : TokenCall) (now : Instant) (c : TokenClient (Wire ν)) :
    Posts c (c.resume call now).1 := by
  rw [resume]
  split
  · split
    · exact (posts_hold c none).trans (posts_requestWithCredentials _ now)
    · exact posts_hold c c.held
  · exact posts_conclude c call.reply now

theorem posts_requestWithRefresh (c : TokenClient (Wire ν)) (secret : String) (now : Instant) :
    Posts c (c.requestWithRefresh secret now).1 := by
  simp only [requestWithRefresh]
  split
  · exact (posts_request c (.refresh secret) now).trans (posts_resume _ now _)
  · exact posts_request c (.refresh secret) now

/-- A fetch asks for tokens only where the client lets it, and otherwise fails at once. -/
theorem posts_start (force : Bool) (now : Instant) (c : TokenClient (Wire ν)) :
    (c.permits = true ∧ Posts c (c.start force now).1) ∨
      (c.permits = false ∧ ∃ f, c.start force now = (c, .answer (.failed f))) := by
  rcases c.requireHttps_cases with ⟨permits, f, hf⟩ | ⟨permits, hok⟩
  · exact Or.inr ⟨permits, f, by rw [start, hf]⟩
  · refine Or.inl ⟨permits, ?_⟩
    rw [start, hok]
    simp only
    split
    · exact posts_requestWithCredentials c now
    · split
      · exact posts_requestWithRefresh c _ now
      · exact (posts_hold c none).trans (posts_requestWithCredentials _ now)

/-! ## What a close sends -/

/-- The requests that a close makes. -/
def revocations {ν : Type} (c : TokenClient ν) : List Http.Request :=
  match c.held, c.revocationUrl with
  | some t, some url => if Http.isSendable url then [c.revocationRequest url t] else []
  | _, _ => []

theorem mem_revocations_iff {ν : Type} {c : TokenClient ν} {r : Http.Request} :
    r ∈ c.revocations ↔ ∃ t url, c.held = some t ∧ c.revocationUrl = some url ∧
      Http.isSendable url = true ∧ r = c.revocationRequest url t := by
  rw [revocations]
  cases c.held <;> cases c.revocationUrl <;> simp

theorem revokes_close (now : Instant) (c : TokenClient (Wire ν)) :
    ∃ new, Went c new none (c.close now).1 ∧ new.map Sending.request = c.revocations := by
  by_cases revokes : ∃ t url, c.held = some t ∧ c.revocationUrl = some url
  · obtain ⟨t, url, holds, hurl⟩ := revokes
    obtain ⟨hsent, -⟩ := Http.exchange_wire (c.revocationRequest url t) c.requestTimeout now
      c.network
    have hclose : (c.close now).1 = { c with
        held := none
        network := (Http.exchange (c.revocationRequest url t) c.requestTimeout now
          c.network).1 } := by
      simp only [close, holds, hurl]
      rfl
    have hrevocations : c.revocations =
        if Http.isSendable url then [c.revocationRequest url t] else [] := by
      simp only [revocations, holds, hurl]
    have hsendable : Http.isSendable (c.revocationRequest url t).url = Http.isSendable url := rfl
    rw [hclose, hrevocations]
    refine ⟨_, ⟨_, rfl, hsent⟩, ?_⟩
    rw [hsendable]
    cases Http.isSendable url <;> simp
  · have hclose : (c.close now).1 = { c with held := none } := by
      rw [close]
      split
      next t url holds hurl => exact absurd ⟨t, url, holds, hurl⟩ revokes
      next => rfl
    have hrevocations : c.revocations = [] := by
      rw [revocations]
      split
      next t url holds hurl => exact absurd ⟨t, url, holds, hurl⟩ revokes
      next => rfl
    rw [hclose, hrevocations]
    exact ⟨[], went_hold c none, rfl⟩

end Client

/-! ## Addresses -/

section Settings

variable {ν : Type} {c : TokenClient ν}

theorem isHttps_of_permits (strict : c.requireHttps = true) (permits : c.permits = true) :
    c.tokenUrl.isHttps = true := by
  simpa [TokenClient.permits, strict] using permits

/-- A plain address is one at which requests can be sent without encryption. -/
theorem plain_iff (url : Url) :
    Http.isSendable url = true ∧ url.isHttps = false ↔ url.scheme = "http" := by
  rw [Http.isSendable, Url.isHttps]
  constructor
  · rintro ⟨sendable, plain⟩
    simp_all
  · intro h
    simp [h]

end Settings

end TokenClient

/-! ## Stacks over a client -/

namespace Machine

section Encryption

variable {ν : Type} [Http.Network ν] {m n m₀ : TokenMachine ν}
  {moves : List (TokenMachine ν × TokenMachine ν)}

/-- With the move from `m` to `n` the client is closed, while it holds a refresh token. -/
def GivesUp (m n : TokenMachine ν) (t : RefreshToken) : Prop :=
  m.world.source.held = some t ∧
    n.world.source = (TokenClient.close m.world.now m.world.source).1 ∧
    ∃ id task, m.running = some id ∧ m.tasks[id]? = some task ∧ task.request = .close

/-- What a client has sent since the start of a run: requests for tokens, if it lets fetches ask its
address, and the revocations of the tokens that it gave up. -/
structure Accounted (c : TokenClient (Wire ν)) (moves : List (TokenMachine ν × TokenMachine ν))
    (m : TokenMachine ν) (new : List Sending) : Prop where
  went : TokenClient.Went c new m.world.source.held m.world.source
  sent : ∀ x ∈ new, (c.permits = true ∧ ∃ grant, x.request = c.grantRequest grant) ∨
    ∃ k l t url, (k, l) ∈ moves ∧ GivesUp k l t ∧ c.revocationUrl = some url ∧
      Http.isSendable url = true ∧ x.request = c.revocationRequest url t
  revoked : ∀ k l t url, (k, l) ∈ moves → GivesUp k l t → c.revocationUrl = some url →
    Http.isSendable url = true → ∃ x ∈ new, x.request = c.revocationRequest url t
  waits : c.permits = false → ∀ id call, ¬ InFlight m id call

/-- What a move from `m` to `n` sends. -/
inductive SendMove (m n : TokenMachine ν) : Prop where
  | nothing (client : n.world.source = m.world.source)
      (calls : ∀ id call, InFlight n id call → InFlight m id call)
  /-- Requests for tokens. -/
  | tokens (permits : m.world.source.permits = true)
      (posts : TokenClient.Posts m.world.source n.world.source)
  /-- The revocation of the token that is held, if there is an address for that. -/
  | revocation {new : List Sending} (went : TokenClient.Went m.world.source new none n.world.source)
      (requests : new.map Sending.request = m.world.source.revocations)
      (closes : ∀ t, m.world.source.held = some t → GivesUp m n t)
      (calls : ∀ id call, InFlight n id call → InFlight m id call)

/-- A call goes on only if the client let it start. -/
theorem sendMove (waits : m.world.source.permits = false → ∀ id call, ¬ InFlight m id call)
    (move : SourceMove m n) : SendMove m n := by
  have hcalls : (∀ (i : Nat) (t : Task AccessToken TokenCall) (due : Instant) (call : TokenCall),
      n.tasks[i]? = some t → t.control = .calling none due call → m.tasks[i]? = some t) →
      ∀ id call, InFlight n id call → InFlight m id call := by
    rintro calls id call ⟨t, due, task, control⟩
    exact ⟨t, due, calls id t due call task control, control⟩
  cases move with
  | rest source calls => exact .nothing source (hcalls calls)
  | @start id t force running task control source tasks =>
      rcases m.world.source.posts_start force m.world.now with
        ⟨permits, posts⟩ | ⟨-, f, hstart⟩
      · exact .tokens permits (source ▸ posts)
      · -- a fetch that is refused waits for nothing
        have client : n.world.source = m.world.source := source.trans (congrArg Prod.fst hstart)
        refine .nothing client (hcalls (calls_of_set tasks fun due call => ?_))
        rw [show Source.start force m.world.now m.world.source = _ from hstart]
        simp [Task.await, Task.pass, Task.goto]
  | @resume id t due call running task control source tasks =>
      have posts := m.world.source.posts_resume call m.world.now
      cases permits : m.world.source.permits with
      | true => exact .tokens permits (source ▸ posts)
      | false => exact absurd ⟨t, due, task, control⟩ (waits permits id call)
  | @close id t running task request source calls =>
      obtain ⟨new, went, requests⟩ := m.world.source.revokes_close m.world.now
      refine .revocation (source ▸ went) requests (fun r held => ?_) (hcalls calls)
      exact ⟨held, source, id, t, running, task, request⟩

/-- What is sent when a token is given up. -/
theorem GivesUp.sent_eq {t : RefreshToken} (h : GivesUp m n t) :
    ∃ new, n.sent = m.sent ++ new ∧ new.map Sending.request = m.world.source.revocations := by
  obtain ⟨-, client, -⟩ := h
  obtain ⟨new, went, requests⟩ := m.world.source.revokes_close m.world.now
  exact ⟨new, (client ▸ went).sent_eq, requests⟩

/-- The settings of a client stay the same. -/
theorem Accounted.settings {c : TokenClient (Wire ν)} {new : List Sending}
    (h : Accounted c moves m new) : m.world.source.permits = c.permits ∧
      (∀ grant, m.world.source.grantRequest grant = c.grantRequest grant) ∧
      ∀ r, r ∈ m.world.source.revocations ↔ ∃ t url, m.world.source.held = some t ∧
        c.revocationUrl = some url ∧ Http.isSendable url = true ∧
          r = c.revocationRequest url t := by
  obtain ⟨network, hclient, -⟩ := h.went
  refine ⟨?_, ?_, fun r => ?_⟩
  · rw [hclient]
    rfl
  · rw [hclient]
    exact fun grant => rfl
  · rw [TokenClient.mem_revocations_iff, hclient]
    rfl

/-- What a move has sent is accounted for, with what had been sent before. -/
theorem Accounted.extend {c : TokenClient (Wire ν)} {new new' : List Sending}
    (h : Accounted c moves m new)
    (went : TokenClient.Went m.world.source new' n.world.source.held n.world.source)
    (sent : ∀ x ∈ new', (c.permits = true ∧ ∃ grant, x.request = c.grantRequest grant) ∨
      ∃ t url, GivesUp m n t ∧ c.revocationUrl = some url ∧ Http.isSendable url = true ∧
        x.request = c.revocationRequest url t)
    (waits : c.permits = false → ∀ id call, ¬ InFlight n id call) :
    Accounted c (moves ++ [(m, n)]) n (new ++ new') where
  went := h.went.trans went
  sent x hx := by
    rcases List.mem_append.1 hx with hx | hx
    · refine (h.sent x hx).imp_right ?_
      rintro ⟨k, l, t, url, hmem, rest⟩
      exact ⟨k, l, t, url, List.mem_append_left _ hmem, rest⟩
    · refine (sent x hx).imp_right ?_
      rintro ⟨t, url, rest⟩
      exact ⟨m, n, t, url, List.mem_append_right _ (List.mem_singleton.2 rfl), rest⟩
  revoked k l t url hmem gives hurl sendable := by
    rcases List.mem_append.1 hmem with hmem | hmem
    · obtain ⟨x, hx, request⟩ := h.revoked k l t url hmem gives hurl sendable
      exact ⟨x, List.mem_append_left _ hx, request⟩
    · cases List.mem_singleton.1 hmem
      obtain ⟨revoked, hsent, requests⟩ := gives.sent_eq
      -- the move sends just what the close of its task sends
      obtain rfl : revoked = new' := List.append_cancel_left (hsent.symm.trans went.sent_eq)
      have hrequest : c.revocationRequest url t ∈ revoked.map Sending.request := by
        rw [requests, h.settings.2.2]
        exact ⟨t, url, gives.1, hurl, sendable, rfl⟩
      obtain ⟨x, hx, request⟩ := List.mem_map.1 hrequest
      exact ⟨x, List.mem_append_right _ hx, request⟩
  waits := waits

theorem Accounted.move {c : TokenClient (Wire ν)} {new : List Sending}
    (h : Accounted c moves m new) (move : SourceMove m n) :
    ∃ new', Accounted c (moves ++ [(m, n)]) n (new ++ new') := by
  obtain ⟨permits, grants, revocations⟩ := h.settings
  cases sendMove (by rw [permits]; exact h.waits) move with
  | nothing client calls =>
      refine ⟨[], h.extend ?_ (by simp) fun forbidden id call flight => ?_⟩
      · rw [client]
        exact TokenClient.went_hold _ _
      · exact h.waits forbidden id call (calls id call flight)
  | tokens permitted posts =>
      obtain ⟨new', held, went, requests⟩ := posts
      rw [permits] at permitted
      refine ⟨new', h.extend ?_ (fun x hx => Or.inl ⟨permitted, ?_⟩) fun forbidden => ?_⟩
      · rw [went.held_eq]
        exact went
      · obtain ⟨grant, request⟩ := requests x hx
        exact ⟨grant, request.trans (grants grant)⟩
      · rw [permitted] at forbidden
        cases forbidden
  | @revocation new' went requests closes calls =>
      refine ⟨new', h.extend ?_ (fun x hx => Or.inr ?_) fun forbidden id call flight => ?_⟩
      · rw [went.held_eq]
        exact went
      · have hrequest : x.request ∈ m.world.source.revocations := by
          rw [← requests]
          exact List.mem_map.2 ⟨x, hx, rfl⟩
        obtain ⟨t, url, held, rest⟩ := (revocations _).1 hrequest
        exact ⟨t, url, closes t held, rest⟩
      · exact h.waits forbidden id call (calls id call flight)

theorem accounted_run (fresh : m₀.Fresh) (run : Run m₀ moves m) :
    ∃ new, Accounted m₀.world.source moves m new := by
  induction run with
  | start =>
      refine ⟨[], TokenClient.went_hold _ _, by simp, by simp, fun _ id call => ?_⟩
      rintro ⟨t, due, task, control⟩
      obtain ⟨layer, c, r, rfl, -⟩ := fresh.tasks id t task
      cases control
  | @move moves m n run step ih =>
      obtain ⟨new, accounted⟩ := ih
      have sound : m.Sound := sound_reaches fresh.sound run.reaches
      obtain ⟨new', next⟩ := accounted.move (sourceMove (contactMove sound step))
      exact ⟨_, next⟩

/-- What a client that requires encryption has sent are requests for tokens to an encrypted address,
and revocations of tokens that it gave up. Some of it goes without encryption just if a token is
given up that is to be revoked at a plain address. -/
theorem only_revocations_go_unencrypted {name : String} {source : TokenClient (Wire ν)}
    {others : List (TokenClient (Wire ν))} {plans : List LayerPlan} {bound : List Bool}
    (built : build name source others plans = .ok (bound, m₀)) (strict : source.requireHttps = true)
    (run : Run m₀ moves m) :
    ∃ new, m.sent = source.network.sent ++ new ∧
      (∀ x ∈ new,
        (x.request.url.isHttps = true ∧ ∃ grant, x.request = source.grantRequest grant) ∨
        ∃ k l t url, (k, l) ∈ moves ∧ GivesUp k l t ∧ source.revocationUrl = some url ∧
          x.request = source.revocationRequest url t) ∧
      ((∃ x ∈ new, x.request.url.isHttps = false) ↔
        ∃ k l t url, (k, l) ∈ moves ∧ GivesUp k l t ∧ source.revocationUrl = some url ∧
          url.scheme = "http") := by
  have client : m₀.world.source = source := congrArg Prod.fst (sources_of_build built)
  obtain ⟨new, accounted⟩ := accounted_run (fresh_of_build built) run
  rw [client] at accounted
  have encrypted : source.permits = true → ∀ grant,
      (source.grantRequest grant).url.isHttps = true := fun permits _ =>
    TokenClient.isHttps_of_permits strict permits
  refine ⟨new, accounted.went.sent_eq, fun x hx => ?_, ?_⟩
  · rcases accounted.sent x hx with ⟨permits, grant, request⟩ | revoked
    · exact Or.inl ⟨by rw [request, encrypted permits], grant, request⟩
    · obtain ⟨k, l, t, url, hmem, gives, hurl, -, request⟩ := revoked
      exact Or.inr ⟨k, l, t, url, hmem, gives, hurl, request⟩
  constructor
  · rintro ⟨x, hx, plain⟩
    rcases accounted.sent x hx with ⟨permits, grant, request⟩ | revoked
    · rw [request, encrypted permits] at plain
      cases plain
    · obtain ⟨k, l, t, url, hmem, gives, hurl, sendable, request⟩ := revoked
      rw [request] at plain
      exact ⟨k, l, t, url, hmem, gives, hurl, (TokenClient.plain_iff url).1 ⟨sendable, plain⟩⟩
  · rintro ⟨k, l, t, url, hmem, gives, hurl, http⟩
    obtain ⟨sendable, plain⟩ := (TokenClient.plain_iff url).2 http
    obtain ⟨x, hx, request⟩ := accounted.revoked k l t url hmem gives hurl sendable
    exact ⟨x, hx, by rw [request]; exact plain⟩

end Encryption

/-! ## A refresh token that is revoked at a plain address -/

/-- A client that requires encryption and holds a refresh token. The address for tokens encrypts,
and the one for revocations does not. -/
def halfEncryptedClient : TokenClient (Wire SlowServer) :=
  let url (scheme path : String) : Url :=
    ⟨scheme, some ⟨"", "", .name "idp.test", none⟩, .segments [path], none, none⟩
  { TokenClient.standard (url "https" "token") ⟨"id", "secret", none⟩ ⟨⟨[(0, .ok, "")]⟩, []⟩ with
    revocationUrl := some (url "http" "revoke")
    held := some ⟨"first", none⟩ }

/-- A chain without layers over that client. -/
def halfEncryptedChain : TokenMachine SlowServer := bare uncachedChain.name halfEncryptedClient []

/-- The chain is closed. -/
def closedOnce :
    List (TokenMachine SlowServer × TokenMachine SlowServer) × TokenMachine SlowServer :=
  requested .close 2 halfEncryptedChain

/-- Closing that chain sends the refresh token, with the secret of the client, in the clear. -/
theorem close_sends_secret_in_the_clear :
    halfEncryptedClient.requireHttps = true ∧
      closedOnce.2.sent.map (·.request.headers.contains
        ("authorization", Http.basicAuthorization "id" "secret")) = [true] ∧
      ∃ x ∈ closedOnce.2.sent, x.request.url.isHttps = false ∧
        x.request.body = "token=first&token_type_hint=refresh_token" := by
  have built : build uncachedChain.name halfEncryptedClient [] uncachedChain.plans =
      .ok ([], halfEncryptedChain) := rfl
  have run : Run halfEncryptedChain closedOnce.1 closedOnce.2 := run_requested 2 rfl rfl
  obtain ⟨new, sent, -, plain⟩ := only_revocations_go_unencrypted built rfl run
  obtain ⟨k, l, hmem, gives⟩ : ∃ k l, (k, l) ∈ closedOnce.1 ∧ GivesUp k l ⟨"first", none⟩ :=
    ⟨_, _, List.mem_cons_of_mem _ (List.mem_cons_of_mem _ List.mem_cons_self), rfl, rfl, 0, _, rfl,
      rfl, rfl⟩
  obtain ⟨x, hx, clear⟩ := plain.2 ⟨k, l, _, _, hmem, gives, rfl, rfl⟩
  have hsent : x ∈ closedOnce.2.sent := by
    rw [sent]
    exact List.mem_append_right _ hx
  refine ⟨rfl, rfl, x, hsent, clear, ?_⟩
  have only : closedOnce.2.sent.map (·.request.body) =
      ["token=first&token_type_hint=refresh_token"] := rfl
  have hbody := List.mem_map_of_mem (f := fun x : Sending => x.request.body) hsent
  rw [only] at hbody
  exact List.mem_singleton.1 hbody

end Machine

end CredentialSupply
