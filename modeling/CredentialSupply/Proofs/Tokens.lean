import CredentialSupply.Http.Endpoint
import CredentialSupply.Proofs.Grants

set_option autoImplicit false

/-!
# A client for tokens over its life

A `Life` is a sequence of fetches and closes that a client makes one after another, whatever the
server answers and however long it takes. What each of them sends, and what the client holds after
it, follows from what it held before and from the answers (`Deed.Rules`). Over its life a client
uses a refresh token only if it came with the last token, and does not use one again that was
dropped (`client_keeps_rules`).
-/

namespace CredentialSupply

variable {ν : Type}

/-- What a client is told to do. -/
inductive Act where
  | fetch (force : Bool)
  | close
  deriving DecidableEq

/-- Something that a client has done: from when to when, the client before and after it, and the
outcome of a fetch. -/
structure Deed (ν : Type) where
  act : Act
  startedAt : Instant
  endedAt : Instant
  before : TokenClient (Http.Wire ν)
  after : TokenClient (Http.Wire ν)
  outcome : Option (Outcome AccessToken)

namespace Deed

/-- What was sent. -/
def sent (d : Deed ν) : List Http.Sending :=
  d.after.network.sent.drop d.before.network.sent.length

/-- The refresh token that a fetch may use. -/
def usable? (d : Deed ν) : Option RefreshToken :=
  match d.act with
  | .fetch force => d.before.usable? force d.startedAt
  | .close => none

/-- Whether a fetch sent the refresh token, and the answer was that it is rejected. -/
def rejected (d : Deed ν) : Bool :=
  d.usable?.isSome && d.sent.head?.any fun x => d.before.rejects x.reply

/-- Whether a fetch found the refresh token expired. -/
def expired (d : Deed ν) : Bool :=
  d.act = .fetch false && d.before.permits && d.before.held.any fun t => !t.isUsable d.startedAt

/-- What was granted last. -/
def grant? (d : Deed ν) : Option GrantedToken :=
  d.sent.getLast?.bind fun x => (d.before.granted x.reply).toOption

/-- What a fetch that succeeded was granted, and when it ended. -/
def issued? (d : Deed ν) : Option (GrantedToken × Instant) :=
  match d.outcome with
  | some (.value _) => d.grant?.map (·, d.endedAt)
  | _ => none

/-- The clock represents the expiries of what a fetch was granted. -/
def Representable (d : Deed ν) : Prop :=
  ∀ force, d.act = .fetch force → ∀ x ∈ d.sent, ∀ g, d.before.granted x.reply = .ok g →
    (g.refresh? d.endedAt).isSome = true ∧ (g.access? d.endedAt).isSome = true

/-- A secret was sent for a new token. -/
def Sends (secret : String) (d : Deed ν) : Prop :=
  ∃ x ∈ d.sent, x.request = d.before.grantRequest (.refresh secret)

/-- A secret was sent and rejected, or found expired. -/
def Discards (secret : String) (d : Deed ν) : Prop :=
  (∃ x ∈ d.sent, x.request = d.before.grantRequest (.refresh secret) ∧
      d.before.rejects x.reply = true) ∨
    (d.expired = true ∧ ∃ t, d.before.held = some t ∧ t.secret = secret)

/-- A secret came with a token. -/
def Issues (secret : String) (d : Deed ν) : Prop :=
  ∃ g issuedAt, d.issued? = some (g, issuedAt) ∧ g.refreshToken = some secret

/-- What a fetch does. -/
structure FetchRules (force : Bool) (d : Deed ν) : Prop where
  /-- It sends the refresh token that it may use, and then the credentials, if there is none or it
  was rejected. -/
  sent : d.sent.map (·.request) =
    if d.before.maySend then
      d.usable?.toList.map (fun t => d.before.grantRequest (.refresh t.secret)) ++
        (if d.usable?.isNone || d.rejected then [d.before.grantRequest .credentials] else [])
    else []
  /-- The first request is sent at once. -/
  first : ∀ x ∈ d.sent.head?, x.sentAt = d.startedAt
  /-- After a success, what came with the token is held, or nothing. -/
  success : ∀ token, d.outcome = some (.value token) →
    ∃ g, d.issued? = some (g, d.endedAt) ∧ g.refresh? d.endedAt = some d.after.held
  /-- After a failure, the same is held as before, unless it was found expired or rejected. -/
  failure : ∀ f, d.outcome = some (.failed f) →
    d.after.held = if d.expired || d.rejected then none else d.before.held
  /-- It succeeds or fails. -/
  ends : ∃ outcome, d.outcome = some outcome ∧ outcome ≠ .crashed

/-- What a close does: nothing is held after it, and what was held is revoked where there is an
address for that. -/
structure CloseRules (d : Deed ν) : Prop where
  held : d.after.held = none
  sent : d.sent.map (·.request) =
    match d.before.held, d.before.revocationUrl with
    | some t, some url =>
        if Http.isSendable url then [d.before.revocationRequest url t] else []
    | _, _ => []

/-- What is true of a deed by itself. -/
def Rules (d : Deed ν) : Prop :=
  match d.act with
  | .fetch force => d.FetchRules force
  | .close => d.CloseRules

variable [Http.Network ν]

/-- The client has done this, and nothing came between. -/
def Done (d : Deed ν) : Prop :=
  match d.act with
  | .fetch force => ∃ outcome, d.outcome = some outcome ∧
      Ends (TokenClient.start force d.startedAt d.before) d.startedAt d.after outcome d.endedAt
  | .close => d.outcome = none ∧ d.after = (TokenClient.close d.startedAt d.before).1 ∧
      d.startedAt ≤ d.endedAt ∧
      ∀ due ∈ (TokenClient.close d.startedAt d.before).2, due.ceilMilli ≤ d.endedAt

omit [Http.Network ν] in
/-- What was asked is what was sent, once. -/
theorem sent_of_asked {c : TokenClient ν} {grant : Grant} {now : Instant} {reply : Http.Reply}
    {new : List Http.Sending} (asked : c.Asked grant now reply new) (permits : c.permits = true) :
    new.map (·.request) = (if c.maySend then [c.grantRequest grant] else []) ∧
      (∀ x ∈ new.head?, x.sentAt = now ∧ x.reply = reply) ∧
      ∀ g, c.granted reply = .ok g → new = [⟨c.grantRequest grant, now, reply⟩] := by
  cases asked with
  | sent sendable => simp [TokenClient.maySend, permits, sendable]
  | unsent sendable refused => simp [TokenClient.maySend, permits, sendable, refused]

omit [Http.Network ν] in
/-- What the last reply makes of a fetch. -/
theorem rules_of_concluded {d : Deed ν} {force : Bool} {reply : Http.Reply}
    {before held : Option RefreshToken} {outcome : Outcome AccessToken} (act : d.act = .fetch force)
    (representable : d.Representable) (houtcome : d.outcome = some outcome)
    (hheld : d.after.held = held)
    (concluded : TokenClient.Concluded (d.before.granted reply) before d.endedAt held outcome)
    (last : ∀ g, d.before.granted reply = .ok g → ∃ x ∈ d.sent.getLast?, x.reply = reply) :
    (∀ token, d.outcome = some (.value token) →
        ∃ g, d.issued? = some (g, d.endedAt) ∧ g.refresh? d.endedAt = some d.after.held) ∧
      (∀ f, d.outcome = some (.failed f) → d.after.held = before) ∧
      ∃ outcome, d.outcome = some outcome ∧ outcome ≠ .crashed := by
  cases concluded with
  | @granted g _ token granted refresh access =>
      refine ⟨?_, by simp [houtcome], _, houtcome, by simp⟩
      intro token' _
      obtain ⟨x, hx, rfl⟩ := last g granted
      refine ⟨g, ?_, by rw [hheld]; exact refresh⟩
      rw [Option.mem_def] at hx
      simp [issued?, houtcome, grant?, hx, granted, Except.toOption]
  | refused refused => exact ⟨by simp [houtcome], fun _ _ => hheld, _, houtcome, by simp⟩
  | @lost g held granted lost =>
      obtain ⟨x, hx, rfl⟩ := last g granted
      obtain ⟨hrefresh, haccess⟩ :=
        representable force act x (List.mem_of_getLast? hx) g granted
      rcases lost with lost | lost
      · rw [lost] at hrefresh
        cases hrefresh
      · rw [lost] at haccess
        cases haccess

omit [Http.Network ν] in
/-- What may be used is held, and has not expired. -/
theorem held_of_usable {d : Deed ν} {force : Bool} {t : RefreshToken} (act : d.act = .fetch force)
    (usable : d.before.usable? force d.startedAt = some t) :
    force = false ∧ d.before.held = some t ∧ t.isUsable d.startedAt = true ∧ d.expired = false := by
  cases force with
  | true => simp [TokenClient.usable?] at usable
  | false =>
      simp only [TokenClient.usable?, Bool.false_eq_true, if_false,
        Option.filter_eq_some_iff] at usable
      obtain ⟨hheld, husable⟩ := usable
      exact ⟨rfl, hheld, husable, by simp [expired, hheld, husable]⟩

/-- What a fetch does, which ends with expiries that the clock represents. -/
theorem fetchRules {d : Deed ν} {force : Bool} (act : d.act = .fetch force) (done : d.Done)
    (representable : d.Representable) : d.FetchRules force := by
  simp only [Done, act] at done
  obtain ⟨outcome, houtcome, ends⟩ := done
  obtain ⟨new, held, ⟨network, hafter, hsent⟩, fetched⟩ := TokenClient.ends_start ends
  have hnew : d.sent = new := by
    rw [sent, hafter]
    simp [hsent]
  have hheld : d.after.held = held := by rw [hafter]
  have husable : d.usable? = d.before.usable? force d.startedAt := by simp [usable?, act]
  generalize hend : d.endedAt = endedAt at fetched
  cases fetched with
  | @refused f permits =>
      refine ⟨?_, ?_, ?_, ?_, _, houtcome, by simp⟩
      · simp [hnew, TokenClient.maySend, permits]
      · simp [hnew]
      · simp [houtcome]
      · simp [expired, rejected, hnew, permits, hheld]
  | @credentials reply _ _ _ _ permits usable asked concluded =>
      subst hend
      obtain ⟨hrequests, hfirst, hlast⟩ := sent_of_asked asked permits
      rw [← hnew] at hrequests hfirst hlast
      obtain ⟨hsuccess, hfailure, hends⟩ := rules_of_concluded act representable houtcome hheld
        concluded fun g hg => ⟨_, by rw [hlast g hg]; rfl, rfl⟩
      refine ⟨?_, fun x hx => (hfirst x hx).1, hsuccess, fun f hf => ?_, hends⟩
      · simpa [husable, usable] using hrequests
      · rw [hfailure f hf, expired, rejected, husable, usable, act, permits]
        cases force with
        | true => simp
        | false =>
            rw [TokenClient.usable?] at usable
            cases hbefore : d.before.held with
            | none => simp
            | some t =>
                have hnot : t.isUsable d.startedAt = false := by simpa [hbefore] using usable
                simp [hnot]
  | @refresh t reply _ _ _ _ permits usable asked rejects concluded =>
      subst hend
      obtain ⟨hrequests, hfirst, hlast⟩ := sent_of_asked asked permits
      rw [← hnew] at hrequests hfirst hlast
      obtain ⟨hsuccess, hfailure, hends⟩ := rules_of_concluded act representable houtcome hheld
        concluded fun g hg => ⟨_, by rw [hlast g hg]; rfl, rfl⟩
      have hrejected : d.rejected = false := by
        simp only [rejected, Bool.and_eq_false_iff, Option.any_eq_false]
        exact Or.inr fun x hx => by rw [(hfirst x hx).2, rejects]
      refine ⟨?_, fun x hx => (hfirst x hx).1, hsuccess, fun f hf => ?_, hends⟩
      · simpa [husable, usable, hrejected] using hrequests
      · rw [hfailure f hf, hrejected, (held_of_usable act usable).2.2.2]
        rfl
  | @fallBack t reply reply' _ _ later _ _ _ permits usable asked rejects asked' concluded =>
      subst hend
      cases asked with
      | unsent sendable refused =>
          simp [TokenClient.rejects, refused, Failure.isInvalidGrant] at rejects
      | sent sendable =>
          -- requests can be sent, so there are two of them
          obtain ⟨hrequests', -, hlast'⟩ := sent_of_asked asked' permits
          have hsends : d.before.maySend = true := by simp [TokenClient.maySend, permits, sendable]
          have hrejected : d.rejected = true := by simp [rejected, husable, usable, hnew, rejects]
          obtain ⟨hsuccess, hfailure, hends⟩ := rules_of_concluded act representable houtcome hheld
            concluded fun g hg => by
              rw [hnew, hlast' g hg]
              exact ⟨_, rfl, rfl⟩
          refine ⟨?_, ?_, hsuccess, fun f hf => ?_, hends⟩
          · rw [hnew, List.map_append, hrequests', if_pos hsends, if_pos hsends, husable, usable,
              hrejected]
            rfl
          · rw [hnew]
            rintro x ⟨⟩
            rfl
          · rw [hfailure f hf, hrejected, Bool.or_true, if_pos rfl]

/-- What a close does. -/
theorem closeRules {d : Deed ν} (act : d.act = .close) (done : d.Done) : d.CloseRules := by
  simp only [Done, act] at done
  obtain ⟨-, hafter, -⟩ := done
  rw [TokenClient.close] at hafter
  split at hafter
  next t url hheld hurl =>
    obtain ⟨hsent, -⟩ := Http.exchange_wire (d.before.revocationRequest url t)
      d.before.requestTimeout d.startedAt d.before.network
    have hwire : d.after.network = (Http.exchange (d.before.revocationRequest url t)
        d.before.requestTimeout d.startedAt d.before.network).1 := by
      rw [hafter]
      rfl
    refine ⟨by rw [hafter], ?_⟩
    have hurl' : Http.isSendable (d.before.revocationRequest url t).url = Http.isSendable url := rfl
    rw [sent, hwire, hsent, List.drop_left, hheld, hurl, hurl']
    cases hsendable : Http.isSendable url <;> simp [hsendable]
  next hother =>
    have hwire : d.sent = [] := by
      rw [sent, hafter]
      exact List.drop_length
    refine ⟨by rw [hafter], ?_⟩
    rw [hwire]
    split
    next t url hheld hurl => exact absurd hurl (hother t url hheld)
    next => rfl

/-- Every deed keeps to the rules. -/
theorem rules {d : Deed ν} (done : d.Done) (representable : d.Representable) : d.Rules := by
  rw [Rules]
  cases act : d.act with
  | fetch force => exact fetchRules act done representable
  | close => exact closeRules act done

end Deed

/-- What a client has done since it was set up, oldest first, the client that it is now, and the
instant. -/
inductive Life [Http.Network ν] (c₀ : TokenClient (Http.Wire ν)) :
    List (Deed ν) → TokenClient (Http.Wire ν) → Instant → Prop where
  | start (now : Instant) : Life c₀ [] c₀ now
  | deed {deeds : List (Deed ν)} {d : Deed ν} {now : Instant}
      (life : Life c₀ deeds d.before now) (later : now ≤ d.startedAt) (done : d.Done) :
      Life c₀ (deeds ++ [d]) d.after d.endedAt

/-- What a fetch was granted that succeeded last, and when it ended. -/
def lastIssued? (deeds : List (Deed ν)) : Option (GrantedToken × Instant) :=
  (deeds.filterMap Deed.issued?).getLast?

namespace Deed

theorem revocationRequest_ne {c : TokenClient (Http.Wire ν)} (url : Url) (t : RefreshToken)
    (grant : Grant) : c.revocationRequest url t ≠ c.grantRequest grant := by
  intro h
  have haccept := congrArg (fun r => r.headers.head?) h
  simp [TokenClient.revocationRequest, TokenClient.grantRequest, Http.postForm] at haccept

/-- A request with a secret is the first one of an unforced fetch that holds it. -/
theorem Rules.of_request {d : Deed ν} {secret : String} {x : Http.Sending} (rules : d.Rules)
    (hx : x ∈ d.sent) (request : x.request = d.before.grantRequest (.refresh secret)) :
    d.act = .fetch false ∧ d.usable?.isSome = true ∧ d.sent.head? = some x ∧
      ∃ t, d.before.held = some t ∧ t.secret = secret ∧ t.isUsable d.startedAt = true := by
  have hmem : d.before.grantRequest (.refresh secret) ∈ d.sent.map (·.request) :=
    List.mem_map.2 ⟨x, hx, request⟩
  rw [Rules] at rules
  cases act : d.act with
  | close =>
      -- a close sends a revocation or nothing
      rw [act] at rules
      rw [rules.sent] at hmem
      split at hmem
      next t url _ _ =>
        split at hmem
        · exact absurd (List.mem_singleton.1 hmem).symm (revocationRequest_ne url t _)
        · cases hmem
      next => cases hmem
  | fetch force =>
      rw [act] at rules
      have hsent := rules.sent
      rw [hsent] at hmem
      split at hsent
      next hsends =>
        rw [if_pos hsends] at hmem
        cases husable : d.usable? with
        | none =>
            rw [husable] at hmem
            exact absurd (by simpa using hmem) (d.before.grantRequest_refresh_ne secret).symm
        | some t =>
            have husable' : d.before.usable? force d.startedAt = some t := by
              simpa [usable?, act] using husable
            obtain ⟨rfl, hheld, hvalid, -⟩ := held_of_usable act husable'
            cases hlist : d.sent with
            | nil => simp [hlist] at hx
            | cons y rest =>
                rw [hlist, husable] at hsent
                obtain ⟨hfirst, hrest⟩ := List.cons.inj hsent
                rw [hlist] at hx
                rcases List.mem_cons.1 hx with rfl | hx
                · have hsecret := TokenClient.grantRequest_refresh_injective
                    (hfirst.symm.trans request)
                  exact ⟨rfl, rfl, rfl, t, hheld, hsecret, hvalid⟩
                · -- the only other request is one with the credentials
                  have hother : x.request ∈ rest.map (·.request) := List.mem_map.2 ⟨x, hx, rfl⟩
                  rw [hrest, request] at hother
                  split at hother
                  · exact absurd (List.mem_singleton.1 hother).symm
                      (d.before.grantRequest_refresh_ne secret)
                  · cases hother
      next hsends =>
        rw [if_neg hsends] at hmem
        cases hmem

/-- What is held after a deed came with the token that it brought, or was held before and not
discarded. -/
theorem Rules.held_cases {d : Deed ν} {t : RefreshToken} (rules : d.Rules)
    (held : d.after.held = some t) :
    (∃ g, d.issued? = some (g, d.endedAt) ∧ g.refresh? d.endedAt = some (some t)) ∨
      (d.issued? = none ∧ d.before.held = some t ∧ ∀ secret, ¬ d.Discards secret) := by
  cases act : d.act with
  | close =>
      rw [Rules, act] at rules
      rw [rules.held] at held
      cases held
  | fetch force =>
      have hrules := rules
      rw [Rules, act] at hrules
      obtain ⟨outcome, houtcome, hcrashed⟩ := hrules.ends
      cases outcome with
      | crashed => exact absurd rfl hcrashed
      | value token =>
          obtain ⟨g, hissued, hrefresh⟩ := hrules.success token houtcome
          rw [held] at hrefresh
          exact Or.inl ⟨g, hissued, hrefresh⟩
      | failed f =>
          -- what is still held after a failure has been neither rejected nor found expired
          have hkept := hrules.failure f houtcome
          rw [held] at hkept
          split at hkept
          next => cases hkept
          next hnot =>
            simp only [Bool.or_eq_true, not_or, Bool.not_eq_true] at hnot
            obtain ⟨hexpired, hrejected⟩ := hnot
            refine Or.inr ⟨by simp [issued?, houtcome], hkept.symm, ?_⟩
            rintro secret (⟨x, hx, request, rejects⟩ | ⟨expired, -⟩)
            · obtain ⟨-, husable, hhead, -⟩ := rules.of_request hx request
              simp [rejected, husable, hhead, rejects] at hrejected
            · rw [hexpired] at expired
              cases expired

end Deed

section Life

variable [Http.Network ν] {c₀ c : TokenClient (Http.Wire ν)} {deeds : List (Deed ν)} {now : Instant}

/-- What came before a deed is a life too, which leads to the client before it. -/
theorem Life.of_append {before after : List (Deed ν)} {d : Deed ν}
    (life : Life c₀ deeds c now) (h : deeds = before ++ d :: after) :
    ∃ now', Life c₀ before d.before now' := by
  induction life generalizing after with
  | start => simp at h
  | @deed deeds d' now life later done ih =>
      -- the deed is the last one, or the last one comes after it
      rcases List.eq_nil_or_concat after with rfl | ⟨after', last, rfl⟩
      · obtain ⟨rfl, hd⟩ := List.append_inj' h rfl
        cases hd
        exact ⟨now, life⟩
      · rw [List.concat_eq_append, ← List.cons_append, ← List.append_assoc] at h
        exact ih (List.append_inj' h rfl).1

theorem Life.rules (life : Life c₀ deeds c now)
    (representable : ∀ d ∈ deeds, d.Representable) : ∀ d ∈ deeds, d.Rules := by
  induction life with
  | start => simp
  | @deed deeds d now life later done ih =>
      intro x hx
      rcases List.mem_append.1 hx with hx | hx
      · exact ih (fun y hy => representable y (List.mem_append_left _ hy)) x hx
      · rw [List.mem_singleton.1 hx]
        exact Deed.rules done (representable d (by simp))

omit [Http.Network ν] in
theorem lastIssued?_snoc_some {d : Deed ν} {x : GrantedToken × Instant} (h : d.issued? = some x) :
    lastIssued? (deeds ++ [d]) = some x := by
  simp [lastIssued?, h]

omit [Http.Network ν] in
theorem lastIssued?_snoc_none {d : Deed ν} (h : d.issued? = none) :
    lastIssued? (deeds ++ [d]) = lastIssued? deeds := by
  simp [lastIssued?, h]

/-- What is held came with the token that was issued last. -/
theorem Life.held_of_lastIssued {t : RefreshToken} (fresh : c₀.held = none)
    (life : Life c₀ deeds c now) (representable : ∀ d ∈ deeds, d.Representable)
    (held : c.held = some t) :
    ∃ g issuedAt, lastIssued? deeds = some (g, issuedAt) ∧ g.refresh? issuedAt = some (some t) := by
  induction life with
  | start =>
      rw [fresh] at held
      cases held
  | @deed deeds d now life later done ih =>
      have hrules := Deed.rules done (representable d (by simp))
      rcases hrules.held_cases held with ⟨g, hissued, hrefresh⟩ | ⟨hnone, hbefore, -⟩
      · exact ⟨g, d.endedAt, lastIssued?_snoc_some hissued, hrefresh⟩
      · rw [lastIssued?_snoc_none hnone]
        exact ih (fun x hx => representable x (List.mem_append_left _ hx)) hbefore

omit [Http.Network ν] in
theorem issues_of_refresh {d : Deed ν} {g : GrantedToken} {t : RefreshToken}
    (issued : d.issued? = some (g, d.endedAt)) (refresh : g.refresh? d.endedAt = some (some t)) :
    d.Issues t.secret := by
  refine ⟨g, d.endedAt, issued, ?_⟩
  rw [GrantedToken.refresh?] at refresh
  split at refresh
  next => cases refresh
  next secret h =>
    obtain ⟨expiresAt, -, heq⟩ := Option.map_eq_some_iff.1 refresh
    cases heq
    exact h

/-- A secret that was discarded is held again only once it has been issued again. -/
theorem Life.issues_of_discards {before between : List (Deed ν)} {d : Deed ν} {t : RefreshToken}
    (life : Life c₀ deeds c now) (representable : ∀ d ∈ deeds, d.Representable)
    (h : deeds = before ++ d :: between) (discards : d.Discards t.secret)
    (held : c.held = some t) : ∃ x ∈ d :: between, x.Issues t.secret := by
  induction life generalizing between with
  | start => simp at h
  | @deed deeds last now life later done ih =>
      have hrules := Deed.rules done (representable last (by simp))
      rcases List.eq_nil_or_concat between with rfl | ⟨between', last', rfl⟩
      · obtain ⟨rfl, hd⟩ := List.append_inj' h rfl
        cases hd
        rcases hrules.held_cases held with ⟨g, hissued, hrefresh⟩ | ⟨-, -, hkept⟩
        · exact ⟨_, List.mem_cons_self, issues_of_refresh hissued hrefresh⟩
        · exact absurd discards (hkept t.secret)
      · rw [List.concat_eq_append, ← List.cons_append, ← List.append_assoc] at h
        obtain ⟨rfl, hlast⟩ := List.append_inj' h rfl
        cases hlast
        rcases hrules.held_cases held with ⟨g, hissued, hrefresh⟩ | ⟨-, hbefore, -⟩
        · exact ⟨last, by simp, issues_of_refresh hissued hrefresh⟩
        · obtain ⟨x, hx, hissues⟩ :=
            ih (fun y hy => representable y (List.mem_append_left _ hy)) rfl hbefore
          refine ⟨x, ?_, hissues⟩
          rw [List.concat_eq_append, ← List.cons_append]
          exact List.mem_append_left _ hx

/-- A client that starts with nothing keeps, over all that it does, to the rules of each deed. It
sends a secret only in an unforced fetch, at once, before the secret has expired, and only the one
that came with the token issued last. A secret that was rejected, or found expired, is not sent or
held any more until it has been issued again. -/
theorem client_keeps_rules (fresh : c₀.held = none) (life : Life c₀ deeds c now)
    (representable : ∀ d ∈ deeds, d.Representable) :
    (∀ d ∈ deeds, d.Rules) ∧
      (∀ before d after, deeds = before ++ d :: after → ∀ secret, d.Sends secret →
        d.act = .fetch false ∧ ∃ g issuedAt t, lastIssued? before = some (g, issuedAt) ∧
          g.refresh? issuedAt = some (some t) ∧ t.secret = secret ∧
          t.isUsable d.startedAt = true) ∧
      ∀ before d between d' after, deeds = before ++ d :: (between ++ d' :: after) →
        ∀ secret, d.Discards secret →
          (d'.Sends secret ∨ ∃ t, d'.before.held = some t ∧ t.secret = secret) →
            ∃ x ∈ d :: between, x.Issues secret := by
  have hrules := life.rules representable
  refine ⟨hrules, ?_, ?_⟩
  · rintro before d after rfl secret ⟨x, hx, request⟩
    obtain ⟨hact, -, -, t, hheld, hsecret, husable⟩ :=
      (hrules d (by simp)).of_request hx request
    obtain ⟨now', hbefore⟩ := life.of_append rfl
    obtain ⟨g, issuedAt, hlast, hrefresh⟩ := hbefore.held_of_lastIssued fresh
      (fun y hy => representable y (List.mem_append_left _ hy)) hheld
    exact ⟨hact, g, issuedAt, t, hlast, hrefresh, hsecret, husable⟩
  · rintro before d between d' after rfl secret discards offers
    obtain ⟨t, hheld, rfl⟩ : ∃ t, d'.before.held = some t ∧ t.secret = secret := by
      rcases offers with ⟨x, hx, request⟩ | hheld
      · obtain ⟨-, -, -, t, hheld, hsecret, -⟩ := (hrules d' (by simp)).of_request hx request
        exact ⟨t, hheld, hsecret⟩
      · exact hheld
    have hsplit : before ++ d :: (between ++ d' :: after) =
        (before ++ d :: between) ++ d' :: after := by simp
    obtain ⟨now', hbefore⟩ := life.of_append hsplit
    rw [hsplit] at representable
    exact hbefore.issues_of_discards (fun y hy => representable y (List.mem_append_left _ hy)) rfl
      discards hheld

end Life

/-! ## A strict server -/

namespace Deed

variable [Http.Network ν]

/-- A fetch that takes no time. -/
def fetch (c : TokenClient (Http.Wire ν)) (force : Bool) (now : Instant) : Deed ν :=
  let fetched := TokenClient.start force now c
  ⟨.fetch force, now, now, c, fetched.1,
    match fetched.2 with
    | .answer outcome => some outcome
    | .wait _ _ => none⟩

/-- A close that takes no time. -/
def close (c : TokenClient (Http.Wire ν)) (now : Instant) : Deed ν :=
  ⟨.close, now, now, c, (TokenClient.close now c).1, none⟩

theorem done_fetch {c : TokenClient (Http.Wire ν)} {force : Bool} {now : Instant}
    (h : (fetch c force now).outcome.isSome = true) : (fetch c force now).Done := by
  obtain ⟨outcome, houtcome⟩ := Option.isSome_iff_exists.1 h
  refine ⟨outcome, houtcome, ?_⟩
  rcases hstart : TokenClient.start force now c with ⟨after, progress⟩
  cases progress with
  | wait due call => simp [fetch, hstart] at houtcome
  | answer outcome' =>
      simp only [fetch, hstart, Option.some.injEq] at houtcome ⊢
      subst houtcome
      exact .answer

omit [Http.Network ν] in
/-- Whether the clock represents the expiries, to be computed. -/
theorem representable_of_all {d : Deed ν} (h : (d.sent.all fun x =>
    match d.before.granted x.reply with
    | .ok g => (g.refresh? d.endedAt).isSome && (g.access? d.endedAt).isSome
    | .error _ => true) = true) : d.Representable := by
  intro force _ x hx g hg
  have hx := List.all_eq_true.1 h x hx
  rw [hg] at hx
  simpa using hx

end Deed

/-- A server that rejects the first refresh token that it has given. -/
def strictServer : Http.Endpoint :=
  ⟨[.answer .ok (Utf8.encode
      "\x7b\"access_token\":\"a\",\"refresh_token\":\"r\",\"expires_in\":60\x7d") true,
    .answer .badRequest (Utf8.encode "\x7b\"error\":\"invalid_grant\"\x7d") true,
    .answer .ok (Utf8.encode
      "\x7b\"access_token\":\"b\",\"refresh_token\":\"s\"\x7d") true], true, []⟩

/-- An address at that server. -/
def strictUrl (path : String) : Url :=
  ⟨"http", some ⟨"", "", .name "idp.test", none⟩, .segments [path], none, none⟩

/-- A client of that server which has done nothing. -/
def strictClient : TokenClient (Http.Wire Http.Endpoint) :=
  { TokenClient.standard (strictUrl "token") ⟨"id", "secret", none⟩ ⟨strictServer, []⟩ with
    requireHttps := false
    revocationUrl := some (strictUrl "revoke") }

/-- The first token is asked for with the credentials. -/
def firstDeed : Deed Http.Endpoint := .fetch strictClient false ⟨0⟩

/-- The refresh token is rejected, and the credentials are used again. -/
def secondDeed : Deed Http.Endpoint := .fetch firstDeed.after false ⟨10000000000⟩

/-- The refresh token that came with the second token is used. -/
def thirdDeed : Deed Http.Endpoint := .fetch secondDeed.after false ⟨20000000000⟩

/-- The client is closed. -/
def lastDeed : Deed Http.Endpoint := .close thirdDeed.after ⟨30000000000⟩

theorem life_strictClient : Life strictClient [firstDeed, secondDeed, thirdDeed, lastDeed]
    lastDeed.after lastDeed.endedAt := by
  have hfirst : Life strictClient [firstDeed] firstDeed.after firstDeed.endedAt :=
    .deed (.start ⟨0⟩) (by decide) (Deed.done_fetch rfl)
  have hsecond : Life strictClient [firstDeed, secondDeed] secondDeed.after secondDeed.endedAt :=
    .deed hfirst (by decide) (Deed.done_fetch rfl)
  have hthird : Life strictClient [firstDeed, secondDeed, thirdDeed] thirdDeed.after
      thirdDeed.endedAt := .deed hsecond (by decide) (Deed.done_fetch rfl)
  have hdone : lastDeed.Done := by
    refine ⟨rfl, rfl, by decide, ?_⟩
    rintro due ⟨⟩
  exact Life.deed (d := lastDeed) hthird (by decide) hdone

/-- The server rejects the secret `r` once, and the client does not send it again: what came with
the next token was another one. -/
theorem rejected_secret_is_dropped :
    (∀ d ∈ [firstDeed, secondDeed, thirdDeed, lastDeed], d.Rules) ∧
      thirdDeed.sent.map (·.request) = [strictClient.grantRequest (.refresh "s")] ∧
      secondDeed.Discards "r" ∧ ¬ thirdDeed.Sends "r" ∧ lastDeed.after.held = none := by
  have hrepresentable : ∀ d ∈ [firstDeed, secondDeed, thirdDeed, lastDeed], d.Representable := by
    intro d hd
    simp only [List.mem_cons, List.not_mem_nil, or_false] at hd
    rcases hd with rfl | rfl | rfl | rfl <;> exact Deed.representable_of_all rfl
  obtain ⟨hrules, -, hdropped⟩ := client_keeps_rules rfl life_strictClient hrepresentable
  have hdiscards : secondDeed.Discards "r" := Or.inl ⟨_, List.mem_cons_self, rfl, rfl⟩
  refine ⟨hrules, rfl, hdiscards, fun hsends => ?_, rfl⟩
  obtain ⟨x, hx, g, issuedAt, hissued, hsecret⟩ :=
    hdropped [firstDeed] secondDeed [] thirdDeed [lastDeed] rfl "r" hdiscards (Or.inl hsends)
  rw [List.mem_singleton.1 hx] at hissued
  have hother : (secondDeed.issued?.bind (·.1.refreshToken)) = some "s" := rfl
  simp [hissued, hsecret] at hother

/-- A client that wants encryption, at a server without. -/
def wary : TokenClient (Http.Wire Http.Endpoint) := { strictClient with requireHttps := true }

/-- Where a client does not let a fetch ask its address, even a forced fetch does not send the
credentials. -/
theorem refused_fetch_sends_nothing :
    ¬ ∀ (c₀ c : TokenClient (Http.Wire Http.Endpoint)) (deeds : List (Deed Http.Endpoint))
        (now : Instant), c₀.held = none → Life c₀ deeds c now →
        (∀ d ∈ deeds, d.Representable) → ∀ d ∈ deeds, ∀ force, d.act = .fetch force →
          ((∃ x ∈ d.sent, x.request = d.before.grantRequest .credentials) ↔
            force = true ∨ d.usable? = none ∨ d.rejected = true) := by
  intro claim
  have hlife : Life wary [.fetch wary true ⟨0⟩] (Deed.fetch wary true ⟨0⟩).after ⟨0⟩ :=
    .deed (.start ⟨0⟩) (by decide) (Deed.done_fetch rfl)
  have hrepresentable : (Deed.fetch wary true ⟨0⟩).Representable := Deed.representable_of_all rfl
  obtain ⟨x, hx, -⟩ := (claim wary _ _ ⟨0⟩ rfl hlife (by simpa using hrepresentable) _
    List.mem_cons_self true rfl).2 (Or.inl rfl)
  have hnothing : (Deed.fetch wary true ⟨0⟩).sent = [] := rfl
  rw [hnothing] at hx
  cases hx

end CredentialSupply
