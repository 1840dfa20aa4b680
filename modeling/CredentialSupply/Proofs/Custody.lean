import CredentialSupply.Proofs.Contact
import CredentialSupply.Proofs.Grants

set_option autoImplicit false

/-!
# How a refresh token is lost

Any number of fetches may ask one token client at the same time. `Handled` says what one step of a
call makes of the refresh token that the client holds: it stays, a grant replaces it, or it is
dropped. A step drops the token after it has waited for the reply to a request that was made with
the token held then; in the meantime another fetch may have stored a new one. `refresh_token_leaves`
says that this is the only way in which a client loses a token that was neither replaced, nor
expired or rejected itself, nor given up by closing the client.
-/

namespace CredentialSupply

open Http (Sending Wire)

/-! ## One step of a call -/

namespace TokenClient

section Settings

variable {ν : Type}

/-- The reply that a call waits for is on record, unless no request could be sent for it. -/
def Records (c : TokenClient ν) (sent : List Sending) (call : TokenCall) : Prop :=
  (∃ sentAt, ⟨c.grantRequest call.grant, sentAt, call.reply⟩ ∈ sent) ∨
    c.granted call.reply = .error (.transport .request)

theorem Asked.records {c : TokenClient ν} {grant : Grant} {now : Instant} {reply : Http.Reply}
    {new : List Sending} (asked : c.Asked grant now reply new) : c.Records new ⟨grant, reply⟩ := by
  cases asked with
  | sent sendable => exact Or.inl ⟨now, List.mem_singleton.2 rfl⟩
  | unsent sendable refused => exact Or.inr refused

/-- A step of a call takes the reply to a request for a token: the one that the call has waited for,
or that to a request which the step has sent. -/
def Takes (c : TokenClient ν) (awaited : Option TokenCall) (new : List Sending)
    (call : TokenCall) : Prop :=
  awaited = some call ∨ ∃ sentAt, ⟨c.grantRequest call.grant, sentAt, call.reply⟩ ∈ new

theorem Takes.append {c : TokenClient ν} {awaited : Option TokenCall} {new : List Sending}
    {call : TokenCall} (h : c.Takes awaited new call) (later : List Sending) :
    c.Takes awaited (new ++ later) call := by
  rcases h with h | ⟨sentAt, h⟩
  · exact Or.inl h
  · exact Or.inr ⟨sentAt, List.mem_append_left later h⟩

/-- What a step of a call at an instant makes of the token that is held. -/
inductive Shift (c : TokenClient ν) (now : Instant) (awaited : Option TokenCall)
    (new : List Sending) : Option RefreshToken → Prop where
  | kept : Shift c now awaited new c.held
  /-- A grant replaces the token by the one that came with it, or by none. -/
  | granted {call : TokenCall} {g : GrantedToken} {held : Option RefreshToken}
      (takes : c.Takes awaited new call) (granted : c.granted call.reply = .ok g)
      (stored : g.refresh? now = some held) : Shift c now awaited new held
  /-- The token that was asked with is rejected, and whatever is held is dropped. What was asked
  with is what is held, unless the step has waited for the reply. -/
  | rejected {reply : Http.Reply} {secret : String}
      (takes : c.Takes awaited new ⟨.refresh secret, reply⟩) (rejects : c.rejects reply = true)
      (own : c.held.map RefreshToken.secret = some secret ∨
        awaited = some ⟨.refresh secret, reply⟩) : Shift c now awaited new none
  /-- The token that is held has expired. -/
  | expired {t : RefreshToken} (held : c.held = some t) (late : t.isUsable now = false)
      (starts : awaited = none) : Shift c now awaited new none

theorem Shift.append {c : TokenClient ν} {now : Instant} {awaited : Option TokenCall}
    {new : List Sending} {held : Option RefreshToken} (h : c.Shift now awaited new held)
    (later : List Sending) : c.Shift now awaited (new ++ later) held := by
  cases h with
  | kept => exact .kept
  | granted takes granted stored => exact .granted (takes.append later) granted stored
  | rejected takes rejects own => exact .rejected (takes.append later) rejects own
  | expired held late starts => exact .expired held late starts

/-- A client that concludes keeps what it holds, or stores what came with the grant. -/
theorem held_conclude (c : TokenClient ν) (reply : Http.Reply) (now : Instant) :
    ∃ held, (c.conclude reply now).1 = { c with held } ∧
      (held = c.held ∨ ∃ g, c.granted reply = .ok g ∧ g.refresh? now = some held) := by
  rw [conclude]
  split
  next g hg =>
    rw [accept]
    split
    · exact ⟨c.held, rfl, Or.inl rfl⟩
    next held hrefresh => exact ⟨held, rfl, Or.inr ⟨g, hg, hrefresh⟩⟩
  · exact ⟨c.held, rfl, Or.inl rfl⟩

end Settings

section Client

variable {ν : Type} [Http.Network ν] {c c₁ : TokenClient (Wire ν)} {now : Instant}
  {awaited : Option TokenCall} {new : List Sending} {held : Option RefreshToken}

/-- What a step of a call makes of a client: what is held shifts, some requests are sent, and a call
that waits afterwards is on record. One that waits for a grant with a refresh token has asked with
what is held. -/
def Handled (c : TokenClient (Wire ν)) (now : Instant) (awaited : Option TokenCall)
    (next : TokenClient (Wire ν) × Progress AccessToken TokenCall) : Prop :=
  ∃ new held, Went c new held next.1 ∧ c.Shift now awaited new held ∧
    ∀ due call, next.2 = .wait due call → c.Records new call ∧
      ∀ secret, call.grant = .refresh secret →
        held = c.held ∧ c.held.map RefreshToken.secret = some secret

omit [Http.Network ν] in
/-- The reply to a grant has come, and ends the call. -/
theorem handled_conclude {call : TokenCall} (went : Went c new held c₁)
    (shift : c.Shift now awaited new held) (takes : c.Takes awaited new call ∨
      c.granted call.reply = .error (.transport .request)) :
    c.Handled now awaited
      ((c₁.conclude call.reply now).1, .answer (c₁.conclude call.reply now).2) := by
  obtain ⟨network, rfl, hsent⟩ := went
  obtain ⟨held', hclient, hcases⟩ := held_conclude { c with held, network } call.reply now
  refine ⟨new, held', ⟨network, by rw [hclient], hsent⟩, ?_, fun due call h => by cases h⟩
  rcases hcases with rfl | ⟨g, hg, hstored⟩
  · exact shift
  · replace hg : c.granted call.reply = .ok g := hg
    rcases takes with takes | refused
    · exact .granted takes hg hstored
    · rw [refused] at hg
      cases hg

theorem handled_requestWithCredentials (went : Went c new held c₁)
    (shift : c.Shift now awaited new held) :
    c.Handled now awaited (c₁.requestWithCredentials now) := by
  obtain ⟨c₂, reply, new', hrequest, hwent, hasked⟩ := went.request .credentials now
  have hrecords : c.Records new' ⟨.credentials, reply⟩ := hasked.records
  rw [requestWithCredentials, hrequest]
  simp only
  split
  · have htakes : c.Takes awaited (new ++ new') ⟨.credentials, reply⟩ ∨
        c.granted reply = .error (.transport .request) := by
      rcases hrecords with ⟨sentAt, h⟩ | refused
      · exact Or.inl (Or.inr ⟨sentAt, List.mem_append_right new h⟩)
      · exact Or.inr refused
    exact handled_conclude hwent (shift.append new') htakes
  · refine ⟨new ++ new', held, hwent, shift.append new', ?_⟩
    rintro due call ⟨⟩
    refine ⟨?_, fun secret h => by cases h⟩
    rcases hrecords with ⟨sentAt, h⟩ | refused
    · exact Or.inl ⟨sentAt, List.mem_append_right new h⟩
    · exact Or.inr refused

/-- A reply to a grant has come. -/
theorem handled_resume {call : TokenCall} (went : Went c new c.held c₁)
    (takes : c.Takes awaited new call ∨ c.granted call.reply = .error (.transport .request))
    (own : ∀ secret, call.grant = .refresh secret →
      c.held.map RefreshToken.secret = some secret ∨ awaited = some call) :
    c.Handled now awaited (c₁.resume call now) := by
  rw [resume]
  split
  next secret f hgrant hrefused =>
    obtain ⟨network, rfl, hsent⟩ := went
    replace hrefused : c.granted call.reply = .error f := hrefused
    split
    next hinvalid =>
      have hrejects : c.rejects call.reply = true := by
        rw [rejects, hrefused]
        exact hinvalid
      -- only a reply that has come can reject a token
      rcases takes with takes | refused
      · have hwent : Went c new none { c with held := none, network } := ⟨network, rfl, hsent⟩
        have hown := own secret hgrant
        have hcall : call = ⟨.refresh secret, call.reply⟩ := by rw [← hgrant]
        rw [hcall] at takes hown
        exact handled_requestWithCredentials hwent (.rejected takes hrejects hown)
      · rw [refused] at hrefused
        cases hrefused
        cases hinvalid
    next =>
      exact ⟨new, c.held, ⟨network, rfl, hsent⟩, .kept, fun due call h => by cases h⟩
  next => exact handled_conclude went .kept takes

theorem handled_requestWithRefresh {t : RefreshToken} (holds : c.held = some t) :
    c.Handled now awaited (c.requestWithRefresh t.secret now) := by
  obtain ⟨network, reply, new, hrequest, hsent, hasked⟩ := asked_request c (.refresh t.secret) now
  have hsecret : c.held.map RefreshToken.secret = some t.secret := by rw [holds]; rfl
  have hwent : Went c new c.held { c with network } := ⟨network, rfl, hsent⟩
  rw [requestWithRefresh, hrequest]
  simp only
  split
  · refine handled_resume hwent ?_ ?_
    · rcases hasked.records with h | refused
      · exact Or.inl (Or.inr h)
      · exact Or.inr refused
    · rintro secret ⟨⟩
      exact Or.inl hsecret
  · refine ⟨new, c.held, hwent, .kept, ?_⟩
    rintro due call ⟨⟩
    refine ⟨hasked.records, ?_⟩
    rintro secret ⟨⟩
    exact ⟨rfl, hsecret⟩

theorem handled_start (force : Bool) (now : Instant) (c : TokenClient (Wire ν)) :
    c.Handled now none (c.start force now) := by
  rw [start]
  split
  · exact ⟨[], c.held, went_hold c c.held, .kept, fun due call h => by cases h⟩
  · split
    · exact handled_requestWithCredentials (went_hold c c.held) .kept
    next t hsome =>
      have hholds : c.held = some t := by
        cases force with
        | true => simp at hsome
        | false => simpa using hsome
      split
      · exact handled_requestWithRefresh hholds
      next hlate =>
        exact handled_requestWithCredentials (went_hold c none)
          (.expired hholds (by simpa using hlate) rfl)

/-- A client that is closed holds nothing. -/
theorem went_close (now : Instant) (c : TokenClient (Wire ν)) :
    ∃ new, Went c new none (c.close now).1 := by
  rw [close]
  split
  next t url holds hurl =>
    obtain ⟨hsent, -⟩ := Http.exchange_wire
      (Http.postForm url "*/*" c.credentials.clientId c.credentials.clientSecret
        [("token", t.secret), ("token_type_hint", "refresh_token")]) c.requestTimeout now c.network
    exact ⟨_, _, rfl, hsent⟩
  · exact ⟨[], went_hold c none⟩

end Client

end TokenClient

/-! ## Calls that overlap -/

namespace Machine

/-- Machines over a token client. -/
abbrev TokenMachine (ν : Type) : Type := Machine AccessToken (TokenClient (Wire ν)) TokenCall

section Custody

variable {ν : Type} [Http.Network ν]
  {m n m₀ : TokenMachine ν} {moves : List (TokenMachine ν × TokenMachine ν)}

/-- What the client of a machine has sent. -/
def sent (m : TokenMachine ν) : List Sending :=
  m.world.source.network.sent

/-- A call of the client waits for its reply. -/
def InFlight (m : TokenMachine ν) (id : TaskId)
    (call : TokenCall) : Prop :=
  ∃ t due, m.tasks[id]? = some t ∧ t.control = .calling none due call

/-- With the move from `m` to `n` a task takes the reply to a request for a token, which is on
record: it has waited for the reply, or has sent the request with this move. -/
structure Receives (m n : TokenMachine ν) (id : TaskId)
    (call : TokenCall) : Prop where
  running : m.running = some id
  recorded : ∃ sentAt, ⟨m.world.source.grantRequest call.grant, sentAt, call.reply⟩ ∈ n.sent
  now : InFlight m id call ∨ ∃ new, n.sent = m.sent ++ new ∧
    ∃ sentAt, ⟨m.world.source.grantRequest call.grant, sentAt, call.reply⟩ ∈ new

/-- With the move from `m` to `n` a task takes a grant, and what came with it is held. -/
def Stores (m n : TokenMachine ν) (id : TaskId)
    (held : Option RefreshToken) : Prop :=
  ∃ call g, Receives m n id call ∧ m.world.source.granted call.reply = .ok g ∧
    g.refresh? m.world.now = some held ∧ n.world.source.held = held

/-- While a call of one task waited for its reply, another task stored a token. -/
def StoredMeanwhile (moves : List (TokenMachine ν × TokenMachine ν)) (id : TaskId)
    (call : TokenCall) (r : RefreshToken) : Prop :=
  ∃ k l, (k, l) ∈ moves ∧ InFlight k id call ∧ ∃ other, other ≠ id ∧ Stores k l other (some r)

/-- What a move from `m` to `n` makes of the client. -/
inductive ClientMove (m n : TokenMachine ν) : Prop where
  | rest (client : n.world.source = m.world.source)
      (calls : ∀ id call, InFlight n id call → InFlight m id call)
  /-- A call starts, or goes on with the reply that it has waited for. -/
  | step {id : TaskId} {t : Task AccessToken TokenCall} {awaited : Option TokenCall}
      {next : TokenClient (Wire ν) × Progress AccessToken TokenCall}
      (running : m.running = some id) (task : m.tasks[id]? = some t)
      (starts : awaited = none → ∃ force, t.control = .call none force)
      (awaits : ∀ call, awaited = some call → InFlight m id call)
      (handled : m.world.source.Handled m.world.now awaited next)
      (client : n.world.source = next.1) (tasks : n.tasks = m.tasks.set id (t.await none next.2))
  | close {id : TaskId} {t : Task AccessToken TokenCall} {new : List Sending}
      (running : m.running = some id) (task : m.tasks[id]? = some t) (request : t.request = .close)
      (went : TokenClient.Went m.world.source new none n.world.source)
      (calls : ∀ id call, InFlight n id call → InFlight m id call)

theorem clientMove (move : SourceMove m n) : ClientMove m n := by
  cases move with
  | rest source calls =>
      refine .rest source ?_
      rintro id call ⟨t, due, task, control⟩
      exact ⟨t, due, calls id t due call task control, control⟩
  | @start id t force running task control source tasks =>
      exact .step running task (fun _ => ⟨force, control⟩) (fun call h => by cases h)
        (TokenClient.handled_start force m.world.now m.world.source) source tasks
  | @resume id t due call running task control source tasks =>
      have hwent := TokenClient.went_hold m.world.source m.world.source.held
      have hhandled : m.world.source.Handled m.world.now (some call)
          (m.world.source.resume call m.world.now) :=
        TokenClient.handled_resume hwent (Or.inl (Or.inl rfl)) fun _ _ => Or.inr rfl
      refine .step running task (fun h => by cases h) ?_ hhandled source tasks
      rintro call' ⟨⟩
      exact ⟨t, due, task, control⟩
  | close running task request source calls =>
      obtain ⟨new, hwent⟩ := TokenClient.went_close m.world.now m.world.source
      refine .close running task request (by rw [source]; exact hwent) ?_
      rintro id call ⟨t, due, task, control⟩
      exact ⟨t, due, calls id t due call task control, control⟩

/-- Every call that waits is on record. One that has asked with a refresh token has asked with the
one that is held, unless another task has stored that meanwhile. -/
def Custody (moves : List (TokenMachine ν × TokenMachine ν)) (m : TokenMachine ν) : Prop :=
  ∀ id call, InFlight m id call → m.world.source.Records m.sent call ∧
    ∀ secret r, call.grant = .refresh secret → m.world.source.held = some r →
      r.secret = secret ∨ StoredMeanwhile moves id call r

omit [Http.Network ν] in
/-- The reply that a step takes is on record. -/
theorem Custody.receives {id : TaskId} {awaited : Option TokenCall} {new : List Sending}
    {call : TokenCall} (custody : Custody moves m) (running : m.running = some id)
    (awaits : ∀ call, awaited = some call → InFlight m id call) (sent : n.sent = m.sent ++ new)
    (takes : m.world.source.Takes awaited new call)
    (served : m.world.source.granted call.reply ≠ .error (.transport .request)) :
    Receives m n id call := by
  rcases takes with hawaited | ⟨sentAt, hnew⟩
  · have hflight := awaits call hawaited
    refine ⟨running, ?_, Or.inl hflight⟩
    rcases (custody id call hflight).1 with ⟨sentAt, hsent⟩ | refused
    · exact ⟨sentAt, by rw [sent]; exact List.mem_append_left new hsent⟩
    · exact absurd refused served
  · exact ⟨running, ⟨sentAt, by rw [sent]; exact List.mem_append_right _ hnew⟩,
      Or.inr ⟨new, sent, sentAt, hnew⟩⟩

omit [Http.Network ν] in
theorem StoredMeanwhile.append {id : TaskId} {call : TokenCall} {r : RefreshToken}
    (h : StoredMeanwhile moves id call r) (later : List (TokenMachine ν × TokenMachine ν)) :
    StoredMeanwhile (moves ++ later) id call r := by
  obtain ⟨k, l, hmem, hrest⟩ := h
  exact ⟨k, l, List.mem_append_left later hmem, hrest⟩

omit [Http.Network ν] in
/-- What is on record stays on record for a client that has gone on. -/
theorem records_of_went {c c' : TokenClient (Wire ν)} {new : List Sending}
    {held : Option RefreshToken} {call : TokenCall} (went : TokenClient.Went c new held c')
    (h : c.Records c.network.sent call ∨ c.Records new call) :
    c'.Records c'.network.sent call := by
  obtain ⟨network, rfl, hsent⟩ := went
  rcases h with (⟨sentAt, h⟩ | h) | (⟨sentAt, h⟩ | h)
  · exact Or.inl ⟨sentAt, by rw [hsent]; exact List.mem_append_left new h⟩
  · exact Or.inr h
  · exact Or.inl ⟨sentAt, by rw [hsent]; exact List.mem_append_right _ h⟩
  · exact Or.inr h

/-- A task waits for the call that it has just made, or gone on with. -/
theorem wait_of_calling {V C : Type} {t : Task V C} {source : Option Nat}
    {progress : Progress V C} {due : Instant} {call : C}
    (control : (t.await source progress).control = .calling source due call) :
    progress = .wait due call := by
  cases progress with
  | wait due' call' =>
      cases control
      rfl
  | answer outcome => cases control

omit [Http.Network ν] in
theorem Custody.move (custody : Custody moves m) (move : ClientMove m n) :
    Custody (moves ++ [(m, n)]) n := by
  intro id call flight
  cases move with
  | rest client calls =>
      obtain ⟨hrecords, hheld⟩ := custody id call (calls id call flight)
      rw [client, sent, client]
      refine ⟨hrecords, fun secret r hgrant hr => ?_⟩
      exact (hheld secret r hgrant hr).imp_right (·.append _)
  | close running task request went calls =>
      obtain ⟨hrecords, -⟩ := custody id call (calls id call flight)
      refine ⟨records_of_went went (Or.inl hrecords), fun secret r hgrant hr => ?_⟩
      rw [went.held_eq] at hr
      cases hr
  | @step id' t awaited next running task starts awaits handled client tasks =>
      obtain ⟨new, held, hwent, hshift, hwaits⟩ := handled
      rw [← client] at hwent
      have hheld : n.world.source.held = held := hwent.held_eq
      have hsent : n.sent = m.sent ++ new := hwent.sent_eq
      obtain ⟨t', due, task', control'⟩ := flight
      rw [tasks] at task'
      rcases getElem?_set_cases task' with ⟨rfl, rfl⟩ | ⟨hne, task'⟩
      · -- the call has just begun to wait
        obtain ⟨hrecords, hsecret⟩ := hwaits due call (wait_of_calling control')
        refine ⟨records_of_went hwent (Or.inr hrecords), fun secret r hgrant hr => Or.inl ?_⟩
        obtain ⟨rfl, hown⟩ := hsecret secret hgrant
        rw [← hheld, hr] at hown
        exact Option.some.inj hown
      · obtain ⟨hrecords, hmine⟩ := custody id call ⟨t', due, task', control'⟩
        refine ⟨records_of_went hwent (Or.inl hrecords), fun secret r hgrant hr => ?_⟩
        have hr' : held = some r := hheld.symm.trans hr
        cases hshift with
        | kept => exact (hmine secret r hgrant hr').imp_right (·.append _)
        | @granted call' g held takes granted stored =>
            -- another task has just stored what is held now
            have hreceives : Receives m n id' call' := by
              refine custody.receives running awaits hsent takes ?_
              rw [granted]
              simp
            subst hr'
            exact Or.inr ⟨m, n, List.mem_append_right _ (List.mem_singleton.2 rfl),
              ⟨t', due, task', control'⟩, id', Ne.symm hne, call', g, hreceives, granted, stored,
              hr⟩
        | rejected | expired => cases hr'

/-- No call waits at the start, so the calls that wait are in order in every run. -/
theorem custody_run (fresh : m₀.Fresh) (run : Run m₀ moves m) : Custody moves m := by
  induction run with
  | start =>
      rintro id call ⟨t, due, task, control⟩
      obtain ⟨layer, c, r, rfl, -⟩ := fresh.tasks id t task
      cases control
  | @move moves m n run step ih =>
      have hsound : m.Sound := sound_reaches fresh.sound run.reaches
      exact ih.move (clientMove (sourceMove (contactMove hsound step)))

/-- How a token that is held is not held any more after the move from `m` to `n`. -/
inductive Leaves (moves : List (TokenMachine ν × TokenMachine ν)) (m n : TokenMachine ν)
    (r : RefreshToken) : Prop where
  /-- A grant replaces it. -/
  | replaced {id : TaskId} (stores : Stores m n id n.world.source.held)
  /-- A fetch that starts finds it expired. -/
  | expired {id : TaskId} {t : Task AccessToken TokenCall} {force : Bool}
      (running : m.running = some id) (task : m.tasks[id]? = some t)
      (control : t.control = .call none force) (late : r.isUsable m.world.now = false)
  /-- It is itself rejected. -/
  | rejected {id : TaskId} {reply : Http.Reply}
      (receives : Receives m n id ⟨.refresh r.secret, reply⟩)
      (rejects : m.world.source.rejects reply = true)
  | closed {id : TaskId} {t : Task AccessToken TokenCall} (running : m.running = some id)
      (task : m.tasks[id]? = some t) (request : t.request = .close)
  /-- Another one is rejected, which a fetch has asked with. While that fetch waited for the reply,
  another one stored the token that is lost. -/
  | overlapped {id : TaskId} {secret : String} {reply : Http.Reply} (other : secret ≠ r.secret)
      (receives : Receives m n id ⟨.refresh secret, reply⟩)
      (rejects : m.world.source.rejects reply = true)
      (meanwhile : StoredMeanwhile moves id ⟨.refresh secret, reply⟩ r)

/-- A token that is held stays until a grant replaces it, it is found expired or rejected itself,
the client is closed, or a fetch whose own token is rejected has overlapped with the one that stored
it. -/
theorem refresh_token_leaves {name : String} {source : TokenClient (Wire ν)}
    {others : List (TokenClient (Wire ν))} {plans : List LayerPlan} {bound : List Bool}
    (built : build name source others plans = .ok (bound, m₀)) (run : Run m₀ moves m)
    (move : Move m n) {r : RefreshToken} (held : m.world.source.held = some r)
    (gone : n.world.source.held ≠ some r) : Leaves moves m n r := by
  have fresh : m₀.Fresh := fresh_of_build built
  have hcustody : Custody moves m := custody_run fresh run
  have hsound : m.Sound := sound_reaches fresh.sound run.reaches
  cases clientMove (sourceMove (contactMove hsound move)) with
  | rest client calls => exact absurd (by rw [client]; exact held) gone
  | close running task request went calls => exact .closed running task request
  | @step id t awaited next running task starts awaits handled client tasks =>
      obtain ⟨new, held', hwent, hshift, -⟩ := handled
      rw [← client] at hwent
      have hheld : n.world.source.held = held' := hwent.held_eq
      have hsent : n.sent = m.sent ++ new := hwent.sent_eq
      cases hshift with
      | kept => exact absurd (hheld.trans held) gone
      | @granted call g held' takes granted stored =>
          have hreceives : Receives m n id call := by
            refine hcustody.receives running awaits hsent takes ?_
            rw [granted]
            simp
          rw [← hheld] at stored
          exact .replaced ⟨call, g, hreceives, granted, stored, rfl⟩
      | @rejected reply secret takes rejects own =>
          have hreceives : Receives m n id ⟨.refresh secret, reply⟩ := by
            refine hcustody.receives running awaits hsent takes fun refused => ?_
            rw [TokenClient.rejects, refused] at rejects
            cases rejects
          -- the token that is lost need not be the one that was asked with
          by_cases hsecret : secret = r.secret
          · subst hsecret
            exact .rejected hreceives rejects
          · rcases own with own | own
            · rw [held] at own
              exact absurd (Option.some.inj own).symm hsecret
            · rcases (hcustody id _ (awaits _ own)).2 secret r rfl held with h | h
              · exact absurd h.symm hsecret
              · exact .overlapped hsecret hreceives rejects h
      | @expired t' holds late hstarts =>
          obtain ⟨force, control⟩ := starts hstarts
          rw [held] at holds
          cases holds
          exact .expired running task control late

end Custody

/-! ## Two fetches that overlap -/

/-- A server that takes its time: its replies, each with the milliseconds after which it comes. -/
structure SlowServer where
  replies : List (Nat × Http.Status × String)

instance : Http.Network SlowServer where
  send _ _ now s :=
    match s.replies with
    | [] => (s, ⟨.error .connect, now⟩)
    | (delay, status, body) :: rest =>
        let arrivesAt : Instant := ⟨now.nanos + delay * nanosPerMilli⟩
        (⟨rest⟩, ⟨.ok ⟨status, none, .ok (Utf8.encode body), arrivesAt⟩, arrivesAt⟩)

/-- A server that gives a new refresh token for each one that is used, and takes no used one. -/
def rotatingServer : SlowServer where
  replies :=
    [(1000, .ok, "\x7b\"access_token\":\"a\",\"refresh_token\":\"second\"\x7d"),
      (2000, .badRequest, "\x7b\"error\":\"invalid_grant\"\x7d")]

/-- A client of that server which holds a first refresh token. -/
def rotatingClient : TokenClient (Wire SlowServer) :=
  let url : Url := ⟨"http", some ⟨"", "", .name "idp.test", none⟩, .segments ["token"], none, none⟩
  { TokenClient.standard url ⟨"id", "secret", none⟩ ⟨rotatingServer, []⟩ with
    requireHttps := false
    held := some ⟨"first", none⟩ }

/-- A chain without a cache. -/
def uncachedChain : Config := { Config.standard with cached := false }

/-- The chain over that client, before it has run. -/
def rotatingChain : TokenMachine SlowServer := bare uncachedChain.name rotatingClient []

/-- Two fetches have asked with the first refresh token. -/
def bothAsked : List (TokenMachine SlowServer × TokenMachine SlowServer) × TokenMachine SlowServer :=
  let one := requested (.fetch false) 4 rotatingChain
  let other := requested (.fetch false) 4 one.2
  (one.1 ++ other.1, other.2)

/-- The first of them has stored the second refresh token, and the other one is told that the first
refresh token is rejected. -/
def lateRejection :
    List (TokenMachine SlowServer × TokenMachine SlowServer) × TokenMachine SlowServer :=
  let later := scheduled 6 bothAsked.2
  (bothAsked.1 ++ later.1, later.2)

theorem run_lateRejection :
    Run rotatingChain lateRejection.1 lateRejection.2 :=
  ((run_requested 4 rfl rfl).append (run_requested 4 rfl rfl)).append (run_scheduled 6 _)

/-- The reply that the other fetch takes rejects the first refresh token, and the one to its request
with the credentials, which nobody answers, grants nothing. -/
theorem receives_lateRejection {id : TaskId} {call : TokenCall}
    (h : Receives lateRejection.2 (lateRejection.2.advance .job 1) id call) :
    id = 1 ∧ call.grant ≠ .refresh "second" ∧
      ∀ g, lateRejection.2.world.source.granted call.reply ≠ .ok g := by
  obtain ⟨running, -, hnow⟩ := h
  have hid : some 1 = some id := running
  cases hid
  refine ⟨rfl, ?_⟩
  rcases hnow with ⟨t, due, task, control⟩ | ⟨new, hsent, sentAt, hnew⟩
  · obtain ⟨t', ht', due', reply, control', hrefused⟩ : ∃ t', lateRejection.2.tasks[1]? = some t' ∧
        ∃ due reply, t'.control = .calling none due ⟨.refresh "first", reply⟩ ∧
          (lateRejection.2.world.source.granted reply).isOk = false := ⟨_, rfl, _, _, rfl, rfl⟩
    rw [task] at ht'
    cases ht'
    rw [control] at control'
    cases control'
    refine ⟨by simp, fun g hg => ?_⟩
    rw [hg] at hrefused
    cases hrefused
  · obtain ⟨x, hx, hrequest, hreply⟩ : ∃ x : Sending,
        (lateRejection.2.advance .job 1).sent = lateRejection.2.sent ++ [x] ∧
          x.request = lateRejection.2.world.source.grantRequest .credentials ∧
          (lateRejection.2.world.source.granted x.reply).isOk = false := ⟨_, rfl, rfl, rfl⟩
    rw [hx] at hsent
    cases List.append_cancel_left hsent
    cases List.mem_singleton.1 hnew
    refine ⟨fun hgrant => ?_, fun g hg => ?_⟩
    · simp only [hgrant] at hrequest
      exact TokenClient.grantRequest_refresh_ne _ "second" hrequest.symm
    · rw [hg] at hreply
      cases hreply

/-- The second refresh token is lost although it is neither replaced, nor expired or rejected, nor
given up: a fetch that has asked with the first one drops it. -/
theorem second_token_is_lost :
    lateRejection.2.world.source.held = some ⟨"second", none⟩ ∧
      (lateRejection.2.advance .job 1).world.source.held = none ∧
      ∃ secret reply, secret ≠ "second" ∧
        Receives lateRejection.2 (lateRejection.2.advance .job 1) 1 ⟨.refresh secret, reply⟩ ∧
        StoredMeanwhile lateRejection.1 1 ⟨.refresh secret, reply⟩ ⟨"second", none⟩ := by
  have hheld : lateRejection.2.world.source.held = some ⟨"second", none⟩ := rfl
  have hgone : (lateRejection.2.advance .job 1).world.source.held = none := rfl
  have built : build uncachedChain.name rotatingClient [] uncachedChain.plans =
      .ok ([], rotatingChain) := rfl
  have move : Move lateRejection.2 (lateRejection.2.advance .job 1) := .advance .job rfl
  have hleaves := refresh_token_leaves built run_lateRejection move hheld (by rw [hgone]; simp)
  refine ⟨hheld, hgone, ?_⟩
  cases hleaves with
  | replaced stores =>
      obtain ⟨call, g, hreceives, hgranted, -⟩ := stores
      exact absurd hgranted ((receives_lateRejection hreceives).2.2 g)
  | expired running task control late => cases late
  | rejected receives rejects => exact absurd rfl (receives_lateRejection receives).2.1
  | @closed id t running task request =>
      cases running
      cases task
      cases request
  | overlapped other receives rejects meanwhile =>
      obtain ⟨rfl, -⟩ := receives_lateRejection receives
      exact ⟨_, _, other, receives, meanwhile⟩

end Machine

end CredentialSupply
