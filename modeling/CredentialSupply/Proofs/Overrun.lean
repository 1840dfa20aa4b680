import CredentialSupply.Proofs.Custody
import CredentialSupply.Proofs.Steady

set_option autoImplicit false

/-!
# What a reply can do to a fetch

A fetch of a token comes to an end, whatever the server answers and however long it takes
(`TokenClient.finishes_start`). It ends with a token or a failure but in one case: a reply grants a
token, and the clock does not reach the expiry that the reply gives to that token, or to the refresh
token that comes with it (`GrantedToken.Overruns`). `fetch_crashes_by_overrun_only` says so of every
fetch of a stack, whatever other tasks do meanwhile, and that without such a reply neither a task of
the stack crashes nor a worker ends untold.
-/

namespace CredentialSupply

open Http (Sending Wire)

/-- A call of a source comes to an end, whatever time passes each time that it waits, and whatever
becomes of the source meanwhile. -/
inductive Source.Finishes (σ : Type) {V C : Type} [Source σ V C] : Progress V C → Prop where
  | answer (outcome : Outcome V) : Finishes σ (.answer outcome)
  | wait {due : Instant} {call : C}
      (later : ∀ (now : Instant) (s : σ), Finishes σ (Source.resume call now s).2) :
      Finishes σ (.wait due call)

/-! ## Expiries that the clock does not reach -/

/-- The clock does not reach an expiry that comes with a grant at an instant: that of the refresh
token, if there is one, or that of the access token. -/
def GrantedToken.Overruns (g : GrantedToken) (now : Instant) : Prop :=
  (∃ secret seconds, g.refreshToken = some secret ∧ g.refreshTokenExpiresIn = some seconds ∧
      now.later? (Span.ofSeconds seconds) = none) ∨
    ∃ seconds, g.expiresIn = some seconds ∧ now.later? (Span.ofSeconds seconds) = none

theorem GrantedToken.expiry?_eq_none_iff (now : Instant) (seconds : Option UInt64) :
    expiry? now seconds = none ↔ ∃ n, seconds = some n ∧ now.later? (Span.ofSeconds n) = none := by
  cases seconds <;> simp [expiry?]

theorem GrantedToken.overruns_iff (g : GrantedToken) (now : Instant) :
    g.Overruns now ↔ g.refresh? now = none ∨ g.access? now = none := by
  have hrefresh : g.refresh? now = none ↔
      ∃ secret seconds, g.refreshToken = some secret ∧ g.refreshTokenExpiresIn = some seconds ∧
        now.later? (Span.ofSeconds seconds) = none := by
    rw [refresh?]
    cases g.refreshToken <;> simp [expiry?_eq_none_iff]
  rw [hrefresh, access?, Option.map_eq_none_iff, expiry?_eq_none_iff]
  rfl

/-! ## One step of a call -/

namespace TokenClient

section Finishes

variable {ν : Type} [Http.Network ν]

theorem finishes_requestWithCredentials (c : TokenClient ν) (now : Instant) :
    Source.Finishes (TokenClient ν) (c.requestWithCredentials now).2 := by
  have hresume : ∀ (reply : Http.Reply) (later : Instant) (s : TokenClient ν),
      Source.Finishes (TokenClient ν) (s.resume ⟨.credentials, reply⟩ later).2 := by
    intro reply later s
    rw [resume]
    exact .answer _
  simp only [requestWithCredentials]
  split
  · exact .answer _
  · exact .wait fun later s => hresume _ later s

theorem finishes_resume (call : TokenCall) (now : Instant) (c : TokenClient ν) :
    Source.Finishes (TokenClient ν) (c.resume call now).2 := by
  rw [resume]
  split
  · split
    · exact finishes_requestWithCredentials _ now
    · exact .answer _
  · exact .answer _

/-- A fetch waits for two replies at most. -/
theorem finishes_start (force : Bool) (now : Instant) (c : TokenClient ν) :
    Source.Finishes (TokenClient ν) (c.start force now).2 := by
  rw [start]
  split
  · exact .answer _
  · split
    · exact finishes_requestWithCredentials c now
    · split
      · simp only [requestWithRefresh]
        split
        · exact finishes_resume _ now _
        · exact .wait fun later s => finishes_resume _ later s
      · exact finishes_requestWithCredentials _ now

end Finishes

section Gains

variable {ν : Type} {c : TokenClient ν} {awaited : Option TokenCall} {new : List Sending}

/-- A step of a call takes a reply that grants a token. -/
def Gains (c : TokenClient ν) (awaited : Option TokenCall) (new : List Sending)
    (g : GrantedToken) : Prop :=
  ∃ call, c.Takes awaited new call ∧ c.granted call.reply = .ok g

theorem not_gains_nil (g : GrantedToken) : ¬ c.Gains none [] g := by
  rintro ⟨call, h | ⟨sentAt, h⟩, -⟩ <;> cases h

theorem gains_awaited_iff {call : TokenCall} {g : GrantedToken} :
    c.Gains (some call) [] g ↔ c.granted call.reply = .ok g := by
  constructor
  · rintro ⟨call', h | ⟨sentAt, h⟩, granted⟩
    · cases h
      exact granted
    · cases h
  · exact fun granted => ⟨call, Or.inl rfl, granted⟩

/-- After replies that grant nothing, what is gained is what the next reply grants. -/
theorem gains_append_iff {grant : Grant} {now : Instant} {reply : Http.Reply}
    {new' : List Sending} (asked : c.Asked grant now reply new')
    (before : ∀ g, ¬ c.Gains awaited new g) {g : GrantedToken} :
    c.Gains awaited (new ++ new') g ↔ c.granted reply = .ok g := by
  constructor
  · rintro ⟨call, h | ⟨sentAt, h⟩, granted⟩
    · exact absurd ⟨call, Or.inl h, granted⟩ (before g)
    · rcases List.mem_append.1 h with h | h
      · exact absurd ⟨call, Or.inr ⟨sentAt, h⟩, granted⟩ (before g)
      · cases asked with
        | sent sendable =>
            have hreply : call.reply = reply := congrArg Sending.reply (List.mem_singleton.1 h)
            rwa [hreply] at granted
        | unsent sendable refused => cases h
  · intro granted
    cases asked with
    | sent sendable =>
        exact ⟨⟨grant, reply⟩, Or.inr ⟨now, List.mem_append_right new List.mem_cons_self⟩, granted⟩
    | unsent sendable refused =>
        rw [refused] at granted
        cases granted

theorem conclude_crashes_iff (c : TokenClient ν) (reply : Http.Reply) (now : Instant) :
    (c.conclude reply now).2 = .crashed ↔ ∃ g, c.granted reply = .ok g ∧ g.Overruns now := by
  rw [conclude]
  split
  next g hg =>
    simp only [hg, Except.ok.injEq, exists_eq_left', GrantedToken.overruns_iff]
    rw [accept]
    split
    next hrefresh => simp [hrefresh]
    next held hrefresh => cases haccess : g.access? now <;> simp [hrefresh]
  next f hf => simp [hf]

end Gains

section Client

variable {ν : Type} [Http.Network ν] {c c₁ : TokenClient (Wire ν)} {now : Instant}
  {awaited : Option TokenCall} {new : List Sending} {held : Option RefreshToken}

/-- A step with which a call ends crashes just if it takes a reply that grants a token which
overruns the clock. -/
def Decided (c : TokenClient (Wire ν)) (now : Instant) (awaited : Option TokenCall)
    (next : TokenClient (Wire ν) × Progress AccessToken TokenCall) : Prop :=
  ∃ new held, Went c new held next.1 ∧ ∀ outcome, next.2 = .answer outcome →
    (outcome = .crashed ↔ ∃ g, c.Gains awaited new g ∧ g.Overruns now)

omit [Http.Network ν] in
theorem decided_conclude {reply : Http.Reply} (went : Went c new held c₁)
    (gains : ∀ g, c.Gains awaited new g ↔ c.granted reply = .ok g) :
    c.Decided now awaited ((c₁.conclude reply now).1, .answer (c₁.conclude reply now).2) := by
  obtain ⟨network, rfl, hsent⟩ := went
  obtain ⟨held', hclient, -⟩ := held_conclude { c with held, network } reply now
  refine ⟨new, held', ⟨network, by rw [hclient], hsent⟩, ?_⟩
  rintro outcome ⟨⟩
  simp only [gains]
  exact conclude_crashes_iff _ reply now

theorem decided_requestWithCredentials (went : Went c new held c₁)
    (before : ∀ g, ¬ c.Gains awaited new g) :
    c.Decided now awaited (c₁.requestWithCredentials now) := by
  obtain ⟨c₂, reply, new', hrequest, hwent, asked⟩ := went.request .credentials now
  rw [requestWithCredentials, hrequest]
  simp only
  split
  · exact decided_conclude hwent fun g => gains_append_iff asked before
  · exact ⟨_, held, hwent, fun outcome h => by cases h⟩

theorem decided_resume {call : TokenCall} (went : Went c new held c₁)
    (gains : ∀ g, c.Gains awaited new g ↔ c.granted call.reply = .ok g) :
    c.Decided now awaited (c₁.resume call now) := by
  rw [resume]
  split
  next secret f hgrant hrefused =>
    rw [went.granted_eq] at hrefused
    have before : ∀ g, ¬ c.Gains awaited new g := by
      intro g hg
      rw [gains, hrefused] at hg
      cases hg
    split
    · obtain ⟨network, rfl, hsent⟩ := went
      exact decided_requestWithCredentials ⟨network, rfl, hsent⟩ before
    · refine ⟨new, held, went, ?_⟩
      rintro outcome ⟨⟩
      simp [before]
  · exact decided_conclude went gains

theorem decided_start (force : Bool) (now : Instant) (c : TokenClient (Wire ν)) :
    c.Decided now none (c.start force now) := by
  rw [start]
  split
  · refine ⟨[], c.held, went_hold c c.held, ?_⟩
    rintro outcome ⟨⟩
    simp [not_gains_nil]
  · split
    · exact decided_requestWithCredentials (went_hold c c.held) not_gains_nil
    next t hsome =>
      split
      · obtain ⟨network, reply, new, hrequest, hsent, asked⟩ :=
          asked_request c (.refresh t.secret) now
        rw [requestWithRefresh, hrequest]
        simp only
        split
        · exact decided_resume ⟨network, rfl, hsent⟩ fun g => gains_append_iff asked not_gains_nil
        · exact ⟨new, c.held, ⟨network, rfl, hsent⟩, fun outcome h => by cases h⟩
      · exact decided_requestWithCredentials (went_hold c none) not_gains_nil

end Client

end TokenClient

/-! ## Stacks over one client -/

namespace Machine

section Overrun

variable {ν : Type} [Http.Network ν] {m n m₀ : TokenMachine ν}
  {moves : List (TokenMachine ν × TokenMachine ν)} {id : TaskId}

/-- With the move from `m` to `n` a task takes a reply that grants a token which overruns the
clock. -/
def TakesOverrun (m n : TokenMachine ν) (id : TaskId) : Prop :=
  ∃ call g, Receives m n id call ∧ m.world.source.granted call.reply = .ok g ∧
    g.Overruns m.world.now

omit [Http.Network ν] in
/-- A task takes just those grants with a move that its call takes. -/
theorem Custody.receives_iff {awaited : Option TokenCall} {new : List Sending} {call : TokenCall}
    {g : GrantedToken} (custody : Custody moves m) (running : m.running = some id)
    (awaits : ∀ call, awaited = some call ↔ InFlight m id call) (sent : n.sent = m.sent ++ new)
    (granted : m.world.source.granted call.reply = .ok g) :
    Receives m n id call ↔ m.world.source.Takes awaited new call := by
  constructor
  · rintro ⟨-, -, h | ⟨new', sent', sentAt, h⟩⟩
    · exact Or.inl ((awaits call).2 h)
    · obtain rfl : new' = new := List.append_cancel_left (sent'.symm.trans sent)
      exact Or.inr ⟨sentAt, h⟩
  · intro takes
    refine custody.receives running (fun call => (awaits call).1) sent takes ?_
    rw [granted]
    simp

omit [Http.Network ν] in
/-- The step of a call that ends it crashes just if a grant overruns the clock. -/
theorem Custody.crashed_iff_of_decided {awaited : Option TokenCall} {outcome : Outcome AccessToken}
    {next : TokenClient (Wire ν) × Progress AccessToken TokenCall} (custody : Custody moves m)
    (running : m.running = some id) (awaits : ∀ call, awaited = some call ↔ InFlight m id call)
    (client : n.world.source = next.1) (answered : next.2 = .answer outcome)
    (decided : m.world.source.Decided m.world.now awaited next) :
    outcome = .crashed ↔ TakesOverrun m n id := by
  obtain ⟨new, held, went, decided⟩ := decided
  have sent : n.sent = m.sent ++ new := (client ▸ went).sent_eq
  rw [decided outcome answered]
  constructor
  · rintro ⟨g, ⟨call, takes, granted⟩, overruns⟩
    have receives := (custody.receives_iff running awaits sent granted).2 takes
    exact ⟨call, g, receives, granted, overruns⟩
  · rintro ⟨call, g, receives, granted, overruns⟩
    have takes := (custody.receives_iff running awaits sent granted).1 receives
    exact ⟨g, ⟨call, takes, granted⟩, overruns⟩

/-- A call of the client that ends has crashed just if a grant overruns the clock. -/
theorem Custody.crashed_iff {outcome : Outcome AccessToken} (custody : Custody moves m)
    (call : CallMove m n id none (.answer outcome)) :
    outcome = .crashed ↔ TakesOverrun m n id := by
  obtain ⟨t, next, running, task, calls, sources, -⟩ := call
  generalize hprogress : Progress.answer outcome = progress at calls
  cases calls with
  | @start w' _ force s control here h =>
      cases here
      -- a task that is about to call waits for nothing
      have awaits : ∀ call, none = some call ↔ InFlight m id call := by
        refine fun call => ⟨fun h => (by cases h), ?_⟩
        rintro ⟨t', due, task', control'⟩
        rw [task] at task'
        cases task'
        rw [control] at control'
        cases control'
      exact custody.crashed_iff_of_decided running awaits (congrArg Prod.fst (sources.trans h))
        hprogress.symm (TokenClient.decided_start force m.world.now m.world.source)
  | @resume w' _ due call s control here h =>
      cases here
      have went := TokenClient.went_hold m.world.source m.world.source.held
      have awaits : ∀ call', some call = some call' ↔ InFlight m id call' := by
        intro call'
        constructor
        · rintro ⟨⟩
          exact ⟨t, due, task, control⟩
        · rintro ⟨t', due', task', control'⟩
          rw [task] at task'
          cases task'
          rw [control] at control'
          cases control'
          rfl
      exact custody.crashed_iff_of_decided running awaits (congrArg Prod.fst (sources.trans h))
        hprogress.symm (TokenClient.decided_resume went fun g => TokenClient.gains_awaited_iff)

theorem crashed_iff_run (fresh : m₀.Fresh) (run : Run m₀ moves m) :
    ∀ k l, (k, l) ∈ moves → ∀ id outcome, CallMove k l id none (.answer outcome) →
      (outcome = .crashed ↔ TakesOverrun k l id) := by
  -- by induction on the run: what a call gains is decided in the state that the last move finds
  induction run with
  | start => exact fun k l h => by cases h
  | @move moves m n run step ih =>
      intro k l h id outcome call
      rcases List.mem_append.1 h with h | h
      · exact ih k l h id outcome call
      · cases List.mem_singleton.1 h
        exact (custody_run fresh run).crashed_iff call

/-- A stack over one client has no other source that a task could call. -/
theorem call_of_client (fresh : m₀.Fresh) (alone : m₀.world.others = []) (run : Run m₀ moves m) :
    m.world.others = [] ∧ ∀ k l, (k, l) ∈ moves → ∀ id source progress,
      CallMove k l id source progress → source = none := by
  induction run with
  | start => exact ⟨alone, fun k l h => by cases h⟩
  | @move moves m n run step ih =>
      obtain ⟨alone, calls⟩ := ih
      have sound : m.Sound := sound_reaches fresh.sound run.reaches
      have still : n.world.others.length = 0 := by rw [others_length_move sound step, alone]; rfl
      refine ⟨List.length_eq_zero_iff.1 still, ?_⟩
      intro k l h id source progress call
      rcases List.mem_append.1 h with h | h
      · exact calls k l h id source progress call
      · cases List.mem_singleton.1 h
        obtain ⟨t, next, -, -, calls, -, -⟩ := call
        have hnone : ∀ {s : TokenClient (Wire ν)}, m.world.source? source = some s →
            source = none := by
          intro s here
          cases source with
          | none => rfl
          | some index => simp [World.source?, alone] at here
        cases calls with
        | start control here => exact hnone here
        | resume control here => exact hnone here

/-- A fetch of a token ends, and it ends with a crash just if it takes a reply that grants a token
which overruns the clock. -/
theorem fetch_crashes_by_overrun_only {name : String} {source : TokenClient (Wire ν)}
    {plans : List LayerPlan} {bound : List Bool}
    (built : build name source [] plans = .ok (bound, m₀)) (run : Run m₀ moves m) :
    (∀ force now (c : TokenClient (Wire ν)),
      Source.Finishes (TokenClient (Wire ν)) (c.start force now).2) ∧
    (∀ k l, (k, l) ∈ moves → ∀ id outcome, CallMove k l id none (.answer outcome) →
      (outcome = .crashed ↔ TakesOverrun k l id)) ∧
    ((∀ k l, (k, l) ∈ moves → ∀ id, ¬ TakesOverrun k l id) → m.world.HasRoom →
      ∀ t ∈ m.tasks, t.control.isCrash = false ∧
        (t.request.isWork = true → t.hasEnded = true → t.isStopped m.world = true)) := by
  have fresh : m₀.Fresh := fresh_of_build built
  have alone : m₀.world.others = [] := congrArg Prod.snd (sources_of_build built)
  have crashed := crashed_iff_run fresh run
  refine ⟨TokenClient.finishes_start, crashed, fun fine room t ht => ?_⟩
  obtain ⟨i, task⟩ := List.mem_iff_getElem?.1 ht
  have steady := steady_run_of_calls fresh run ?_ room i t task
  · exact ⟨steady.fine, steady.dismissed⟩
  · rintro k l h id source progress call rfl
    obtain rfl := (call_of_client fresh alone run).2 k l h id source _ call
    exact fine k l h id ((crashed k l h id _ call).1 rfl)

end Overrun

/-! ## A refresh token for longer than the clock runs -/

/-- Whether no reply on record grants what overruns the clock, to be computed. -/
theorem not_takesOverrun_of_all {ν : Type} {moves : List (TokenMachine ν × TokenMachine ν)}
    (h : (moves.all fun (k, l) => l.sent.all fun x =>
      match k.world.source.granted x.reply with
      | .ok g => (g.refresh? k.world.now).isSome && (g.access? k.world.now).isSome
      | .error _ => true) = true) :
    ∀ k l, (k, l) ∈ moves → ∀ id, ¬ TakesOverrun k l id := by
  rintro k l hmem id ⟨call, g, receives, granted, overruns⟩
  obtain ⟨sentAt, hsent⟩ := receives.recorded
  have hfine := List.all_eq_true.1 (List.all_eq_true.1 h (k, l) hmem) _ hsent
  rw [GrantedToken.overruns_iff] at overruns
  simp only [granted] at hfine
  rcases overruns with lost | lost <;> simp [lost] at hfine

/-- The answer to a request for a token: one token, and a refresh token for some seconds. -/
def refreshableToken (secret seconds : String) : String :=
  "\x7b\"access_token\":\"a\",\"refresh_token\":\"" ++ secret ++
    "\",\"refresh_token_expires_in\":" ++ seconds ++ "\x7d"

/-- A server that gives a refresh token for a minute, and then one for as many seconds as 64 bits
count. -/
def generousServer : SlowServer where
  replies :=
    [(1000, .ok, refreshableToken "second" "60"),
      (1000, .ok, refreshableToken "third" "18446744073709551615")]

/-- A chain without layers over a client of that server, which holds a first refresh token. -/
def generousChain : TokenMachine SlowServer :=
  bare uncachedChain.name { rotatingClient with network := ⟨generousServer, []⟩ } []

/-- One fetch has ended. -/
def fetchedOnce :
    List (TokenMachine SlowServer × TokenMachine SlowServer) × TokenMachine SlowServer :=
  requested (.fetch false) 8 generousChain

/-- Another one is about to take the reply that it has waited for. -/
def fetchesAgain :
    List (TokenMachine SlowServer × TokenMachine SlowServer) × TokenMachine SlowServer :=
  let again := requested (.fetch false) 6 fetchedOnce.2
  (fetchedOnce.1 ++ again.1, again.2)

/-- The second fetch crashes, because its reply gives a refresh token for longer than the clock
runs. Nothing crashes before. -/
theorem overlong_refresh_token_crashes_fetch :
    (∀ t ∈ fetchedOnce.2.tasks, t.control.isCrash = false) ∧
      fetchedOnce.2.world.source.held = some ⟨"second", some ⟨61000000000⟩⟩ ∧
      TakesOverrun fetchesAgain.2 (fetchesAgain.2.advance .job 1) 1 ∧
      ((fetchesAgain.2.advance .job 1).advance .job 1).ended? 1 =
        some (.fetched .crashed, ⟨2000000000⟩) := by
  have built : build uncachedChain.name { rotatingClient with network := ⟨generousServer, []⟩ } []
      uncachedChain.plans = .ok ([], generousChain) := rfl
  have once : Run generousChain fetchedOnce.1 fetchedOnce.2 := run_requested 8 rfl rfl
  have again : Run generousChain
      (fetchesAgain.1 ++ [(fetchesAgain.2, fetchesAgain.2.advance .job 1)])
      (fetchesAgain.2.advance .job 1) :=
    (once.append (run_requested 6 rfl rfl)).move (.advance .job rfl)
  obtain ⟨-, -, fine⟩ := fetch_crashes_by_overrun_only built once
  obtain ⟨-, crashed, -⟩ := fetch_crashes_by_overrun_only built again
  have room : fetchedOnce.2.world.HasRoom := ⟨fun kind h => (by cases h), rfl⟩
  have call :
      CallMove fetchesAgain.2 (fetchesAgain.2.advance .job 1) 1 none (.answer .crashed) := by
    obtain ⟨t, due, call, task, control, reached, goes, progress⟩ : ∃ t due call,
        fetchesAgain.2.tasks[1]? = some t ∧ t.control = .calling none due call ∧
          due.ceilMilli ≤ fetchesAgain.2.world.now ∧ t.isStopped fetchesAgain.2.world = false ∧
          (Source.resume call fetchesAgain.2.world.now fetchesAgain.2.world.source).2 =
            Progress.answer Outcome.crashed := ⟨_, _, _, rfl, rfl, by decide, rfl, rfl⟩
    rw [← progress]
    exact callMove_of_due .job rfl task control reached goes
  refine ⟨fun t ht => ?_, rfl, ?_, rfl⟩
  · exact (fine (not_takesOverrun_of_all rfl) room t ht).1
  · refine (crashed _ _ ?_ 1 _ call).1 rfl
    exact List.mem_append_right _ (List.mem_singleton.2 rfl)

end Machine

end CredentialSupply
