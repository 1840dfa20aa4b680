import CredentialSupply.Proofs.Allowance
import CredentialSupply.Session.Basic

set_option autoImplicit false

/-!
# Looking keys up

A key that the served set does not have costs a forced fetch, so whoever presents made-up
identifiers could make a chain call its source as often as it likes. The limit of the chain bounds
that: keys that are looked up while the clock stands still (`Session.Resolved`) let no more fetches
through than the bucket shows tokens, and each of those calls the source once, or twice if the chain
retries. A key in a set that is still valid is found at once, in whatever state the rest is, or the
lookup crashes at the window of the cache and its session ends (`resolve_of_valid`).
-/

namespace CredentialSupply

variable {V σ C : Type}

namespace Machine

section Schedule

variable [Source σ V C] [Perishable V] {m n : Machine V σ C} {done : Machine V σ C → Bool}

theorem runUntil_of_done (h : done m = true) (fuel : Nat) : m.runUntil done fuel = m := by
  cases fuel with
  | zero => rfl
  | succ fuel => rw [runUntil, if_pos h]

theorem runUntil_succ (h : done m = false) (next : m.next? = some n) (fuel : Nat) :
    m.runUntil done (fuel + 1) = n.runUntil done fuel := by
  rw [runUntil, if_neg (by simp [h]), next]

/-- The schedule goes on with the running task. Where that is to go on after its step, the move is
the step and no more. -/
theorem next?_of_going {id : TaskId} {t t' : Task V C} {w : World V σ}
    (running : m.running = some id) (task : m.tasks[id]? = some t)
    (step : t.step m.world .job = (w, t')) (going : t'.control.isWaiting = false) :
    ∃ n, m.next? = some n ∧ n.world = w ∧ n.running = some id ∧ n.tasks[id]? = some t' ∧
      n.hasEnded id = false := by
  have hended : t'.hasEnded = false := by
    cases hcontrol : t'.control <;> simp [hcontrol, Control.isWaiting] at going <;>
      simp [Task.hasEnded, Task.ended?, hcontrol]
  have hwaiting : ∀ k : Machine V σ C, k.isWaiting t' = false := by
    intro k
    unfold isWaiting
    split
    next control => simp [control, Control.isWaiting] at going
    next => exact going
  have htask := getElem?_set_some t' task
  refine ⟨{ m with world := w, tasks := m.tasks.set id t' }, ?_, rfl, running, htask, ?_⟩
  · rw [next?, running]
    simp only [advance, task, step, hended, hwaiting, Bool.false_eq_true, if_false, ← running]
  · exact (hasEnded_of_task htask).trans hended

/-- The end of a task lets others run. -/
theorem running_advance_of_ended {id : TaskId} {t : Task V C} {favoured : Signal}
    (task : m.tasks[id]? = some t) (ended : (t.step m.world favoured).2.hasEnded = true) :
    (m.advance favoured id).running = none := by
  have hwaiting : ∀ k : Machine V σ C, k.isWaiting (t.step m.world favoured).2 = true := by
    intro k
    generalize (t.step m.world favoured).2 = t' at ended ⊢
    cases hcontrol : t'.control <;> simp [Task.hasEnded, Task.ended?, hcontrol] at ended
    simp [isWaiting, hcontrol, Control.isWaiting]
  simp only [advance, task, ended, hwaiting, if_true]
  exact running_reclaim _

/-- When the move comes with which a task ends, no task runs after it. -/
theorem running_of_ends {id : TaskId} (next : m.next? = some n) (waits : m.hasEnded id = false)
    (ended : n.hasEnded id = true) : n.running = none := by
  have hsame : n.tasks = m.tasks → n.running = none := by
    intro htasks
    rw [hasEnded, ended?, htasks] at ended
    rw [hasEnded, ended?, ended] at waits
    cases waits
  -- a task ends with a step of its own, after which nobody runs
  unfold next? at next
  split at next
  next i running =>
    cases next
    cases task : m.tasks[i]? with
    | none => exact hsame (by simp [Machine.advance, task])
    | some t =>
        have htasks := (advanced .job task).tasks
        by_cases hi : i = id
        · subst hi
          have task' : (m.advance .job i).tasks[i]? = some (t.step m.world .job).2 := by
            rw [htasks]
            exact getElem?_set_some _ task
          exact running_advance_of_ended task (by rwa [hasEnded_of_task task'] at ended)
        · rw [hasEnded, ended?, htasks, List.getElem?_set_ne hi] at ended
          rw [hasEnded, ended?, ended] at waits
          cases waits
  next i _ idle _ =>
    cases next
    exact hsame rfl
  next idle _ =>
    unfold passTime? at next
    split at next
    next => cases next
    next =>
      cases next
      exact hsame rfl

/-- A request that has been carried out leaves no task running. -/
theorem running_of_perform {request : Request}
    (ended : (m.perform request).2.hasEnded (m.perform request).1 = true) :
    (m.perform request).2.running = none := by
  have hrun : ∀ (fuel : Nat) (k : Machine V σ C), k.hasEnded m.tasks.length = false →
      (k.runUntil (·.hasEnded m.tasks.length) fuel).hasEnded m.tasks.length = true →
      (k.runUntil (·.hasEnded m.tasks.length) fuel).running = none := by
    intro fuel
    induction fuel with
    | zero =>
        intro k waits ended
        rw [runUntil, waits] at ended
        cases ended
    | succ fuel ih =>
        intro k waits ended
        cases next : k.next? with
        | none =>
            rw [runUntil, if_neg (by simp [waits]), next, waits] at ended
            cases ended
        | some l =>
            rw [runUntil_succ waits next] at ended ⊢
            cases hl : l.hasEnded m.tasks.length with
            | false => exact ih l hl ended
            | true =>
                rw [runUntil_of_done hl]
                exact running_of_ends next waits hl
  refine hrun patience _ ?_ ended
  have task : (m.submit request).2.tasks[m.tasks.length]? =
      some (Task.fresh m.tasks.length request) := List.getElem?_concat_length
  exact hasEnded_of_task task

end Schedule

/-! ## A fetch of a valid entry -/

section Fetch

variable [Source σ V C] [Perishable V] {m : Machine V σ C} {top : Nat} {c : Cache V} {e : Entry V}

/-- A lookup that finds a valid entry is served with its first step, unless the clock does not reach
to the end of the window. -/
theorem step_of_valid {t : Task V C} {w : World V σ} (favoured : Signal)
    (foreground : t.request.isWork = false) (control : t.control = .enter (top + 1) false)
    (cache : w.cache? top = some c) (valid : c.valid? w.now = some e) :
    ∃ w' : World V σ, w'.calls = w.calls ∧ t.step w favoured =
      (w', t.pass (if (c.noticed? e w.now).isSome then .value e.value else .crashed)) := by
  have hlayer := (World.cache?_eq_some_iff w top c).1 cache
  rw [Task.step_of_foreground favoured foreground]
  simp only [Task.advance, control, Task.enter, hlayer, Task.lookUp, Bool.false_eq_true, if_false,
    valid]
  split
  next noticed => exact ⟨w, rfl, by simp [noticed]⟩
  next c' noticed =>
    refine ⟨_, ?_, by rw [noticed]; rfl⟩
    exact congrArg Content.calls (World.content_rouse (w.setLayer top (.cache c')) top)

/-- A fetch that finds a valid entry is answered with it, and calls nothing. -/
theorem fetch_of_valid (layers : m.world.layers.length = top + 1)
    (cache : m.world.cache? top = some c) (valid : c.valid? m.world.now = some e) :
    (Session.fetch m false).1 =
        (if (c.noticed? e m.world.now).isSome then .value e.value else .crashed) ∧
      (Session.fetch m false).2.world.calls = m.world.calls := by
  generalize houtcome : (if (c.noticed? e m.world.now).isSome then Outcome.value e.value
    else .crashed) = outcome
  have hperform : m.perform (.fetch false) = (m.tasks.length,
      (m.submit (.fetch false)).2.runUntil (·.hasEnded m.tasks.length) (999999997 + 1 + 1 + 1)) :=
    rfl
  -- the task arrives and runs at once
  obtain ⟨ready, hworld⟩ : ∃ ready,
      (m.submit (.fetch false)).2.world = { m.world with ready } := by
    simp only [submit, spawn, resume, World.wake]
    split <;> exact ⟨_, rfl⟩
  have task₀ : (m.submit (.fetch false)).2.tasks[m.tasks.length]? =
      some (Task.fresh m.tasks.length (.fetch false)) := List.getElem?_concat_length
  have running₀ : (m.submit (.fetch false)).2.running = some m.tasks.length := rfl
  have waits₀ : (m.submit (.fetch false)).2.hasEnded m.tasks.length = false :=
    hasEnded_of_task task₀
  generalize (m.submit (.fetch false)).2 = k₀ at hperform hworld task₀ running₀ waits₀
  -- it enters at the top
  have step₀ : (Task.fresh m.tasks.length (.fetch false) : Task V C).step k₀.world .job =
      (k₀.world, ⟨m.tasks.length, .fetch false, .enter (top + 1) false, []⟩) := by
    rw [Task.step_of_foreground .job rfl, hworld, ← layers]
    rfl
  obtain ⟨k₁, next₀, hworld₁, running₁, task₁, waits₁⟩ :=
    next?_of_going running₀ task₀ step₀ rfl
  -- it is served
  have cache₁ : k₁.world.cache? top = some c := by
    rw [hworld₁, hworld]
    exact cache
  have now₁ : k₁.world.now = m.world.now := by
    rw [hworld₁, hworld]
  obtain ⟨w, hcalls, step₁⟩ := step_of_valid (e := e) (t := ⟨m.tasks.length, .fetch false,
    .enter (top + 1) false, []⟩) .job rfl rfl cache₁ (by rw [now₁]; exact valid)
  rw [now₁, houtcome] at step₁
  obtain ⟨k₂, next₁, hworld₂, running₂, task₂, waits₂⟩ :=
    next?_of_going running₁ task₁ step₁ rfl
  -- it ends
  have step₂ : (⟨m.tasks.length, .fetch false, .deliver outcome, []⟩ : Task V C).step
      k₂.world .job = (k₂.world, ⟨m.tasks.length, .fetch false,
        .ended (.fetched outcome) k₂.world.now, []⟩) := Task.step_of_foreground .job rfl
  have next₂ : k₂.next? = some (k₂.advance .job m.tasks.length) := by
    rw [next?, running₂]
  have task₃ := (advanced .job task₂).tasks
  have ended : (k₂.advance .job m.tasks.length).ended? m.tasks.length =
      some (.fetched outcome, k₂.world.now) := by
    rw [ended?, task₃, getElem?_set_some _ task₂]
    exact congrArg (fun next => Task.ended? next.2) step₂
  have hdone : m.perform (.fetch false) = (m.tasks.length, k₂.advance .job m.tasks.length) := by
    rw [hperform, runUntil_succ waits₀ next₀, runUntil_succ waits₁ next₁,
      runUntil_succ waits₂ next₂, runUntil_of_done (by rw [hasEnded, ended]; rfl)]
  constructor
  · simp only [Session.fetch, hdone, Session.outcome?, ended, Option.map_some, Option.getD_some]
  · simp only [Session.fetch, hdone]
    have hcontent := (content_advance .job task₂).trans
      (congrArg (fun next => next.1.content) step₂)
    have hlast : (k₂.advance .job m.tasks.length).world.calls = k₂.world.calls :=
      congrArg Content.calls hcontent
    rw [hlast, hworld₂, hcalls, hworld₁, hworld]

end Fetch

/-! ## Lookups one after the other -/

section Lookups

variable [Source σ V C] [Perishable V] {m n : Machine V σ C}

/-- A fetch that has come back with a value leaves no task running. -/
theorem running_of_fetch {force : Bool} {v : V} (h : (Session.fetch m force).1 = .value v) :
    (Session.fetch m force).2.running = none := by
  have hended : (m.perform (.fetch force)).2.hasEnded (m.perform (.fetch force)).1 = true := by
    cases houtcome : Session.outcome? (m.perform (.fetch force)).2 (m.perform (.fetch force)).1 with
    | none => simp [Session.fetch, houtcome] at h
    | some outcome =>
        unfold Session.outcome? at houtcome
        split at houtcome
        next ended => rw [hasEnded, ended]; rfl
        next => cases houtcome
  exact running_of_perform hended

/-- To look a key up is to fetch once, or twice, and so it is where the session ends with it. -/
theorem reaches_resolve [Keyed V] (idle : m.running = none) (kid : String) :
    Reaches m (Session.after (Session.resolve m kid)) := by
  have hfirst : Reaches m (Session.fetch m false).2 := reaches_perform idle rfl
  unfold Session.resolve
  split
  next v k hfetch =>
    rw [hfetch] at hfirst
    split
    next => exact hfirst
    next =>
      -- the set that was served lacks the key
      have hvalue : (Session.fetch m false).1 = .value v := congrArg Prod.fst hfetch
      have hrunning := running_of_fetch hvalue
      rw [hfetch] at hrunning
      have hsecond : Reaches k (Session.fetch k true).2 := reaches_perform hrunning rfl
      have hboth := hfirst.trans hsecond
      split
      next v' l hfetch' =>
        rw [hfetch'] at hboth
        split <;> exact hboth
      next f l hfetch' => rw [hfetch'] at hboth; exact hboth
      next l hfetch' => rw [hfetch'] at hboth; exact hboth
  next f k hfetch => rw [hfetch] at hfirst; exact hfirst
  next k hfetch => rw [hfetch] at hfirst; exact hfirst

end Lookups

end Machine

/-- Keys are looked up one after the other, from `m` to `n`, each by a session that finds no task
running. In between anything else may go on, and where a lookup ends its session, others go on with
the stack that is left. -/
inductive Session.Resolved [Source σ V C] [Perishable V] [Keyed V] :
    Machine V σ C → List String → Machine V σ C → Prop where
  | done (m : Machine V σ C) : Resolved m [] m
  | meanwhile {m k n : Machine V σ C} {kids : List String} (reach : m.Reaches k)
      (rest : Resolved k kids n) : Resolved m kids n
  | next {m n : Machine V σ C} {kid : String} {kids : List String} (idle : m.running = none)
      (rest : Resolved (Session.after (Session.resolve m kid)) kids n) : Resolved m (kid :: kids) n

theorem Session.Resolved.reaches [Source σ V C] [Perishable V] [Keyed V] {m n : Machine V σ C}
    {kids : List String} (h : Resolved m kids n) : m.Reaches n := by
  induction h with
  | done m => exact .refl m
  | meanwhile reach _ ih => exact reach.trans ih
  | next idle _ ih => exact (Machine.reaches_resolve idle _).trans ih

namespace Machine

section Theorem

variable [Source σ KeySet C] {m₀ m : Machine KeySet σ C} {c : Config} {source : σ}

/-- A key in a valid set is found by the fetch that is served with it, unless the clock does not
reach to the end of the window: then the session ends. -/
theorem resolve_of_valid {top : Nat} {cache : Cache KeySet} {e : Entry KeySet} {kid : String}
    (layers : m.world.layers.length = top + 1) (here : m.world.cache? top = some cache)
    (valid : cache.valid? m.world.now = some e)
    (known : ∃ key ∈ e.value.keys, key.id = some kid) :
    ∃ key ∈ e.value.keys, key.id = some kid ∧ ∃ n, n.world.calls = m.world.calls ∧
      Session.resolve m kid =
        if (cache.noticed? e m.world.now).isSome then .ok (.ok key, n) else .error n := by
  obtain ⟨key, hfind⟩ : ∃ key, e.value.find? kid = some key := by
    obtain ⟨key, hmem, hid⟩ := known
    rw [← Option.isSome_iff_exists, KeySet.find?, List.find?_isSome]
    exact ⟨key, hmem, decide_eq_true hid⟩
  obtain ⟨houtcome, hcalls⟩ := fetch_of_valid layers here valid
  have hlist : (e.value.keys.find? fun key => key.id = some kid) = some key := hfind
  have hid : decide (key.id = some kid) = true :=
    List.find?_some (p := fun key : Key => key.id = some kid) hlist
  refine ⟨key, List.mem_of_find?_eq_some hlist, of_decide_eq_true hid,
    (Session.fetch m false).2, hcalls, ?_⟩
  have hkey : Keyed.key? e.value kid = some key := hfind
  -- the lookup answers as its first fetch does
  have hfetch : Session.fetch m false =
      (if (cache.noticed? e m.world.now).isSome then .value e.value else .crashed,
        (Session.fetch m false).2) := Prod.ext houtcome rfl
  rw [Session.resolve, hfetch]
  cases hnoticed : (cache.noticed? e m.world.now).isSome with
  | true => simp only [if_true, hkey]
  | false => simp only [Bool.false_eq_true, if_false]

omit [Source σ KeySet C] in
/-- The bucket that a chain shows is that of its limit. -/
theorem available_of_rated (rated : Rated c m) (limited : c.rateLimited = true)
    (cached : c.cached = true) {b : TokenBucket}
    (here : m.world.layers[c.limitLayer]? = some (.rateLimit b)) :
    (Session.available m).1 = some (b.available m.world.now).1 := by
  have hbucket : Session.bucket? m = some (c.limitLayer, b) := by
    cases hb : Session.bucket? m with
    | none =>
        rw [Session.bucket?, List.findSome?_eq_none_iff] at hb
        have hmem : (Layer.rateLimit b, c.limitLayer) ∈ m.world.layers.zipIdx.reverse :=
          List.mem_reverse.2 (List.mem_zipIdx_iff_getElem?.2 here)
        cases hb _ hmem
    | some found =>
        obtain ⟨i, b'⟩ := found
        obtain ⟨⟨l, j⟩, hmem, hl⟩ := List.exists_of_findSome?_eq_some hb
        simp only [Option.map_eq_some_iff, Prod.mk.injEq] at hl
        obtain ⟨b'', hb'', rfl, rfl⟩ := hl
        have hj := List.mem_zipIdx_iff_getElem?.1 (List.mem_reverse.1 hmem)
        cases l <;> cases hb''
        have hkind := Content.kinds_getElem? (World.layers_content hj)
        rw [rated.kinds] at hkind
        obtain rfl := Config.eq_limitLayer limited cached hkind
        rw [here] at hj
        cases hj
        rfl
  simp only [Session.available, hbucket]

/-- While the clock stands still no more fetches come through the limit of a chain than its bucket
shows tokens, whatever is asked; each calls the source once, or twice if the chain retries; and to
look keys up, known ones or not, is such a run. A key in a set that is still valid is found without
a call, whatever the bucket and the source are like. Only where the clock does not reach to the end
of the window in which the cache refreshes early the lookup ends its session with a crash instead,
without a call as well. -/
theorem resolutions_within_allowance (built : c.build source = .ok m₀)
    (limited : c.rateLimited = true) (reach : Reaches m₀ m) :
    (∃ tokens, (Session.available m).1 = some tokens ∧ tokens ≤ c.bucketSize.toNat ∧
      ∀ {moves n}, Run m moves n → n.world.now = m.world.now →
        passages c.limitLayer moves ≤ tokens ∧
        ∀ among, callsSince among m n ≤
          c.callsPerFetch * passages c.limitLayer moves + debts c among m) ∧
    (∀ kids n, Session.Resolved m kids n → ∃ moves, Run m moves n) ∧
    ∀ cache e kid, m.world.cache? (c.limitLayer + 1) = some cache →
      cache.valid? m.world.now = some e → (∃ key ∈ e.value.keys, key.id = some kid) →
        ∃ key ∈ e.value.keys, key.id = some kid ∧ ∃ n, n.world.calls = m.world.calls ∧
          Session.resolve m kid =
            if (cache.noticed? e m.world.now).isSome then .ok (.ok key, n) else .error n := by
  have cached := Config.cached_of_rateLimited built limited
  obtain ⟨before, run₀⟩ := exists_run reach
  have rated := (rated_of_build built limited).run limited cached run₀
  refine ⟨?_, fun kids n resolved => exists_run resolved.reaches, ?_⟩
  · obtain ⟨b, here, capacity⟩ := rated.bucket
    refine ⟨_, available_of_rated rated limited cached here, ?_, ?_⟩
    · rw [← capacity]
      exact b.available_le m.world.now
    · intro moves n run still
      obtain ⟨b', -, -, spent⟩ := bucket_run rated.sound run here
      constructor
      · have := spent still
        omega
      · intro among
        have := callsSince_le rated limited cached among run
        omega
  · intro cache e kid here valid known
    have hlength := (Config.capped_limitLayer limited cached).length
    rw [← rated.kinds, Content.length_kinds, World.length_content] at hlength
    exact resolve_of_valid hlength here valid known

end Theorem

/-- A key. -/
def oldKey : Key := ⟨none, none, none, some "old", none, none, none, none, .octets "c2VjcmV0"⟩

/-- A source that always answers with the set of this key. -/
def keySource : Script KeySet := ⟨[⟨0, .value fun _ => ⟨[oldKey]⟩⟩], 0, false, false, 0⟩

/-- A cache above a limit of one call a minute, and a retry. -/
def limitedConfig : Config :=
  { Config.withName "jwks" with rateLimited := true, bucketSize := 1, retrying := true }

/-- The chain with these layers over that source. -/
def limitedChain : Machine KeySet (Script KeySet) (ScriptReply KeySet) :=
  match limitedConfig.build keySource with
  | .ok m => m
  | .error _ => bare "jwks" keySource []

/-- The chain after a fetch. -/
def drainedChain : Machine KeySet (Script KeySet) (ScriptReply KeySet) :=
  (requested (.fetch false) 14 limitedChain).2

/-- The bucket is empty: while the clock stands still no fetch comes through to the source, but the
key that was served is found. -/
theorem drained_chain_finds_key :
    limitedConfig.build keySource = .ok limitedChain ∧ limitedConfig.rateLimited = true ∧
      Reaches limitedChain drainedChain ∧ (Session.available drainedChain).1 = some 0 ∧
      (∀ moves n, Run drainedChain moves n → n.world.now = drainedChain.world.now →
        passages 1 moves = 0) ∧
      ∃ n, n.world.calls = drainedChain.world.calls ∧
        Session.resolve drainedChain "old" = .ok (.ok oldKey, n) := by
  have built : limitedConfig.build keySource = .ok limitedChain := rfl
  have reach : Reaches limitedChain drainedChain := (run_requested 14 rfl rfl).reaches
  have tokens : (Session.available drainedChain).1 = some 0 := by decide +kernel
  have served : ((drainedChain.world.cache? 2).bind fun c =>
      (c.valid? drainedChain.world.now).map Entry.value) = some ⟨[oldKey]⟩ := by decide +kernel
  have plain : ((drainedChain.world.cache? 2).all fun c => c.early.isNone) = true := by
    decide +kernel
  obtain ⟨⟨n, hn, -, bounded⟩, -, found⟩ := resolutions_within_allowance built rfl reach
  obtain ⟨c, here, hc⟩ := Option.bind_eq_some_iff.1 served
  obtain ⟨e, valid, hvalue⟩ := Option.map_eq_some_iff.1 hc
  have known : ∃ key ∈ e.value.keys, key.id = some "old" := ⟨oldKey, by simp [hvalue], rfl⟩
  obtain ⟨key, hmem, -, l, hcalls, hkey⟩ := found c e "old" here valid known
  have hearly : c.early = none := by simpa [here] using plain
  rw [tokens] at hn
  cases hn
  refine ⟨built, rfl, reach, tokens, ?_, ?_⟩
  · intro moves l run still
    exact Nat.le_zero.1 (bounded run still).1
  · rw [hvalue, List.mem_singleton] at hmem
    refine ⟨l, hcalls, ?_⟩
    rw [hkey, hmem]
    simp [Cache.noticed?, hearly]

end Machine

end CredentialSupply
