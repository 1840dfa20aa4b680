import CredentialSupply.Proofs.Acceptance
import CredentialSupply.Proofs.Attempts
import CredentialSupply.Proofs.Record
import CredentialSupply.Proofs.Rounding

set_option autoImplicit false

/-!
# What a rate limit allows

The limit of a chain stands right below its cache, so that every fetch that goes on to the source
comes through it (`Task.passes`). While the clock stands still each passage takes one of the tokens
that the bucket shows (`bucket_run`). What a task still owes the source (`Task.owed`) it owes for a
fetch that has come through: a step makes calls out of what its task owes, and only a passage adds
to it (`Stride.owes`). So calls and debts of any tasks together are covered by the passages
(`total_owed_run`).
-/

namespace CredentialSupply

variable {V σ C : Type}

/-! ## Where the limit stands -/

namespace Config

variable {c : Config}

/-- Where the limit of the rate stands. -/
def limitLayer (c : Config) : Nat := c.healthLayer + if c.health then 1 else 0

/-- Calls that may come of one fetch below the limit: two if the chain retries. -/
def callsPerFetch (c : Config) : Nat := if c.retrying then 2 else 1

/-- A limit needs a cache. -/
theorem cached_of_rateLimited {source : σ} {m : Machine V σ C} (built : c.build source = .ok m)
    (limited : c.rateLimited = true) : c.cached = true := by
  cases hv : c.validate with
  | error f =>
      rw [build, hv] at built
      cases built
  | ok u =>
      have hcache := (valid_of_validate hv).cache
      by_contra uncached
      simp [validateCache, uncached, limited] at hcache

/-- The cache stands right above the limit. -/
theorem kinds_limited (limited : c.rateLimited = true) (cached : c.cached = true) :
    ∃ lower : List Kind, lower.length = c.limitLayer ∧ .rateLimit ∉ lower ∧
      lower.countP Kind.isRetry = (if c.retrying then 1 else 0) ∧
      c.kinds = lower ++ [.rateLimit, .cache c.cacheSettings 0] := by
  refine ⟨c.innermost.map LayerPlan.kind ++
    (if c.health then [Kind.health (some (.level c.kinds.length))] else []), ?_, ?_, ?_, ?_⟩
  · rw [limitLayer, healthLayer]
    cases c.health <;> simp
  · simp only [innermost]
    cases c.retrying <;> cases c.outageCached <;> cases c.health <;> simp [LayerPlan.kind]
  · simp only [innermost]
    cases c.retrying <;> cases c.outageCached <;> cases c.health <;> rfl
  · refine (kinds_split c).trans ?_
    simp [outermost, topmost, limited, cached, LayerPlan.kind]

theorem kinds_limitLayer (limited : c.rateLimited = true) (cached : c.cached = true) :
    c.kinds[c.limitLayer]? = some .rateLimit := by
  obtain ⟨lower, hlength, -, -, hkinds⟩ := kinds_limited limited cached
  simp [hkinds, ← hlength]

/-- There is no other limit. -/
theorem eq_limitLayer (limited : c.rateLimited = true) (cached : c.cached = true) {i : Nat}
    (h : c.kinds[i]? = some .rateLimit) : i = c.limitLayer := by
  obtain ⟨lower, hlength, hnone, -, hkinds⟩ := kinds_limited limited cached
  rw [hkinds, List.getElem?_append] at h
  split at h
  · exact absurd (List.mem_of_getElem? h) hnone
  next hge =>
    obtain hi | ⟨j, hi⟩ : i - lower.length = 0 ∨ ∃ j, i - lower.length = j + 1 := by
      cases i - lower.length with
      | zero => exact Or.inl rfl
      | succ j => exact Or.inr ⟨j, rfl⟩
    · omega
    · rw [hi] at h
      cases j <;> simp at h

theorem capped_limitLayer (limited : c.rateLimited = true) (cached : c.cached = true) :
    Capped c.kinds (c.limitLayer + 1) := by
  obtain ⟨lower, hlength, -, -, hkinds⟩ := kinds_limited limited cached
  obtain ⟨top, hcapped⟩ := exists_capped cached
  have htop : c.limitLayer + 1 = top := by
    have hkindsLength := hcapped.length
    rw [hkinds, List.length_append, hlength] at hkindsLength
    simp only [List.length_cons, List.length_nil] at hkindsLength
    omega
  rw [htop]
  exact hcapped

theorem callsPerFetch_eq (limited : c.rateLimited = true) (cached : c.cached = true) :
    2 ^ retriesBelow c.kinds c.limitLayer = c.callsPerFetch := by
  obtain ⟨lower, hlength, -, hretries, hkinds⟩ := kinds_limited limited cached
  rw [retriesBelow, hkinds, List.take_left' hlength, hretries, callsPerFetch]
  cases c.retrying <;> rfl

end Config

/-! ## What tasks owe -/

/-- The calls of the source that may yet come of a control below the limit. -/
def Control.owed (kinds : List Kind) (limit : Nat) : Control V C → Nat
  | .enter level _ => if level ≤ limit then 2 ^ retriesBelow kinds level else 0
  | .call none _ => 1
  | _ => 0

/-- The calls of the source that may yet come of what a task does below the limit. -/
def Task.owed (kinds : List Kind) (limit : Nat) (t : Task V C) : Nat :=
  t.control.owed kinds limit + spareOf kinds t.frames

/-- With the step from `t` to `t'` a fetch comes through the limit. -/
def Task.passes (limit : Nat) (t t' : Task V C) : Bool :=
  t.control.isAt (limit + 1) && t'.control.isAt limit

theorem Control.owed_of_isIdle {x : Control V C} (idle : x.isIdle = true) (kinds : List Kind)
    (limit : Nat) : x.owed kinds limit = 0 := by
  cases x <;> first | (cases idle; done) | rfl

theorem Control.owed_enter_above {kinds : List Kind} {limit level : Nat} {force : Bool}
    (above : limit < level) : (.enter level force : Control V C).owed kinds limit = 0 :=
  if_neg (by omega)

theorem Control.owed_await (kinds : List Kind) (limit : Nat) (t : Task V C) (source : Option Nat)
    (progress : Progress V C) : (t.await source progress).control.owed kinds limit = 0 := by
  cases progress <;> rfl

/-- The calls of the source that some tasks have made, and what they owe. -/
def owedAccount (kinds : List Kind) (limit : Nat) (among : TaskId → Bool) : Account V C where
  books k := (k.calls.countP fun call => among call.task : Nat)
  share t := if among t.id then (t.owed kinds limit : Nat) else 0

/-- What the step from `t` to `t'` does for the source: the calls are made out of what the task owes,
which only a passage adds to. -/
structure Payment (limit : Nat) (t t' : Task V C) (k k' : Content V) (made : List SourceCall) :
    Prop where
  calls : k'.calls = k.calls ++ made
  own : ∀ call ∈ made, call.task = t.id
  owes : made.length + t'.owed k.kinds limit ≤
    t.owed k.kinds limit + if t.passes limit t' then 2 ^ retriesBelow k.kinds limit else 0

section Stride

variable {limit : Nat} {t t' : Task V C} {k k' : Content V}

/-- Nothing is called, and no more is owed than before. -/
theorem Payment.nothing (calls : k'.calls = k.calls)
    (owed : t'.owed k.kinds limit ≤ t.owed k.kinds limit) : Payment limit t t' k k' [] := by
  refine ⟨by rw [calls, List.append_nil], by simp, ?_⟩
  rw [List.length_nil]
  omega

/-- Nothing is called, and what was owed for the control is not owed any more. -/
theorem Payment.free {x : Control V C} {frames : List Frame} (calls : k'.calls = k.calls)
    (hx : x.owed k.kinds limit = 0) (sub : frames <:+ t.frames) :
    Payment limit t { t with frames, control := x } k k' [] := by
  have hframes := spareOf_suffix k.kinds sub
  refine .nothing calls ?_
  simp only [Task.owed, hx]
  omega

/-- A layer lets a fetch through that is below the limit. If it retries, one attempt goes on, and
one is left with the frame. -/
theorem Payment.wrap {layer : Nat} {force : Bool} {l : Layer V} {f : Frame}
    (control : t.control = .enter (layer + 1) force) (here : k.layers[layer]? = some l)
    (frame : l.frame? layer force = some f) (below : layer < limit) :
    Payment limit t (t.push f (.enter layer force)) k k [] := by
  have hmono : 2 ^ retriesBelow k.kinds layer ≤ 2 ^ retriesBelow k.kinds (layer + 1) :=
    Nat.pow_le_pow_right Nat.two_pos (retriesBelow_mono k.kinds (Nat.le_succ layer))
  refine .nothing rfl ?_
  simp only [Task.push, Task.owed, control, Control.owed, spareOf_cons,
    if_pos (Nat.le_of_lt below), if_pos (Nat.succ_le_of_lt below)]
  cases l with
  | retry =>
      cases frame
      rw [retriesBelow_succ (Content.kinds_getElem? here), Nat.pow_succ]
      simp only [Frame.spare]
      omega
  | outage _ _ | health _ =>
      cases frame
      simp only [Frame.spare]
      omega
  | rateLimit _ | cache _ => cases frame

/-- A limit lets a fetch through. If it is the one, that is a passage. -/
theorem Payment.grant {layer : Nat} {force : Bool} (control : t.control = .enter (layer + 1) force)
    (calls : k'.calls = k.calls) (below : layer ≤ limit) :
    Payment limit t (t.goto (.enter layer force)) k k' [] := by
  rcases Nat.lt_or_eq_of_le below with hlt | rfl
  · have hmono : 2 ^ retriesBelow k.kinds layer ≤ 2 ^ retriesBelow k.kinds (layer + 1) :=
      Nat.pow_le_pow_right Nat.two_pos (retriesBelow_mono k.kinds (Nat.le_succ layer))
    refine .nothing calls ?_
    simp only [Task.goto, Task.owed, control, Control.owed, if_pos (Nat.le_of_lt hlt),
      if_pos (Nat.succ_le_of_lt hlt)]
    omega
  · refine ⟨by rw [calls, List.append_nil], by simp, ?_⟩
    simp [Task.goto, Task.owed, Task.passes, control, Control.owed, Control.isAt]
    omega

/-- The call that a task owes is made. -/
theorem Payment.call {force : Bool} {progress : Progress V C}
    (control : t.control = .call none force) :
    Payment limit t (t.await none progress) k
      { k with calls := k.calls ++ [⟨k.now, force, t.id⟩] } [⟨k.now, force, t.id⟩] := by
  have hbefore : t.control.owed k.kinds limit = 1 := by rw [control]; rfl
  refine ⟨rfl, by simp, ?_⟩
  rw [Task.owed, Task.owed, Task.frames_await, Control.owed_await, hbefore, List.length_singleton]
  omega

variable [Perishable V]

/-- Calls of the source are made out of what the task owes, which only a passage adds to. -/
theorem Stride.owes (capped : Capped k.kinds (limit + 1))
    (limited : k.kinds[limit]? = some .rateLimit) (sheltered : t.Sheltered (limit + 1))
    (h : Stride t k t' k') : ∃ made, Payment limit t t' k k' made := by
  have hpop : ∀ {f : Frame} {frames : List Frame}, t.frames = f :: frames →
      frames <:+ t.frames := fun head => by rw [head]; exact List.suffix_cons _ _
  have hsame : t.frames <:+ t.frames := List.suffix_refl _
  cases h with
  | stay => exact ⟨_, .nothing rfl (Nat.le_refl _)⟩
  | rest idle idle' answer => exact ⟨_, .free rfl (Control.owed_of_isIdle idle' _ _) hsame⟩
  | start control request =>
      have hlength := capped.length
      rw [Content.length_kinds] at hlength
      exact ⟨_, .free rfl (Control.owed_enter_above (by omega)) hsame⟩
  | @query layer record refresh control request here =>
      refine ⟨_, .nothing rfl ?_⟩
      have habove : (Control.enter (limit + 1 + 1) false : Control V C).owed k.kinds limit = 0 :=
        Control.owed_enter_above (by omega)
      rw [capped.aim here]
      simp [Task.push, Task.owed, spareOf_cons, Frame.spare, habove]
  | bottom control =>
      exact ⟨_, .nothing rfl (by simp [Task.goto, Task.owed, control, Control.owed, retriesBelow])⟩
  | skip control missing => exact absurd missing (sheltered.not_missing capped control)
  | @wrap layer force l f control here frame =>
      have hle := (sheltered.below capped control here (Layer.ne_cache_of_frame? frame)).1
      -- the limit leaves no frame
      have hne : layer ≠ limit := by
        rintro rfl
        rw [Content.kinds_getElem? here] at limited
        cases l <;> cases frame <;> cases limited
      exact ⟨_, .wrap control here frame (by omega)⟩
  | grant control here =>
      have hle := (sheltered.below capped control here (by simp)).1
      exact ⟨_, .grant control rfl (Nat.le_of_lt_succ hle)⟩
  | @call source force progress control =>
      cases source with
      | some index =>
          refine ⟨_, .nothing rfl ?_⟩
          simp [Task.owed, Task.frames_await, Control.owed_await]
      | none => exact ⟨_, .call control⟩
  | @resume source due call progress control =>
      refine ⟨_, .nothing rfl ?_⟩
      simp [Task.owed, Task.frames_await, Control.owed_await]
  | ask control here control' =>
      rcases control' with rfl | ⟨deadline, rfl⟩ <;> exact ⟨_, .free rfl rfl hsame⟩
  | @load layer seen force control =>
      have htop := sheltered.2
      rw [control] at htop
      obtain rfl : layer = limit + 1 := htop
      refine ⟨_, .nothing rfl ?_⟩
      simp [Task.push, Task.owed, spareOf_cons, Frame.spare, Control.owed]
  | @retry layer force frames f control head =>
      have hattempt : (if layer ≤ limit then 2 ^ retriesBelow k.kinds layer else 0) ≤
          2 ^ retriesBelow k.kinds layer := by
        split
        · exact Nat.le_refl _
        · exact Nat.zero_le _
      refine ⟨_, .nothing rfl ?_⟩
      simp only [Task.goto, Task.owed, control, head, spareOf_cons, Frame.spare, Control.owed]
      omega
  | store control head | serve control head | observe control head | pass control head
  | install control head | fail control head | report control head =>
      exact ⟨_, .free rfl rfl (hpop head)⟩
  | crash control' frames' =>
      refine ⟨_, .nothing rfl ?_⟩
      have hframes := spareOf_suffix k.kinds frames'
      simp only [Task.owed, control', Control.owed]
      omega
  | @undertake f layer seen idle request frames duty =>
      refine ⟨_, .nothing rfl ?_⟩
      have hspare : f.spare k.kinds = 0 := by cases f <;> first | rfl | cases duty
      simp [Task.push, Task.owed, spareOf_cons, hspare, Control.owed]
  | conclude control head duty idle' answer =>
      exact ⟨_, .free rfl (Control.owed_of_isIdle idle' _ _) List.nil_suffix⟩
  | abandon parked => exact ⟨_, .free rfl rfl List.nil_suffix⟩
  | _ => exact ⟨_, .free rfl rfl hsame⟩

/-- So a step adds to calls and debts only with a passage. -/
theorem Stride.owed_sum_le (among : TaskId → Bool) (capped : Capped k.kinds (limit + 1))
    (limited : k.kinds[limit]? = some .rateLimit) (sheltered : t.Sheltered (limit + 1))
    (h : Stride t k t' k') (same : t'.id = t.id) :
    (owedAccount k.kinds limit among).sum k' t' ≤ (owedAccount k.kinds limit among).sum k t +
      ((if t.passes limit t' then 2 ^ retriesBelow k.kinds limit else 0 : Nat) : Int) := by
  obtain ⟨made, hcalls, hown, howes⟩ := h.owes capped limited sheltered
  have hcount : (made.countP fun call => among call.task) =
      if among t.id then made.length else 0 := by
    split
    next hamong => exact List.countP_eq_length.2 fun call hcall => by rw [hown call hcall, hamong]
    next hamong => exact List.countP_eq_zero.2 fun call hcall => by rwa [hown call hcall]
  simp only [Account.sum, owedAccount, hcalls, List.countP_append, hcount, same]
  split
  · omega
  · have hpaid := Int.natCast_nonneg
      (if t.passes limit t' then 2 ^ retriesBelow k.kinds limit else 0)
    omega

/-- Only a fetch at the limit touches the bucket. -/
theorem Stride.bucket_stays {b : TokenBucket} (h : Stride t k t' k')
    (elsewhere : t.control.isAt (limit + 1) = false)
    (here : k.layers[limit]? = some (.rateLimit b)) :
    k'.layers[limit]? = some (.rateLimit b) := by
  rcases h.layer_cases here with same | ⟨force, _, control, -⟩ | ⟨_, _, _, -, -, hl⟩ | ⟨_, _, hl⟩ |
    ⟨_, hl⟩
  · exact same
  · simp [control, Control.isAt] at elsewhere
  · cases hl
  · cases hl
  · cases hl

end Stride

/-- A fetch at the limit comes through as the bucket grants, and leaves the bucket so. -/
theorem Task.draws [Source σ V C] [Perishable V] {limit : Nat} {force : Bool} {t : Task V C}
    {w : World V σ} {b : TokenBucket} (favoured : Signal) (going : t.isStopped w = false)
    (control : t.control = .enter (limit + 1) force)
    (here : w.layers[limit]? = some (.rateLimit b)) :
    (t.step w favoured).1.layers[limit]? = some (.rateLimit (b.tryAcquire w.now).2) ∧
      t.passes limit (t.step w favoured).2 = (b.tryAcquire w.now).1 := by
  obtain ⟨hlt, -⟩ := List.getElem?_eq_some_iff.1 here
  have hset : (w.setLayer limit (.rateLimit (b.tryAcquire w.now).2)).layers[limit]? =
      some (.rateLimit (b.tryAcquire w.now).2) := by
    rw [World.setLayer, List.getElem?_set_self hlt]
  rw [step_of_not_stopped going]
  simp only [advance, control, enter, here, throttle]
  split
  next granted =>
    rw [granted]
    exact ⟨hset, by simp [passes, control, goto, Control.isAt]⟩
  next refused =>
    rw [Bool.eq_false_iff.2 refused]
    exact ⟨hset, by simp [passes, pass, goto, Control.isAt]⟩

namespace Machine

/-! ## Passages -/

/-- With the move from `m` to `n` a fetch comes through the limit. -/
def passesAt (limit : Nat) (m n : Machine V σ C) : Bool :=
  m.running.any fun id => (m.tasks[id]?).any fun t =>
    (n.tasks[id]?).any fun t' => t.passes limit t'

/-- How many fetches come through the limit. -/
def passages (limit : Nat) (moves : List (Machine V σ C × Machine V σ C)) : Nat :=
  moves.countP fun (m, n) => passesAt limit m n

section Moves

variable {limit : Nat} {m n : Machine V σ C} {b : TokenBucket}
  {moves : List (Machine V σ C × Machine V σ C)}

theorem passages_snoc : passages limit (moves ++ [(m, n)]) =
    passages limit moves + if passesAt limit m n then 1 else 0 := by
  simp [passages, List.countP_append, List.countP_singleton]

theorem passesAt_of_rest (active : m.active? = none) : passesAt limit m n = false := by
  cases hrunning : m.running with
  | none => simp [passesAt, hrunning]
  | some id =>
      rw [active?, hrunning, Option.bind_some] at active
      simp [passesAt, hrunning, active]

theorem passesAt_of_turn {id : TaskId} {t t' : Task V C} (running : m.running = some id)
    (task : m.tasks[id]? = some t) (task' : n.tasks[id]? = some t') :
    passesAt limit m n = t.passes limit t' := by
  simp [passesAt, running, task, task']

variable [Source σ V C] [Perishable V]

/-- A bucket keeps its capacity, and a move takes a token exactly if a fetch comes through. -/
theorem bucket_move (sound : m.Sound) (move : Move m n)
    (here : m.world.layers[limit]? = some (.rateLimit b)) :
    ∃ b' : TokenBucket, n.world.layers[limit]? = some (.rateLimit b') ∧
      b'.capacity = b.capacity ∧
      (b'.available m.world.now).1 + (if passesAt limit m n then 1 else 0) =
        (b.available m.world.now).1 := by
  have hcontent : m.world.content.layers[limit]? = some (.rateLimit b) :=
    World.layers_content here
  -- a move that leaves the bucket lets nobody through
  have hstays : n.world.content.layers[limit]? = some (.rateLimit b) →
      passesAt limit m n = false → ∃ b' : TokenBucket,
        n.world.layers[limit]? = some (.rateLimit b') ∧ b'.capacity = b.capacity ∧
        (b'.available m.world.now).1 + (if passesAt limit m n then 1 else 0) =
          (b.available m.world.now).1 := by
    intro hl hnone
    refine ⟨b, World.layers_of_content hl (by simp), rfl, ?_⟩
    rw [hnone]
    rfl
  cases stackMove sound move with
  | @turn id t t' running task stride same tasks =>
      have task' : n.tasks[id]? = some t' := by
        rw [tasks]
        exact getElem?_set_some t' task
      have hpasses : passesAt limit m n = t.passes limit t' := passesAt_of_turn running task task'
      cases hat : t.control.isAt (limit + 1) with
      | false =>
          exact hstays (stride.bucket_stays hat hcontent) (by simp [hpasses, Task.passes, hat])
      | true =>
          obtain ⟨force, control⟩ : ∃ force, t.control = .enter (limit + 1) force := by
            cases hcontrol : t.control with
            | enter level force =>
                rw [hcontrol] at hat
                obtain rfl : level = limit + 1 := of_decide_eq_true hat
                exact ⟨force, rfl⟩
            | _ =>
                rw [hcontrol] at hat
                cases hat
          obtain ⟨favoured, rfl⟩ := move.of_running running
          obtain ⟨-, going⟩ := sound.parked id t task (by rw [control]; rfl)
          obtain ⟨hdrawn, hgranted⟩ := t.draws favoured going control here
          have heq : t' = (t.step m.world favoured).2 := by
            have hstep := (advanced favoured task).tasks
            rw [hstep, getElem?_set_some _ task] at task'
            exact (Option.some.inj task').symm
          have hlayer := World.layers_content hdrawn
          rw [← content_advance favoured task] at hlayer
          refine ⟨_, World.layers_of_content hlayer (by simp),
            b.capacity_tryAcquire _, ?_⟩
          rw [hpasses, heq, hgranted]
          exact b.available_tryAcquire m.world.now
  | arrive idle foreground tasks content =>
      exact hstays (by rw [content]; exact hcontent) (passesAt_of_rest (active?_of_idle idle))
  | rest active tasks content now =>
      exact hstays (by rw [content]; exact hcontent) (passesAt_of_rest active)

/-- While the clock stands still a token is gone for each fetch that has come through. -/
theorem bucket_run (sound : m.Sound) (run : Run m moves n)
    (here : m.world.layers[limit]? = some (.rateLimit b)) :
    ∃ b' : TokenBucket, n.world.layers[limit]? = some (.rateLimit b') ∧
      b'.capacity = b.capacity ∧
      (n.world.now = m.world.now → (b'.available m.world.now).1 + passages limit moves =
        (b.available m.world.now).1) := by
  induction run with
  | start => exact ⟨b, here, rfl, fun _ => rfl⟩
  | @move moves k n run step ih =>
      obtain ⟨b₁, hb₁, capacity₁, spent₁⟩ := ih
      have hk : k.Sound := sound_reaches sound run.reaches
      obtain ⟨b₂, hb₂, capacity₂, spent₂⟩ := bucket_move hk step hb₁
      refine ⟨b₂, hb₂, capacity₂.trans capacity₁, ?_⟩
      intro still
      have hnow : k.world.now = m.world.now := by
        have hbefore := run.now_le
        have hafter := step.now_le
        rw [still] at hafter
        exact Instant.le_antisymm hafter hbefore
      have hspent := spent₁ hnow
      rw [hnow] at spent₂
      rw [passages_snoc]
      omega

/-- A chain whose limit is as it was configured. -/
structure Rated (c : Config) (m : Machine V σ C) : Prop where
  sound : m.Sound
  kinds : m.world.content.kinds = c.kinds
  sheltered : ∀ (i : Nat) (t : Task V C), m.tasks[i]? = some t → t.Sheltered (c.limitLayer + 1)
  bucket : ∃ b : TokenBucket, m.world.layers[c.limitLayer]? = some (.rateLimit b) ∧
    b.capacity = c.bucketSize

section Rated

variable {c : Config}

omit [Source σ V C] [Perishable V] in
/-- A chain that has been built has the limit of its configuration. -/
theorem rated_of_build {source : σ} (built : c.build source = .ok m)
    (limited : c.rateLimited = true) : Rated c m := by
  obtain ⟨fresh, -, hkinds⟩ := Config.planned_of_build built
  have cached := Config.cached_of_rateLimited built limited
  refine ⟨fresh.sound, hkinds, ?_, ?_⟩
  · intro i t task
    obtain ⟨layer, cache, r, rfl, -⟩ := fresh.tasks i t task
    exact ⟨trivial, trivial⟩
  · have hkind := Config.kinds_limitLayer limited cached
    rw [← hkinds, Content.kinds, List.getElem?_map, Option.map_eq_some_iff] at hkind
    obtain ⟨l, hl, hkind⟩ := hkind
    obtain ⟨b, rfl⟩ : ∃ b, l = .rateLimit b := by
      cases l <;> first | exact ⟨_, rfl⟩ | cases hkind
    have here := World.layers_of_content hl (by simp)
    refine ⟨b, here, ?_⟩
    -- a limit has the size of one that was planned
    obtain ⟨bound, hbuild⟩ := Config.exists_build built
    cases new_of_build hbuild _ (List.mem_of_getElem? here) with
    | @rateLimit size tokens period now _ planned created =>
        have hsize : size = c.bucketSize := by
          rw [Config.plans_eq, List.mem_append] at planned
          rcases planned with planned | planned
          · rcases Config.mem_lower planned with h | ⟨-, h⟩ | h | h <;> cases h
            rfl
          · simp [Config.topmost, cached] at planned
        rw [TokenBucket.create] at created
        cases hv : TokenBucket.validate size tokens period with
        | error f =>
            rw [hv] at created
            cases created
        | ok u =>
            rw [hv] at created
            cases created
            exact hsize

theorem Rated.move (rated : Rated c m) (limited : c.rateLimited = true) (cached : c.cached = true)
    (move : Move m n) : Rated c n := by
  have hmove := stackMove rated.sound move
  obtain ⟨b, here, capacity⟩ := rated.bucket
  obtain ⟨b', here', capacity', -⟩ := bucket_move rated.sound move here
  refine ⟨sound_move rated.sound move, hmove.kinds.trans rated.kinds, ?_, b', here',
    capacity'.trans capacity⟩
  intro i x hx
  cases hmove with
  | @turn id t t' running task stride same tasks =>
      rw [tasks] at hx
      rcases getElem?_set_cases hx with ⟨rfl, rfl⟩ | ⟨-, hx⟩
      · exact stride.sheltered (rated.sound.shaped i t task)
          (by rw [rated.kinds]; exact Config.capped_limitLayer limited cached)
          (rated.sheltered i t task)
      · exact rated.sheltered i x hx
  | arrive idle foreground tasks content =>
      rw [tasks] at hx
      rcases getElem?_snoc hx with hx | ⟨-, rfl⟩
      · exact rated.sheltered i x hx
      · exact ⟨trivial, trivial⟩
  | rest active tasks content now =>
      rw [tasks] at hx
      exact rated.sheltered i x hx

theorem Rated.run (rated : Rated c m) (limited : c.rateLimited = true) (cached : c.cached = true)
    (run : Run m moves n) : Rated c n := by
  induction run with
  | start => exact rated
  | move run step ih => exact ih.move limited cached step

end Rated

end Moves

/-! ## Calls -/

/-- The calls of the source that some tasks have made since the machine was `m`. -/
def callsSince (among : TaskId → Bool) (m n : Machine V σ C) : Nat :=
  (n.world.calls.drop m.world.calls.length).countP fun call => among call.task

/-- The calls of the source that some tasks still owe for fetches that have come through the limit
of a chain. -/
def debts (c : Config) (among : TaskId → Bool) (m : Machine V σ C) : Nat :=
  ((m.tasks.filter fun t => among t.id).map (Task.owed c.kinds c.limitLayer)).sum

theorem shares_owedAccount (kinds : List Kind) (limit : Nat) (among : TaskId → Bool)
    (tasks : List (Task V C)) :
    shares (owedAccount kinds limit among) tasks =
      (((tasks.filter fun t => among t.id).map (Task.owed kinds limit)).sum : Nat) := by
  induction tasks with
  | nil => rfl
  | cons t tasks ih =>
      rw [shares, ih]
      cases hamong : among t.id with
      | true =>
          rw [List.filter_cons_of_pos (by simpa using hamong)]
          simp [owedAccount, hamong]
      | false =>
          rw [List.filter_cons_of_neg (by simp [hamong])]
          simp [owedAccount, hamong]

section Runs

variable [Source σ V C] [Perishable V] {m n : Machine V σ C} {c : Config}
  {moves : List (Machine V σ C × Machine V σ C)}

/-- Calls are added at the end of the record. -/
theorem calls_run (sound : m.Sound) (run : Run m moves n) :
    ∃ made, n.world.calls = m.world.calls ++ made := by
  refine run.invariant (P := fun _ k => ∃ made, k.world.calls = m.world.calls ++ made) sound
    ⟨[], (List.append_nil _).symm⟩ ?_
  rintro - k l - - move ⟨made, hmade⟩
  cases move with
  | turn running task stride same tasks =>
      obtain ⟨more, hmore, -⟩ := stride.own_calls
      exact ⟨made ++ more, by rw [← List.append_assoc, ← hmade]; exact hmore⟩
  | arrive _ _ _ content | rest _ _ content =>
      exact ⟨made, (congrArg Content.calls content).trans hmade⟩

omit [Source σ V C] in
/-- A move adds to calls and debts only with a passage. -/
theorem total_owed_move (rated : Rated c m) (limited : c.rateLimited = true)
    (cached : c.cached = true) (among : TaskId → Bool) (move : StackMove m n) :
    total (owedAccount c.kinds c.limitLayer among) n ≤
      total (owedAccount c.kinds c.limitLayer among) m +
        ((if passesAt c.limitLayer m n then c.callsPerFetch else 0 : Nat) : Int) := by
  cases move with
  | @turn id t t' running task stride same tasks =>
      have task' : n.tasks[id]? = some t' := by
        rw [tasks]
        exact getElem?_set_some t' task
      have hturn := total_turn (a := owedAccount c.kinds c.limitLayer among) task tasks
      have hsum := stride.owed_sum_le among
        (by rw [rated.kinds]; exact Config.capped_limitLayer limited cached)
        (by rw [rated.kinds]; exact Config.kinds_limitLayer limited cached)
        (rated.sheltered id t task) same.1
      rw [rated.kinds, Config.callsPerFetch_eq limited cached] at hsum
      rw [passesAt_of_turn running task task']
      omega
  | @arrive request idle foreground tasks content =>
      have hshare : (owedAccount (V := V) (C := C) c.kinds c.limitLayer among).share
          (Task.fresh m.tasks.length request) = 0 := by
        simp [owedAccount, Task.fresh, Task.owed, Control.owed, spareOf]
      rw [total_arrive hshare tasks (by rw [content]), passesAt_of_rest (active?_of_idle idle)]
      simp
  | rest active tasks content now =>
      have htotal := total_rest (a := owedAccount c.kinds c.limitLayer among) tasks
        (by rw [content]; rfl)
      rw [htotal, passesAt_of_rest active]
      simp

/-- The calls that any tasks make over a run are covered by what they owed before and by the
fetches that come through the limit. -/
theorem callsSince_le (rated : Rated c m) (limited : c.rateLimited = true)
    (cached : c.cached = true) (among : TaskId → Bool) (run : Run m moves n) :
    callsSince among m n + debts c among n ≤
      c.callsPerFetch * passages c.limitLayer moves + debts c among m := by
  have htotal : total (owedAccount c.kinds c.limitLayer among) n ≤
      total (owedAccount c.kinds c.limitLayer among) m +
        (c.callsPerFetch * passages c.limitLayer moves : Nat) := by
    induction run with
    | start => simp [passages]
    | @move moves k l run step ih =>
        have reached := rated.run limited cached run
        have hmove := total_owed_move reached limited cached among (stackMove reached.sound step)
        rw [passages_snoc]
        cases hpasses : passesAt c.limitLayer k l with
        | true =>
            simp only [hpasses, if_true] at hmove ⊢
            rw [Nat.mul_add]
            omega
        | false =>
            simp only [hpasses, Bool.false_eq_true, if_false] at hmove ⊢
            rw [Nat.add_zero]
            omega
  obtain ⟨made, hcalls⟩ := calls_run rated.sound run
  have hsince : callsSince among m n = made.countP fun call => among call.task := by
    rw [callsSince, hcalls, List.drop_left]
  have hbooks : ∀ k : Machine V σ C, total (owedAccount c.kinds c.limitLayer among) k =
      (k.world.calls.countP fun call => among call.task : Nat) + (debts c among k : Nat) := by
    intro k
    rw [total, shares_owedAccount]
    rfl
  rw [hbooks, hbooks, hcalls, List.countP_append] at htotal
  rw [hsince]
  omega

end Runs

end Machine

end CredentialSupply
