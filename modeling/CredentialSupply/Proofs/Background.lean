import CredentialSupply.Proofs.Claims
import CredentialSupply.Proofs.SingleFlight

set_option autoImplicit false

/-!
# Refreshes in the background

Every turn of a cache is a `ClaimStep` for the claim of its worker, or the end of the worker
(`Turn.claimStep`). A worker that has refreshed with success finds the generation of its job
gone (`Dutiful`), so that no claim stays behind. Hence, while the worker runs, the claimed entry
has a refresh pending, and no generation has two (`claimed_entry_is_pending`).
-/

namespace CredentialSupply

variable {V σ C : Type}

namespace Task

variable {t : Task V C} {layer : Nat} {job : RefreshJob}

/-- A task that carries out a refresh and is outside the cache has just come out of it. -/
theorem delivers_of_duty (shaped : t.Shaped) (duty : t.duty? layer = some job)
    (away : t.stage layer = .away) :
    ∃ outcome f, t.control = .deliver outcome ∧ t.frames = [f] ∧ f.duty? layer = some job := by
  have hload : t.frames.any (Frame.isLoad layer) = true → False := by
    intro h
    rw [stage_of_isLoad shaped h] at away
    cases away
  have hnested : ∀ depth, Nested t.request depth t.frames →
      depth = 2 * layer + 1 ∧ ∃ f, t.frames = [f] ∧ f.duty? layer = some job := by
    intro depth h
    obtain ⟨-, hl | hf⟩ := h.of_duty duty
    · exact (hload hl).elim
    · exact hf
  have hnil : t.frames = [] → False := by
    intro hf
    simp [duty?, hf] at duty
  unfold Shaped at shaped
  -- no call is on its way, so the control tells whether the task is at the cache
  cases control : t.control with
  | deliver outcome =>
      rw [control] at shaped
      obtain ⟨depth, h⟩ := shaped
      obtain ⟨-, f, hf, hduty⟩ := hnested depth h
      exact ⟨outcome, f, rfl, hf, hduty⟩
  | enter level force =>
      rw [control] at shaped
      have := (hnested _ shaped).1
      omega
  | call source force | calling source due call =>
      rw [control] at shaped
      have := (hnested _ shaped).1
      omega
  | acquire l seen force | queued l seen force deadline | locked l seen force =>
      rw [control] at shaped
      have hl : l = layer := by
        have := (hnested _ shaped).1
        omega
      simp [stage, control, hl] at away
  | attend l retryAfter | listening l retryAfter deadline =>
      rw [control] at shaped
      exact (hnil shaped.2).elim
  | begin | resting due | joining task | ended answer endedAt =>
      rw [control] at shaped
      exact (hnil shaped).elim

/-- The worker of a cache does not enter the cache by a lookup. -/
theorem duty?_of_enter (shaped : t.Shaped) {force : Bool}
    (control : t.control = .enter (layer + 1) force) : t.duty? layer = none := by
  cases duty : t.duty? layer with
  | none => rfl
  | some job =>
      have haway := stage_of_enter shaped control
      obtain ⟨outcome, f, hcontrol, -⟩ := delivers_of_duty shaped duty haway
      rw [control] at hcontrol
      cases hcontrol

theorem duty?_of_load {startedAt : Instant} {frames : List Frame}
    (head : t.frames = .load layer startedAt :: frames) :
    Task.duty? { t with frames } layer = t.duty? layer := by
  simp [duty?, head, List.findSome?_cons, Frame.duty?]

/-- A task that has ended stays so. -/
theorem hasEnded_step [Source σ V C] [Perishable V] {w : World V σ} {favoured : Signal}
    (ended : t.hasEnded = true) : (t.step w favoured).2.hasEnded = true := by
  unfold step
  split
  · rfl
  · cases control : t.control with
    | ended answer endedAt => simpa [advance, control] using ended
    | _ => simp [hasEnded, ended?, control] at ended

theorem duty?_of_nil (h : t.frames = []) : t.duty? layer = none := by
  simp [duty?, h]

end Task

/-! ## The duty of a worker -/

section Dutiful

variable {t : Task V C} {layer : Nat}

/-- How the refresh that a task carries out fits the generation of the cache. -/
structure Task.Dutiful (layer : Nat) (t : Task V C) (generation : Nat) : Prop where
  bound : ∀ job, t.duty? layer = some job → job.generation ≤ generation
  seen : ∀ job seen, t.duty? layer = some job → (t.stage layer).seen? = some seen →
    seen = job.generation
  /-- When the refresh has succeeded, another generation is installed. -/
  gone : ∀ job v, t.duty? layer = some job → t.control = .deliver (.value v) →
    t.stage layer = .away → job.generation < generation

theorem Task.dutiful_of_none {generation : Nat} (h : t.duty? layer = none) :
    t.Dutiful layer generation := by
  refine ⟨?_, ?_, ?_⟩
  · intro job hjob
    rw [h] at hjob
    cases hjob
  · intro job seen hjob
    rw [h] at hjob
    cases hjob
  · intro job v hjob
    rw [h] at hjob
    cases hjob

theorem Task.Dutiful.mono {g g' : Nat} (h : t.Dutiful layer g) (hle : g ≤ g') :
    t.Dutiful layer g' := by
  refine ⟨?_, h.seen, ?_⟩
  · intro job hjob
    exact Nat.le_trans (h.bound job hjob) hle
  · intro job v hjob control away
    exact Nat.lt_of_lt_of_le (h.gone job v hjob control away) hle

/-- A task whose refresh goes on with another control, not yet with a value. -/
theorem Task.Dutiful.goto {g : Nat} {u : Task V C} (h : t.Dutiful layer g)
    (duty : u.duty? layer = t.duty? layer)
    (seen : ∀ s, (u.stage layer).seen? = some s → (t.stage layer).seen? = some s)
    (control : ∀ v, u.control ≠ .deliver (.value v)) : u.Dutiful layer g := by
  refine ⟨?_, ?_, ?_⟩
  · intro job hjob
    rw [duty] at hjob
    exact h.bound job hjob
  · intro job s hjob hs
    rw [duty] at hjob
    exact h.seen job s hjob (seen s hs)
  · intro job v hjob hv
    exact absurd hv (control v)

/-- A task that takes up a job goes by the generation of the job. -/
theorem Task.dutiful_of_job {g : Nat} {job : RefreshJob} (duty : t.duty? layer = some job)
    (bound : job.generation ≤ g)
    (seen : ∀ s, (t.stage layer).seen? = some s → s = job.generation)
    (control : ∀ v, t.control ≠ .deliver (.value v)) : t.Dutiful layer g := by
  refine ⟨?_, ?_, ?_⟩
  · intro job' hjob
    rw [duty] at hjob
    cases hjob
    exact bound
  · intro job' s hjob hs
    rw [duty] at hjob
    cases hjob
    exact seen s hs
  · intro job' v _ hv
    exact absurd hv (control v)

/-- A task that does not stand at the lock has no snapshot. -/
theorem Task.seen?_around (t : Task V C) (layer : Nat) : (t.around layer).seen? = none := by
  unfold around
  split <;> rfl

end Dutiful

section Turn

variable [Perishable V] {layer : Nat} {now : Instant} {t t' : Task V C} {c c' : Cache V}

/-- Every turn of a cache keeps its workers dutiful. -/
theorem Turn.dutiful (shaped : t.Shaped) (h : Turn layer now t c t' c')
    (dutiful : t.Dutiful layer c.generation)
    (jobs : ∀ r job, c.early = some r → job ∈ r.jobs → job.generation ≤ c.generation) :
    t'.Dutiful layer c'.generation := by
  -- a task that has gone has no snapshot
  have haround : ∀ {u : Task V C} {s : Nat}, (u.around layer).seen? = some s → False := by
    intro u s hu
    rw [u.seen?_around layer] at hu
    cases hu
  cases h with
  | elsewhere acts stage duty =>
      refine ⟨?_, ?_, ?_⟩
      · intro job hjob
        rw [duty] at hjob
        exact dutiful.bound job hjob
      · intro job seen hjob hs
        rw [duty] at hjob
        rw [stage] at hs
        exact dutiful.seen job seen hjob hs
      · intro job v hjob control away
        rw [duty] at hjob
        rw [stage] at away
        -- a worker that comes out of the cache with its job is about to act on it
        obtain ⟨outcome, f, control, frames, hf⟩ := Task.delivers_of_duty shaped hjob away
        refine absurd ?_ acts
        simp only [Task.ActsOn, control]
        exact ⟨f, [], frames, Or.inr (Option.isSome_of_mem hf)⟩
  | hit control | overrun control | miss control =>
      have hnone := Task.duty?_of_enter shaped control
      exact Task.dutiful_of_none hnone
  | seize control | queue control =>
      refine dutiful.goto rfl ?_ (by simp [Task.goto])
      intro s hs
      rw [Task.stage_of_acquire control]
      simpa [Stage.seen?] using hs
  | receive control =>
      refine dutiful.goto rfl ?_ (by simp [Task.goto])
      intro s hs
      rw [Task.stage_of_queued control]
      simpa [Stage.seen?] using hs
  | giveUp =>
      exact dutiful.goto rfl (fun s hs => (haround hs).elim) (by simp [Task.pass, Task.goto])
  | @adopt seen force e control newer =>
      refine ⟨dutiful.bound, fun job s _ hs => (haround hs).elim, ?_⟩
      intro job v hjob _ _
      -- the entry that was taken over is not of the generation that the job knows
      have hseen : seen = job.generation := by
        apply dutiful.seen job seen hjob
        rw [Task.stage_of_locked control]
        rfl
      have hne : c.generation ≠ seen := by
        intro heq
        simp [Cache.replacement?, heq] at newer
      have hle := dutiful.bound job hjob
      show job.generation < c.generation
      omega
  | load =>
      refine dutiful.goto rfl ?_ (by simp [Task.push])
      intro s hs
      simp [Stage.seen?] at hs
  | install control head entry =>
      have hduty := Task.duty?_of_load head
      refine ⟨?_, fun job s _ hs => (haround hs).elim, ?_⟩
      · intro job hjob
        exact Nat.le_succ_of_le (dutiful.bound job (hduty.symm.trans hjob))
      · intro job v hjob _ _
        exact Nat.lt_succ_of_le (dutiful.bound job (hduty.symm.trans hjob))
  | fail control head | crash control head =>
      exact dutiful.goto (Task.duty?_of_load head) (fun s hs => (haround hs).elim)
        (by simp [Task.pass, Task.goto])
  | tend _ _ _ _ _ _ attends' => exact Task.dutiful_of_none (attends'.outside layer).2.1
  | succeed _ _ _ attends' => exact Task.dutiful_of_none (attends'.outside layer).2.1
  | forgo _ _ _ attends' => exact Task.dutiful_of_none (attends'.outside layer).2.1
  | @takeJob r job rest retryAfter attends early hjobs =>
      refine Task.dutiful_of_job (Task.duty?_push_job ..) ?_ ?_ (by simp [Task.push])
      · exact jobs r job early (by rw [hjobs]; exact List.mem_cons_self)
      · intro s hs
        simpa [Task.stage, Task.push, Stage.seen?, eq_comm] using hs
  | @fire r e attends early entry isDue unclaimed =>
      refine Task.dutiful_of_job (Task.duty?_push_timer ..) (Nat.le_refl _) ?_ (by simp [Task.push])
      intro s hs
      simpa [Task.stage, Task.push, Stage.seen?, eq_comm] using hs
  | retire request away early worker hjobs accepting frames' ended =>
      exact Task.dutiful_of_none (Task.duty?_of_nil frames')
  | abandon => exact Task.dutiful_of_none (Task.duty?_of_nil rfl)
  | tell request frames control frames' idle =>
      exact Task.dutiful_of_none (Task.duty?_of_nil frames')

/-! ## Turns are steps of the claims -/

/-- A turn either leaves the duty of its task, or is one of the worker; and either it is a step
of the claims, or the worker has ended. -/
theorem Turn.claimStep {r r' : EarlyRefresh} (shaped : t.Shaped) (h : Turn layer now t c t' c')
    (dutiful : t.Dutiful layer c.generation) (hr : c.early = some r) (hr' : c'.early = some r') :
    (t.request = .work layer ∧ t'.hasEnded = true) ∨
      (t'.duty? layer = t.duty? layer ∧ ∀ duty, ClaimStep now c c' r r' duty duty) ∨
      (t.request = .work layer ∧ ClaimStep now c c' r r' (t.duty? layer) (t'.duty? layer)) := by
  have hkeep : c'.entry = c.entry → c'.generation = c.generation → c'.early = c.early →
      ∀ duty, ClaimStep now c c' r r' duty duty := by
    intro entry generation early duty
    have hrr : r' = r := by
      rw [early, hr] at hr'
      exact (Option.some.inj hr').symm
    exact .keep entry generation (by rw [hrr]) (by rw [hrr])
  have hworks : t.Attends layer → t.request = .work layer ∧ t.duty? layer = none := by
    intro attends
    exact ⟨attends.1, (attends.outside layer).2.1⟩
  cases h with
  | elsewhere acts stage duty => exact Or.inr (Or.inl ⟨duty, hkeep rfl rfl rfl⟩)
  | overrun | miss | seize | queue | receive | giveUp | adopt =>
      exact Or.inr (Or.inl ⟨rfl, hkeep rfl rfl rfl⟩)
  | load control same =>
      refine Or.inr (Or.inl ⟨?_, hkeep rfl rfl rfl⟩)
      simp [Task.duty?, Task.push, List.findSome?_cons, Frame.duty?]
  | fail control head =>
      exact Or.inr (Or.inl ⟨Task.duty?_of_load head, hkeep rfl rfl rfl⟩)
  | crash control head lost =>
      exact Or.inr (Or.inl ⟨Task.duty?_of_load head, hkeep rfl rfl rfl⟩)
  | @hit e _ control valid noticed =>
      refine Or.inr (Or.inl ⟨rfl, ?_⟩)
      rcases Cache.noticed?_cases noticed with rfl | ⟨r₁, hr₁, inWindow, outlasts, rfl⟩
      · exact hkeep rfl rfl rfl
      · intro duty
        rw [hr] at hr₁
        cases hr₁
        cases hr'
        exact .schedule (Option.filter_eq_some_iff.1 valid).1 inWindow outlasts rfl rfl rfl
  | install control head entry =>
      refine Or.inr (Or.inl ⟨Task.duty?_of_load head, ?_⟩)
      intro duty
      have hmap : c.early.map ({ · with refreshed := true }) = some r' := hr'
      rw [hr, Option.map_some] at hmap
      cases hmap
      exact .install rfl (Lifetime.installedAt_of_entry? entry) rfl rfl rfl
  | tend attends early worker claimed jobs accepting attends' =>
      refine Or.inr (Or.inl ⟨?_, ?_⟩)
      · rw [(hworks attends).2]
        exact (attends'.outside layer).2.1
      · intro duty
        rw [hr] at early
        cases early
        cases hr'
        exact .keep rfl rfl claimed jobs
  | @takeJob r₁ job rest retryAfter attends early jobs =>
      rw [hr] at early
      cases early
      cases hr'
      refine Or.inr (Or.inr ⟨attends.1, ?_⟩)
      rw [Task.duty?_push_job, (hworks attends).2]
      exact .take rfl rfl rfl jobs rfl
  | @fire r₁ e attends early entry isDue unclaimed =>
      rw [hr] at early
      cases early
      cases hr'
      refine Or.inr (Or.inr ⟨attends.1, ?_⟩)
      rw [Task.duty?_push_timer, (hworks attends).2]
      simp only [EarlyRefresh.isDue, Bool.and_eq_true, decide_eq_true_iff] at isDue
      exact .fire entry (Entry.le_of_windowStart_le isDue.2) isDue.1 unclaimed rfl rfl rfl rfl
  | @succeed _ f v control frames duty attends' =>
      obtain ⟨job, hjob⟩ := Option.isSome_iff_exists.1 duty
      have hduty : t.duty? layer = some job := (Task.duty?_of_single frames).trans hjob
      have haway := Task.stage_of_duty control frames duty
      have hgone := dutiful.gone job v hduty control haway
      rw [hr] at hr'
      cases hr'
      refine Or.inr (Or.inr ⟨Task.request_of_duty shaped hduty, ?_⟩)
      rw [hduty, (attends'.outside layer).2.1]
      exact .succeed hgone rfl rfl rfl rfl
  | @forgo _ f job failure control frames duty attends' =>
      have hduty : t.duty? layer = some job := (Task.duty?_of_single frames).trans duty
      rw [Cache.early_mapEarly _ hr] at hr'
      cases hr'
      refine Or.inr (Or.inr ⟨Task.request_of_duty shaped hduty, ?_⟩)
      rw [hduty, (attends'.outside layer).2.1]
      exact .forgo rfl rfl rfl
  | retire request away early worker jobs accepting frames' ended => exact Or.inl ⟨request, ended⟩
  | @abandon l request parked =>
      by_cases hl : l = layer
      · subst hl
        exact Or.inl ⟨request, rfl⟩
      · -- a worker of another cache has no duty here
        have hnone : t.duty? layer = none := by
          cases hduty : t.duty? layer with
          | none => rfl
          | some job =>
              have hrequest := Task.request_of_duty shaped hduty
              rw [request] at hrequest
              exact absurd (Request.work.inj hrequest) hl
        refine Or.inr (Or.inl ⟨?_, hkeep rfl rfl (if_neg hl)⟩)
        rw [hnone]
        rfl
  | tell request frames control frames' idle =>
      refine Or.inr (Or.inl ⟨?_, ?_⟩)
      · rw [Task.duty?_of_nil frames, Task.duty?_of_nil frames']
      · intro duty
        rw [Cache.early_told, hr, Option.map_some] at hr'
        cases hr'
        exact .keep rfl rfl rfl rfl

end Turn

namespace Machine

/-! ## The invariant of the worker -/

/-- The refresh that the worker of a cache carries out. -/
def duty? (layer : Nat) (m : Machine V σ C) (worker : TaskId) : Option RefreshJob :=
  (m.tasks[worker]?).bind (·.duty? layer)

/-- The refreshes of the cache at a layer in the background fit its entry, while the worker has
not ended. -/
structure Scheduling (layer : Nat) (m : Machine V σ C) (c : Cache V) : Prop where
  dutiful : ∀ (i : Nat) (t : Task V C), m.tasks[i]? = some t → t.Dutiful layer c.generation
  claims : ∀ (r : EarlyRefresh), c.early = some r →
    (∀ t, m.tasks[r.worker]? = some t → t.hasEnded = false) →
      Claims m.world.now c r (m.duty? layer r.worker)

variable {layer : Nat} {m n : Machine V σ C} {c c' : Cache V}

theorem duty?_of_task {i : TaskId} {t : Task V C} (task : m.tasks[i]? = some t) :
    m.duty? layer i = t.duty? layer := by
  rw [duty?, task]
  rfl

/-- The one that has just arrived has no duty yet. -/
theorem duty?_of_joined {i : TaskId} (joined : Joined m n) :
    n.duty? layer i = m.duty? layer i := by
  cases hm : m.tasks[i]? with
  | some t => rw [duty?_of_task hm, duty?_of_task (joined.kept i t hm)]
  | none =>
      cases hn : n.tasks[i]? with
      | none => rw [duty?, duty?, hm, hn]
      | some t =>
          rcases joined.tasks i t hn with hold | ⟨-, request, rfl⟩
          · rw [hm] at hold
            cases hold
          · rw [duty?_of_task hn, duty?, hm]
            rfl

theorem Fresh.scheduling (fresh : m.Fresh) (hc : m.world.cache? layer = some c) :
    Scheduling layer m c := by
  refine ⟨fun i t ht => Task.dutiful_of_none (fresh.outside ht layer).2, ?_⟩
  intro r hr _
  have hempty := fresh.caches layer c hc
  have hentry : c.entry = none := by
    rw [hempty.eq_empty]
    rfl
  have hfresh := (hempty.early r hr).1
  have hjobs : r.jobs = [] := by
    rw [hfresh]
    rfl
  have hduty : m.duty? layer r.worker = none := by
    rw [duty?]
    cases ht : m.tasks[r.worker]? with
    | none => rfl
    | some t => exact (fresh.outside ht layer).2
  have hpending : r.pending (m.duty? layer r.worker) = [] := by
    simp [EarlyRefresh.pending, hjobs, hduty]
  refine ⟨?_, ?_, ?_, ?_, ?_, ?_⟩
  · intro t ht
    rw [hfresh] at ht
    cases ht
  · simp [hpending]
  · simp [hpending]
  · simp [hpending]
  · simp [hpending]
  · intro e he
    rw [hentry] at he
    cases he

/-- Being told to end leaves the refreshes as they are. -/
theorem Scheduling.told (h : Scheduling layer m c) : Scheduling layer m c.told := by
  refine ⟨h.dutiful, ?_⟩
  intro r hr going
  rw [Cache.early_told, Option.map_eq_some_iff] at hr
  obtain ⟨r₀, hr₀, rfl⟩ := hr
  exact (h.claims r₀ hr₀ going).congr rfl rfl rfl rfl (List.Perm.refl _)

variable [Source σ V C] [Perishable V]

/-- A task that has ended does not go on. -/
theorem hasEnded_move {i : Nat} {t : Task V C} (move : Move m n) (task : m.tasks[i]? = some t)
    (ended : t.hasEnded = true) : ∃ t', n.tasks[i]? = some t' ∧ t'.hasEnded = true := by
  cases move with
  | @advance id favoured running =>
      cases hid : m.tasks[id]? with
      | none =>
          refine ⟨t, ?_, ended⟩
          simpa [Machine.advance, hid] using task
      | some u =>
          rw [(advanced favoured hid).tasks]
          by_cases heq : i = id
          · subst heq
            rw [task] at hid
            cases hid
            exact ⟨_, getElem?_set_some _ task, Task.hasEnded_step ended⟩
          · rw [List.getElem?_set_ne (Ne.symm heq)]
            exact ⟨t, task, ended⟩
  | resume | pass => exact ⟨t, task, ended⟩
  | arrive =>
      refine ⟨t, ?_, ended⟩
      exact getElem?_append_some _ task
  | drop =>
      refine ⟨t, ?_, ended⟩
      rw [← task]
      exact congrArg (·[i]?) (tasks_reclaim { m with dropped := true })

/-- A worker that goes on after a move has gone on before. -/
theorem going_of_move {i : TaskId} (move : Move m n)
    (going : ∀ t : Task V C, n.tasks[i]? = some t → t.hasEnded = false) :
    ∀ t : Task V C, m.tasks[i]? = some t → t.hasEnded = false := by
  intro t task
  cases hended : t.hasEnded with
  | false => rfl
  | true =>
      obtain ⟨t', task', hended'⟩ := hasEnded_move move task hended
      rw [going t' task'] at hended'
      cases hended'

omit [Source σ V C] in
/-- While the worker goes on, every turn, its own or that of another task, is a step of the
claims. -/
theorem Scheduling.claimStep {id : TaskId} {t t' : Task V C} {r r' : EarlyRefresh}
    (sound : m.Sound) (h : Scheduling layer m c) (hc : m.world.cache? layer = some c)
    (task : m.tasks[id]? = some t) (turn : Turn layer m.world.now t c t' c')
    (tasks : n.tasks = m.tasks.set id t') (hr : c.early = some r) (hr' : c'.early = some r')
    (going : ∀ x : Task V C, n.tasks[r.worker]? = some x → x.hasEnded = false) :
    ClaimStep m.world.now c c' r r' (m.duty? layer r.worker) (n.duty? layer r.worker) := by
  have shaped := sound.shaped id t task
  have task' : n.tasks[id]? = some t' := by
    rw [tasks]
    exact getElem?_set_some t' task
  have hbefore : m.duty? layer id = t.duty? layer := duty?_of_task task
  have hafter : n.duty? layer id = t'.duty? layer := duty?_of_task task'
  have hworker : t.request = .work layer → r.worker = id := by
    intro hrequest
    obtain ⟨c₂, r₂, hc₂, hr₂, hworker⟩ := sound.posted id t layer task hrequest
    rw [hc] at hc₂
    cases hc₂
    rw [hr] at hr₂
    cases hr₂
    exact hworker
  rcases turn.claimStep shaped (h.dutiful id t task) hr hr' with ⟨hrequest, ended⟩ |
    ⟨hduty, step⟩ | ⟨hrequest, step⟩
  · -- the worker has ended with this turn
    have hnot := going t' (by rw [hworker hrequest]; exact task')
    rw [ended] at hnot
    cases hnot
  · have hsame : n.duty? layer r.worker = m.duty? layer r.worker := by
      by_cases hid : r.worker = id
      · rw [hid, hafter, hbefore, hduty]
      · simp only [duty?, tasks, List.getElem?_set_ne (Ne.symm hid)]
    rw [hsame]
    exact step _
  · rw [hworker hrequest, hbefore, hafter]
    exact step

omit [Source σ V C] in
/-- A turn of a task that is not the worker leaves the refreshes as a claim step does, and so does
a turn of the worker, unless it ends with it. -/
theorem Scheduling.turn {id : TaskId} {t t' : Task V C} (sound : m.Sound)
    (h : Scheduling layer m c) (hc : m.world.cache? layer = some c)
    (remembering : Remembering layer m c)
    (going : ∀ i : TaskId, (∀ x : Task V C, n.tasks[i]? = some x → x.hasEnded = false) →
      ∀ x : Task V C, m.tasks[i]? = some x → x.hasEnded = false)
    (task : m.tasks[id]? = some t) (turn : Turn layer m.world.now t c t' c')
    (tasks : n.tasks = m.tasks.set id t') (now : n.world.now = m.world.now) :
    Scheduling layer n c' := by
  constructor
  · intro i x hx
    rw [tasks] at hx
    rcases getElem?_set_cases hx with ⟨rfl, rfl⟩ | ⟨-, hx⟩
    · exact turn.dutiful (sound.shaped i t task) (h.dutiful i t task) remembering.jobs
    · exact (h.dutiful i x hx).mono turn.generation_le
  · intro r' hr' hgoing
    obtain ⟨r, hr, window, -, worker⟩ := turn.kept.symm.early hr'
    rw [← worker] at hgoing ⊢
    rw [now]
    have step := h.claimStep sound hc task turn tasks hr hr' hgoing
    exact step.keeps window.symm (h.claims r hr (going r.worker hgoing))

omit [Source σ V C] [Perishable V] in
/-- While no task has its turn, only time passes. -/
theorem Scheduling.joined (h : Scheduling layer m c) (joined : Joined m n)
    (now : m.world.now ≤ n.world.now) : Scheduling layer n c := by
  constructor
  · intro i t task
    rcases joined.tasks i t task with hm | ⟨-, request, rfl⟩
    · exact h.dutiful i t hm
    · exact Task.dutiful_of_none rfl
  · intro r hr going
    have hclaims := h.claims r hr fun t task => going t (joined.kept r.worker t task)
    rw [duty?_of_joined joined]
    exact hclaims.later now

theorem Scheduling.move (sound : m.Sound) (h : Scheduling layer m c)
    (hc : m.world.cache? layer = some c) (remembering : Remembering layer m c) (move : Move m n)
    (next : LayerMove layer m c n c') : Scheduling layer n c' := by
  cases next with
  | turn running task turn same tasks running' parked told now =>
      have hturn := h.turn sound hc remembering (fun i => going_of_move move) task turn tasks now
      rcases told with rfl | ⟨-, rfl⟩
      · exact hturn
      · exact hturn.told
  | arrive idle foreground tasks cache now =>
      subst cache
      exact h.joined (joined_of_arrive tasks) (by rw [now]; exact Instant.le_refl _)
  | rest active tasks cache now =>
      have hrest : Scheduling layer n c := h.joined (joined_of_same tasks) now
      rcases cache with rfl | rfl
      · exact hrest
      · exact hrest.told

theorem scheduling_reaches (sound : m.Sound) (hc : m.world.cache? layer = some c)
    (remembering : Remembering layer m c) (h : Scheduling layer m c) (run : Reaches m n) :
    ∃ c', n.world.cache? layer = some c' ∧ Scheduling layer n c' := by
  have hrun := run.invariant (P := fun k d => Remembering layer k d ∧ Scheduling layer k d) ?_
    sound hc ⟨remembering, h⟩
  · obtain ⟨c', hc', -, h'⟩ := hrun
    exact ⟨c', hc', h'⟩
  · rintro k l d d' soundk hd move next ⟨hk, hs⟩
    exact ⟨(hk.move next).1, hs.move soundk hd hk move next⟩

/-! ## The theorem -/

/-- While the worker of a cache has not ended, an entry that outlasts the window and whose expiry
is claimed has its refresh in the queue or in the hands of the worker. No generation has two. -/
theorem claimed_entry_is_pending {name : String} {source : σ} {others : List σ}
    {plans : List LayerPlan} {bound : List Bool} {m₀ : Machine V σ C} {c₀ : Cache V}
    {r : EarlyRefresh} {worker : Task V C}
    (built : build name source others plans = .ok (bound, m₀))
    (cache : m₀.world.cache? layer = some c₀) (run : Reaches m₀ m)
    (hc : m.world.cache? layer = some c) (early : c.early = some r)
    (task : m.tasks[r.worker]? = some worker) (going : worker.hasEnded = false) :
    (∀ e, c.entry = some e → e.outlasts r.window = true → r.claimed = some e.expiresAt →
      ⟨c.generation, e.expiresAt⟩ ∈ r.jobs ++ (worker.duty? layer).toList) ∧
    ((r.jobs ++ (worker.duty? layer).toList).map RefreshJob.generation).Nodup := by
  have fresh := fresh_of_build built
  obtain ⟨c₁, hc₁, scheduling⟩ :=
    scheduling_reaches fresh.sound cache (fresh.remembering cache) (fresh.scheduling cache) run
  rw [hc] at hc₁
  cases hc₁
  have claims := scheduling.claims r early fun t ht => by
    rw [task] at ht
    cases ht
    exact going
  have hduty : m.duty? layer r.worker = worker.duty? layer := by
    simp [duty?, task]
  rw [hduty] at claims
  refine ⟨?_, claims.nodup⟩
  intro e entry outlasts claimed
  -- what is claimed has a refresh of this generation, and that one bears the claimed expiry
  obtain ⟨job, hjob, hg⟩ := (claims.matched e entry outlasts).1 claimed
  obtain ⟨e', he', hexpires, -⟩ := claims.current job hjob hg
  rw [entry] at he'
  cases he'
  rw [← hg, ← hexpires]
  exact hjob

/-- A source whose first value comes at once and whose later ones take a second each. -/
def belatedSource : Script (Dated Nat) :=
  ⟨[⟨0, .value fun _ => ⟨1, none⟩⟩, ⟨1000, .value fun _ => ⟨2, none⟩⟩], 0, false, false, 0⟩

/-- A cache over that source with a worker that begins half a minute before the expiry. -/
def belatedPlans : List LayerPlan :=
  [.cache ⟨⟨Span.ofSeconds 60, Span.ofSeconds 5⟩, Span.ofSeconds 1⟩ false
    (some ⟨Span.ofSeconds 30, .lazy⟩)]

/-- The stack of the cache and the source. -/
def belatedStack : Machine (Dated Nat) (Script (Dated Nat)) (ScriptReply (Dated Nat)) :=
  match build "chain" belatedSource [] belatedPlans with
  | .ok (_, m) => m
  | .error _ => bare "chain" belatedSource []

/-- The stack when a first fetch has returned and half of the stay of its value is over. -/
def belatedWindow : Machine (Dated Nat) (Script (Dated Nat)) (ScriptReply (Dated Nat)) :=
  (requested (.fetch false) 15 belatedStack).2.passTo ⟨35000000000⟩

/-- The stack when a second fetch has returned that value, and the worker waits for the source. -/
def belatedRefresh : Machine (Dated Nat) (Script (Dated Nat)) (ScriptReply (Dated Nat)) :=
  (requested (.fetch false) 11 belatedWindow).2

theorem reaches_belatedRefresh : Reaches belatedStack belatedRefresh :=
  ((run_requested 15 rfl rfl).reaches.tail (.pass _ rfl)).trans (run_requested 11 rfl rfl).reaches

/-- The refresh of the entry whose expiry is claimed has left the queue, and the worker carries it
out. -/
theorem claimed_entry_is_pending_with_worker :
    ∃ c r worker, belatedRefresh.world.cache? 0 = some c ∧ c.early = some r ∧
      belatedRefresh.tasks[r.worker]? = some worker ∧ r.jobs = [] ∧
      worker.duty? 0 = some ⟨1, ⟨60000000000⟩⟩ := by
  have built : build "chain" belatedSource [] belatedPlans = .ok ([], belatedStack) := rfl
  have cache : (belatedStack.world.cache? 0).isSome = true := rfl
  obtain ⟨c₀, cache⟩ := Option.isSome_iff_exists.1 cache
  have hworker : (belatedRefresh.tasks[0]?).map (·.hasEnded) = some false := rfl
  obtain ⟨worker, task, going⟩ := Option.map_eq_some_iff.1 hworker
  have hcache : (belatedRefresh.world.cache? 0).map (fun c =>
      (c.generation, c.entry.map fun e => (e.expiresAt, e.outlasts (Span.ofSeconds 30)),
        c.early.map fun r => (r.window, r.worker, r.claimed, r.jobs))) =
      some (1, some (⟨60000000000⟩, true),
        some (Span.ofSeconds 30, 0, some ⟨60000000000⟩, [])) := rfl
  obtain ⟨c, hc, hfacts⟩ := Option.map_eq_some_iff.1 hcache
  simp only [Prod.mk.injEq, Option.map_eq_some_iff] at hfacts
  obtain ⟨hgeneration, ⟨e, entry, hexpires, outlasts⟩, r, early, hwindow, hid, hclaimed, hjobs⟩ :=
    hfacts
  rw [← hid] at task
  obtain ⟨pending, -⟩ :=
    claimed_entry_is_pending built cache reaches_belatedRefresh hc early task going
  have hjob := pending e entry (by rw [hwindow]; exact outlasts) (by rw [hexpires]; exact hclaimed)
  rw [hjobs, List.nil_append, Option.mem_toList, hgeneration, hexpires] at hjob
  exact ⟨c, r, worker, hc, early, task, hjobs, hjob⟩

end Machine

end CredentialSupply
