import CredentialSupply.Proofs.Course

set_option autoImplicit false

/-!
# One entry for a whole burst

While nothing disturbs its callers (`Calm`), a cache without a worker goes through the course of a
burst (`bursting_run`). The holder of its lock is never forgotten (`Awake`), so that nobody is
left in line when nothing is left to do. `burst_is_coalesced` says what the callers see.
-/

namespace CredentialSupply

variable {V σ C : Type}

namespace Task

variable {layer : Nat} {t : Task V C}

theorem control_of_waiting {seen : Nat} {force : Bool} {deadline : Option Instant}
    (h : t.stage layer = .waiting seen force deadline) :
    t.control = .queued layer seen force deadline := by
  rcases t.stage_cases layer with ⟨seen', force', -, stage⟩ | ⟨seen', force', d, control, stage⟩ |
    ⟨seen', force', -, stage⟩ | stage | stage
  all_goals
    rw [h] at stage
    cases stage
  exact control

/-- Only a running task goes on as the holder. -/
theorem not_holding_of_parked {seen : Nat} {force : Bool} (h : t.control.isParked = true) :
    t.stage layer ≠ .holding seen force := by
  intro hstage
  rcases t.stage_cases layer with ⟨seen', force', -, stage⟩ | ⟨seen', force', d, -, stage⟩ |
    ⟨seen', force', control, stage⟩ | stage | stage
  all_goals
    rw [hstage] at stage
    cases stage
  rw [control] at h
  cases h

/-- A task that has been given the lock goes on as its holder. -/
theorem step_of_handed [Source σ V C] [Perishable V] {w : World V σ} {c : Cache V} {seen : Nat}
    {force : Bool} {deadline : Option Instant} (favoured : Signal)
    (hc : w.cache? layer = some c) (waiting : t.stage layer = .waiting seen force deadline)
    (held : c.lock.isHeldBy t.id = true) (going : t.isStopped w = false) :
    t.step w favoured = (w, t.goto (.locked layer seen force)) := by
  rw [step_of_not_stopped going]
  simp only [advance, control_of_waiting waiting, stopWaiting, hc]
  rw [if_pos held]

/-- A task that is in its inner call waits for the value. -/
theorem isLoad_of_loading (h : t.stage layer = .loading) :
    t.frames.any (Frame.isLoad layer) = true := by
  have haround : t.around layer = .loading := by
    rw [stage] at h
    split at h
    all_goals first | exact h | skip
    all_goals
      split at h
      · cases h
      · exact h
  rw [around] at haround
  split at haround
  next hany => exact hany
  next => cases haround

end Task

/-- A task that waits for the lock has waited before, or has just been put in line. -/
theorem Turn.waiting_cases [Perishable V] {layer : Nat} {now : Instant} {t t' : Task V C}
    {c c' : Cache V} {seen : Nat} {force : Bool} {deadline : Option Instant}
    (h : Turn layer now t c t' c') (waiting : t'.stage layer = .waiting seen force deadline) :
    (t.stage layer = .waiting seen force deadline ∧ c'.lock = c.lock) ∨
      c'.lock.isHeldBy t.id = false := by
  -- whoever has come out of the cache does not wait
  have haround : ∀ u : Task V C, u.around layer ≠ .waiting seen force deadline := by
    intro u hu
    rw [Task.around] at hu
    split at hu <;> cases hu
  have hattends : t'.Attends layer → False := by
    intro attends
    rw [(attends.outside layer).1] at waiting
    cases waiting
  cases h with
  | elsewhere acts stage duty => exact Or.inl ⟨stage ▸ waiting, rfl⟩
  | queue control held => exact Or.inr held
  | hit | overrun | giveUp | adopt | install | fail | crash =>
      rw [Task.stage_pass] at waiting
      exact absurd waiting (haround _)
  | miss => simp at waiting
  | seize | receive => simp at waiting
  | load => simp at waiting
  | tend _ _ _ _ _ _ attends' => exact (hattends attends').elim
  | succeed _ _ _ attends' => exact (hattends attends').elim
  | forgo _ _ _ attends' => exact (hattends attends').elim
  | takeJob | fire => simp [Task.stage, Task.push] at waiting
  | retire request away early worker jobs accepting frames' ended =>
      rw [Task.stage_of_hasEnded frames' ended] at waiting
      cases waiting
  | abandon =>
      rw [Task.stage_eq_away_of_nil rfl rfl] at waiting
      cases waiting
  | tell request frames control frames' idle =>
      rw [Task.stage_of_resting frames' idle] at waiting
      cases waiting

/-- A task has a snapshot from before, or takes it from the cache as it comes. -/
theorem Visit.seen_cases [Perishable V] {layer : Nat} {now : Instant} {t t' : Task V C}
    {c c' : Cache V} {s : Nat} (h : Visit layer now t c t' c')
    (hs : (t'.stage layer).seen? = some s) :
    (t.stage layer).seen? = some s ∨ t.entered? = some layer ∧ s = c.generation := by
  cases h with
  | aside marks lock entry generation stage =>
      left
      rcases stage with h | ⟨seen, force, deadline, h, h'⟩
      · rw [← h]
        exact hs
      · rw [h'] at hs
        rw [h]
        exact hs
  | come marks stage stage' cache =>
      rw [stage'] at hs
      exact Or.inr ⟨marks.comes.2 rfl, (Option.some.inj hs).symm⟩
  | ask marks stage stage' cache =>
      left
      rcases stage' with h' | ⟨-, deadline, h'⟩
      · rw [h'] at hs
        rw [stage]
        exact hs
      · rw [h'] at hs
        rw [stage]
        exact hs
  | call marks stage stage' =>
      rw [stage'] at hs
      cases hs
  | fail marks stage stage' =>
      rw [stage'] at hs
      cases hs
  | succeed marks stage stage' =>
      rw [stage'] at hs
      cases hs
  | share marks stage stage' =>
      rw [stage'] at hs
      cases hs

namespace Cache

variable {c c' : Cache V}

theorem Kept.blocking (h : c.Kept c') (blocking : c.early = none) : c'.early = none := by
  cases hr : c'.early with
  | none => rfl
  | some r' =>
      obtain ⟨r, hr, -⟩ := h.symm.early hr
      rw [blocking] at hr
      cases hr

theorem told_of_blocking (blocking : c.early = none) : c.told = c := by
  obtain ⟨settings, meter, entry, generation, lock, early⟩ := c
  have hearly : early = none := blocking
  subst hearly
  rfl

end Cache

namespace Machine

/-! ## Calm -/

/-- Nothing disturbs the callers of the cache at a layer: none of them waits for the lock up to
its deadline, and no worker of another cache is among them, which could be told to end. -/
structure Calm (layer : Nat) (m : Machine V σ C) : Prop where
  patient : ∀ t ∈ m.tasks, ∀ d ∈ (t.stage layer).deadline?, m.world.now < d
  foreground : ∀ t ∈ m.tasks, t.request.isWork = true → t.stage layer = .away

/-- No time passes while a task is running or ready. -/
def Prompt (moves : List (Machine V σ C × Machine V σ C)) : Prop :=
  ∀ move ∈ moves, move.1.world.now ≠ move.2.world.now → move.1.isSettled = true

/-- Only a worker can be told to end. -/
theorem Calm.going {layer : Nat} {m : Machine V σ C} {id : TaskId} {t : Task V C}
    (calm : Calm layer m) (task : m.tasks[id]? = some t) (inside : t.stage layer ≠ .away) :
    t.isStopped m.world = false := by
  rw [Task.isStopped]
  split
  next l request =>
    refine absurd (calm.foreground t (List.mem_of_getElem? task) ?_) inside
    rw [request]
    rfl
  next => rfl

section Calm

variable [Perishable V] {layer : Nat} {m : Machine V σ C} {c c' : Cache V} {id : TaskId}
  {t t' : Task V C}

theorem Calm.visit (calm : Calm layer m) (sound : m.Sound) (hc : m.world.cache? layer = some c)
    (blocking : c.early = none) (stale : came? layer m ≠ none → c.valid? m.world.now = none)
    (running : m.running = some id) (task : m.tasks[id]? = some t)
    (turn : Turn layer m.world.now t c t' c') : Visit layer m.world.now t c t' c' := by
  have hmem : t ∈ m.tasks := List.mem_of_getElem? task
  refine turn.visit (sound.shaped id t task) blocking ?_ ?_ (calm.foreground t hmem) ?_
  · intro entered
    apply stale
    simp [came?, active?_of_running running task, entered]
  · intro d hd
    exact calm.patient t hmem d hd
  · intro request
    obtain ⟨c₁, r, hc₁, hr, -⟩ := sound.posted id t layer task request
    rw [hc] at hc₁
    cases hc₁
    rw [blocking] at hr
    cases hr

end Calm

/-! ## The holder of the lock is not forgotten -/

/-- Whoever has the lock is in its inner call, or is running or ready to run. -/
def Awake (layer : Nat) (m : Machine V σ C) (l : Lock) : Prop :=
  ∀ i, l.holder = some i →
    (∃ t, m.tasks[i]? = some t ∧ t.stage layer = .loading) ∨ i ∈ m.world.ready ∨
      m.running = some i

/-- When nothing is left to do, the first one in line is in its inner call. -/
theorem loading_of_settled {layer : Nat} {m : Machine V σ C} {l : Lock}
    (queued : Queued layer m l) (awake : Awake layer m l) (settled : m.isSettled = true)
    (waits : line layer m l ≠ []) :
    ∃ (i : TaskId) (t : Task V C), m.tasks[i]? = some t ∧ t.stage layer = .loading := by
  simp only [isSettled, Bool.and_eq_true, Option.isNone_iff_eq_none, List.isEmpty_iff] at settled
  have hasking : asking layer m = [] := by
    simp only [asking, active?_of_idle settled.1]
  rw [line, hasking, List.append_nil] at waits
  obtain ⟨i, others, hparties⟩ := List.exists_cons_of_ne_nil waits
  have holder : l.holder = some i := by
    rw [Lock.holder_eq_head? queued.proper, hparties]
    rfl
  rcases awake i holder with ⟨t, task, hloading⟩ | hready | hrunning
  · exact ⟨i, t, task, hloading⟩
  · rw [settled.2] at hready
    cases hready
  · rw [settled.1] at hrunning
    cases hrunning

/-- While no task runs, whoever has the lock stays where it is or gets its turn. -/
theorem Awake.of_idle {layer : Nat} {m n : Machine V σ C} {l : Lock}
    (awake : Awake layer m l) (idle : m.running = none)
    (tasks : ∀ (i : Nat) (t : Task V C), m.tasks[i]? = some t → n.tasks[i]? = some t)
    (ready : ∀ i ∈ m.world.ready, i ∈ n.world.ready ∨ n.running = some i) :
    Awake layer n l := by
  intro i hi
  rcases awake i hi with ⟨t, task, hloading⟩ | hready | hrunning
  · exact Or.inl ⟨t, tasks i t task, hloading⟩
  · exact Or.inr (ready i hready)
  · rw [idle] at hrunning
    cases hrunning

/-- The turn of a task that is there no more does not change who has the lock, and it was not that
task. -/
theorem Awake.of_gone {layer : Nat} {m : Machine V σ C} {id : TaskId} {l : Lock}
    (awake : Awake layer m l) (queued : Queued layer m l)
    (running : m.running = some id) (task : m.tasks[id]? = none) :
    Awake layer { m with running := none } l := by
  intro i hi
  rcases awake i hi with hloading | hready | hrunning
  · exact Or.inl hloading
  · exact Or.inr (Or.inl hready)
  · rw [running] at hrunning
    cases hrunning
    obtain ⟨u, hu, -⟩ := (queued.engaged id).1 (by
      rw [Lock.parties_of_holder hi]
      exact List.mem_cons_self)
    rw [task] at hu
    cases hu

section Moves

variable [Perishable V] {layer : Nat} {m n : Machine V σ C} {c c' : Cache V}

theorem lock_of_idle (idle : m.active? = none) (next : LayerMove layer m c n c') :
    c'.lock = c.lock := by
  cases next with
  | turn running task =>
      rw [active?_of_running running task] at idle
      cases idle
  | arrive _ _ _ cache => rw [cache]
  | rest _ _ cache =>
      rcases cache with rfl | rfl <;> rfl

variable [Source σ V C]

/-- The task that makes a step is not forgotten if it has the lock then. -/
theorem awake_of_turn {id : TaskId} {t : Task V C} (favoured : Signal) (sound : m.Sound)
    (queued' : Queued layer (m.advance favoured id) c'.lock)
    (going : t.stage layer ≠ .away → t.isStopped m.world = false)
    (hc : m.world.cache? layer = some c) (running : m.running = some id)
    (task : m.tasks[id]? = some t) (next : LayerMove layer m c (m.advance favoured id) c')
    (holder : c'.lock.holder = some id) :
    (∃ t', (m.advance favoured id).tasks[id]? = some t' ∧ t'.stage layer = .loading) ∨
      (m.advance favoured id).running = some id := by
  have facts := advanced favoured task
  rcases facts.running.symm with hrunning | hidle
  · exact Or.inr hrunning
  left
  obtain ⟨t', c₁, turn, tasks, task', told, -⟩ := next.of_running running task
  have hstep : t' = (t.step m.world favoured).2 := by
    rw [facts.tasks, getElem?_set_some _ task] at task'
    exact (Option.some.inj task').symm
  have hparked : t'.control.isParked = true := by
    rw [hstep]
    exact facts.parked (by simp [hidle])
  have hlock : c'.lock = c₁.lock := by
    rcases told with rfl | ⟨-, rfl⟩ <;> rfl
  rw [hlock] at holder
  have hengaged : (t'.stage layer).isEngaged = true := by
    obtain ⟨u, hu, hengaged⟩ := (queued'.engaged id).1 (by
      rw [hlock, Lock.parties_of_holder holder]
      exact List.mem_cons_self)
    rw [task'] at hu
    cases hu
    exact hengaged
  refine ⟨t', task', ?_⟩
  rcases t'.stage_cases layer with ⟨seen, force, -, stage'⟩ | ⟨seen, force, deadline, -, stage'⟩ |
    ⟨seen, force, -, stage'⟩ | stage' | stage'
  · rw [stage'] at hengaged
    cases hengaged
  · -- a task that has the lock does not begin or go on to wait for it
    have hid : t.id = id := sound.ids id t task
    rcases turn.waiting_cases stage' with ⟨hstage, lock⟩ | hheld
    · have hheld : c.lock.isHeldBy t.id = true := by
        rw [Lock.isHeldBy_iff, hid, ← lock]
        exact holder
      have going := going (by rw [hstage]; exact Stage.noConfusion)
      rw [hstep, Task.step_of_handed favoured hc hstage hheld going] at stage'
      simp at stage'
    · rw [hid, (Lock.isHeldBy_iff _ _).2 holder] at hheld
      cases hheld
  · exact absurd stage' (Task.not_holding_of_parked hparked)
  · rw [stage'] at hengaged
    cases hengaged
  · exact stage'

/-- Whoever has the lock after a step of another task is in its inner call or ready, or the step
has given it the lock and woken it. -/
theorem Awake.beside {id i : TaskId} {t : Task V C} {favoured : Signal}
    (awake : Awake layer m c.lock) (hc : m.world.cache? layer = some c)
    (running : m.running = some id) (task : m.tasks[id]? = some t) (hid : t.id = id)
    (hc' : (m.advance favoured id).world.cache? layer = some c')
    (holder : c'.lock.holder = some i) (other : i ≠ id) :
    (∃ u, (m.advance favoured id).tasks[i]? = some u ∧ u.stage layer = .loading) ∨
      i ∈ (m.advance favoured id).world.ready := by
  have facts := advanced favoured task
  have leads : World.Leads t.id m.world (m.advance favoured id).world :=
    Task.leads_step.trans facts.leads
  rcases leads.handed layer c' i hc' holder with h | hready | ⟨c₁, hc₁, held⟩
  · exact absurd (h.trans hid) other
  · exact Or.inr hready
  · rw [hc] at hc₁
    cases hc₁
    rcases awake i held with ⟨u, hu, hloading⟩ | hready | hrunning
    · refine Or.inl ⟨u, ?_, hloading⟩
      rw [facts.tasks, List.getElem?_set_ne (Ne.symm other)]
      exact hu
    · exact Or.inr (leads.ready i hready)
    · rw [running] at hrunning
      exact absurd (Option.some.inj hrunning).symm other

/-- While nobody in a fetch at the cache is told to end, the holder of the lock is not forgotten. -/
theorem awake_move (awake : Awake layer m c.lock) (sound : m.Sound)
    (queued : Queued layer m c.lock)
    (going : ∀ t ∈ m.tasks, t.stage layer ≠ .away → t.isStopped m.world = false)
    (hc : m.world.cache? layer = some c) (move : Move m n)
    (hc' : n.world.cache? layer = some c') (next : LayerMove layer m c n c') :
    Awake layer n c'.lock := by
  cases move with
  | @advance id favoured running =>
      cases task : m.tasks[id]? with
      | none =>
          have hstays : m.advance favoured id = { m with running := none } := by
            simp [Machine.advance, task]
          rw [lock_of_idle (by simp [active?, running, task]) next, hstays]
          exact awake.of_gone queued running task
      | some t =>
          intro i hi
          by_cases heq : i = id
          · subst heq
            exact (awake_of_turn favoured sound (queued.move sound next)
              (going t (List.mem_of_getElem? task)) hc running task next hi).imp_right Or.inr
          · exact (awake.beside hc running task (sound.ids id t task) hc' hi heq).imp_right Or.inl
  | @resume id idle ready =>
      rw [lock_of_idle (active?_of_idle idle) next]
      refine awake.of_idle idle (fun _ _ h => h) fun i hready => ?_
      by_cases heq : i = id
      · subst heq
        exact Or.inr rfl
      · exact Or.inl ((List.mem_erase_of_ne heq).2 hready)
  | @arrive request idle foreground =>
      rw [lock_of_idle (active?_of_idle idle) next]
      have leads : World.Leads 0 m.world (m.world.wake m.tasks.length) := World.leads_wake _
      exact awake.of_idle idle (fun _ _ h => getElem?_append_some _ h)
        fun i hready => Or.inl (leads.ready i hready)
  | pass instant idle =>
      rw [lock_of_idle (active?_of_idle idle) next]
      exact awake.of_idle idle (fun _ _ h => h)
        fun i hready => Or.inl ((leads_foldl_wake 0 _ _).ready i hready)
  | drop idle =>
      rw [lock_of_idle (active?_of_idle idle) next]
      have hready := (leads_reclaim { m with dropped := true } 0).ready
      refine awake.of_idle idle (fun i t task => ?_) fun i h => Or.inl (hready i h)
      rw [← task]
      exact congrArg (·[i]?) (tasks_reclaim { m with dropped := true })

end Moves

/-! ## The whole burst -/

/-- The state of a machine in the course of a burst at the cache at a layer, whose callers found the
generation `seen`. -/
structure Bursting [Perishable V] (l : Lifetime) (prompt : Prop) (layer seen : Nat)
    (happened : Log V) (m : Machine V σ C) (c : Cache V) : Prop where
  blocking : c.early = none
  lifetime : c.settings.lifetime = l
  queued : Queued layer m c.lock
  awake : Awake layer m c.lock
  snapshots : ∀ (i : Nat) (t : Task V C) (s : Nat), m.tasks[i]? = some t →
    (t.stage layer).seen? = some s → s = seen
  course : ∃ calling installed, Course l prompt layer seen happened m c calling installed

/-- All who come have come before the first inner call ends. -/
def Gathered (layer : Nat) (moves : List (Machine V σ C × Machine V σ C)) : Prop :=
  ∃ first rest, moves = first ++ rest ∧ (log layer first).ended = [] ∧ (log layer rest).came = []

theorem Gathered.dropLast {layer : Nat} {moves : List (Machine V σ C × Machine V σ C)}
    {move : Machine V σ C × Machine V σ C} (h : Gathered layer (moves ++ [move])) :
    Gathered layer moves ∧ (came? layer move.1 ≠ none → (log layer moves).ended = []) := by
  obtain ⟨first, rest, hmoves, ended, came⟩ := h
  rcases List.eq_nil_or_concat rest with rfl | ⟨rest', last, rfl⟩
  · rw [List.append_nil] at hmoves
    subst hmoves
    have hended : (log layer moves).ended = [] := by
      have happend := innerEnds_append layer moves [move]
      exact (List.append_eq_nil_iff.1 (happend.symm.trans ended)).1
    exact ⟨⟨moves, [], (List.append_nil moves).symm, hended, rfl⟩, fun _ => hended⟩
  · rw [List.concat_eq_append, ← List.append_assoc] at hmoves
    obtain ⟨rfl, hlast⟩ := List.append_inj' hmoves rfl
    cases hlast
    simp only [log, List.concat_eq_append, List.filterMap_append, List.append_eq_nil_iff] at came
    refine ⟨⟨first, rest', rfl, ended, came.1⟩, fun hne => ?_⟩
    -- nobody comes with the last move
    have hnone := came.2
    cases hcame : came? layer move.1 with
    | none => exact absurd hcame hne
    | some id => simp [hcame] at hnone

section Run

variable [Perishable V] {layer seen : Nat} {m n : Machine V σ C} {c c' : Cache V} {l : Lifetime}
  {prompt : Prop} {moves : List (Machine V σ C × Machine V σ C)}

/-- A cache that nobody has come to, without a worker and without a valid entry. -/
theorem bursting_of_quiet (queued : Queued layer m c.lock) (blocking : c.early = none)
    (stale : c.valid? m.world.now = none) (quiet : ∀ t ∈ m.tasks, ¬ t.IsInside layer) :
    Bursting c.settings.lifetime prompt layer c.generation .blank m c := by
  have haway : ∀ (i : Nat) (t : Task V C), m.tasks[i]? = some t → t.stage layer = .away := by
    intro i t task
    have houtside := quiet t (List.mem_of_getElem? task)
    rw [Task.isInside_iff] at houtside
    by_cases h : t.stage layer = .away
    · exact h
    · exact absurd (Or.inr h) houtside
  have hparties : c.lock.parties = [] := by
    apply List.eq_nil_iff_forall_not_mem.2
    intro i hi
    obtain ⟨t, task, hengaged⟩ := (queued.engaged i).1 hi
    rw [haway i t task] at hengaged
    cases hengaged
  have hasking : asking layer m = [] := by
    rw [asking]
    split
    next => rfl
    next t active =>
      obtain ⟨i, -, task⟩ := Option.bind_eq_some_iff.1 active
      rw [haway i t task]
      rfl
  have hline : line layer m c.lock = [] := by
    rw [line, hparties, hasking]
    rfl
  -- nobody stands in line, and no inner call is on its way
  refine ⟨blocking, rfl, queued, ?_, ?_, none, none, ?_, ?_, ⟨rfl, stale⟩, ?_⟩
  · intro i hi
    rw [Lock.parties_of_holder hi] at hparties
    cases hparties
  · intro i t s task hs
    rw [haway i t task] at hs
    cases hs
  · rw [hline]
    exact .start
  · intro i
    constructor
    · intro hnone
      cases hnone
    · rintro ⟨t, task, hloading⟩
      rw [haway i t task] at hloading
      cases hloading
  · intro _ e he
    cases he

/-- Whoever comes before the first inner call has ended finds no entry. -/
theorem Bursting.found (h : Bursting l prompt layer seen (log layer moves) m c)
    (early : came? layer m ≠ none → (log layer moves).ended = []) (comes : came? layer m ≠ none) :
    c.generation = seen ∧ c.valid? m.world.now = none := by
  obtain ⟨calling, installed, course⟩ := h.course
  have hnone := course.not_installed (early comes)
  subst hnone
  exact course.found

/-- While no task runs, a burst stands still. -/
theorem Course.rest {happened : Log V} {calling : Option TaskId} {installed : Option (Entry V)}
    (h : Course l prompt layer seen happened m c calling installed) (queued : Queued layer m c.lock)
    (awake : Awake layer m c.lock) (active : m.active? = none)
    (parked : ∀ (i : Nat) (t : Task V C), m.tasks[i]? = some t → t.control.isParked = true)
    (joined : Joined m n) (now : m.world.now ≤ n.world.now)
    (soon : prompt → m.world.now ≠ n.world.now → m.isSettled = true) :
    Course l prompt layer seen happened n c calling installed := by
  have hasking : asking layer m = [] := by
    simp only [asking, active]
  have hparked : ∀ (i : Nat) (t : Task V C), n.tasks[i]? = some t →
      t.control.isParked = true := by
    intro i t task
    rcases joined.tasks i t task with hm | ⟨-, request, rfl⟩
    · exact parked i t hm
    · rfl
  have hline : line layer n c.lock = line layer m c.lock := by
    rw [line, line, hasking, asking_of_parked hparked]
  refine ⟨?_, h.calling.joined joined, h.found.later now, ?_⟩
  · rw [hline]
    exact h.burst
  · intro hprompt e he hne
    rw [hline] at hne
    have hsame : m.world.now = n.world.now := by
      refine Decidable.byContradiction fun hlater => ?_
      -- time passes only while the first one in line is in its inner call, which has ended
      obtain ⟨i, hloading⟩ := loading_of_settled queued awake (soon hprompt hlater) hne
      have hcalling := (h.calling i).2 hloading
      rw [(h.burst.facts.served e he).1] at hcalling
      cases hcalling
    rw [← hsame]
    exact h.soon hprompt e he hne

/-- Everybody who stands in line came while the cache had the generation that the burst found. -/
theorem Bursting.snapshots_move (h : Bursting l prompt layer seen (log layer moves) m c)
    (sound : m.Sound) (calm : Calm layer m) (hc : m.world.cache? layer = some c)
    (next : LayerMove layer m c n c')
    (early : came? layer m ≠ none → (log layer moves).ended = []) {i : Nat} {x : Task V C} {s : Nat}
    (hx : n.tasks[i]? = some x) (hs : (x.stage layer).seen? = some s) : s = seen := by
  cases next with
  | @turn id t t' c₁ running task turn same tasks running' parked told now =>
      rw [tasks] at hx
      rcases getElem?_set_cases hx with ⟨rfl, rfl⟩ | ⟨-, hx⟩
      · have visit := calm.visit sound hc h.blocking (fun comes => (h.found early comes).2) running
          task turn
        rcases visit.seen_cases hs with hold | ⟨entered, hs⟩
        · exact h.snapshots i t s task hold
        · rw [hs]
          refine (h.found early ?_).1
          simp [came?, active?_of_running running task, entered]
      · exact h.snapshots i x s hx hs
  | arrive idle foreground tasks cache now =>
      rcases (joined_of_arrive tasks).task_or_away hx layer with hx | haway
      · exact h.snapshots i x s hx hs
      · rw [haway] at hs
        cases hs
  | rest active tasks cache now =>
      rw [tasks] at hx
      exact h.snapshots i x s hx hs

/-- A move takes the course one step further, or leaves it as it is. -/
theorem Bursting.course_move (h : Bursting l prompt layer seen (log layer moves) m c)
    (sound : m.Sound) (calm : Calm layer m) (hc : m.world.cache? layer = some c)
    (next : LayerMove layer m c n c')
    (early : came? layer m ≠ none → (log layer moves).ended = [])
    (soon : prompt → m.world.now ≠ n.world.now → m.isSettled = true) :
    ∃ calling installed,
      Course l prompt layer seen (log layer (moves ++ [(m, n)])) n c' calling installed := by
  obtain ⟨calling, installed, course⟩ := h.course
  cases next with
  | @turn id t t' c₁ running task turn same tasks running' parked told now =>
      have hid : t.id = id := sound.ids id t task
      -- a cache without a worker is told nothing
      have hsame : c' = c₁ := by
        rcases told with rfl | ⟨-, rfl⟩
        · rfl
        · exact Cache.told_of_blocking (turn.kept.blocking h.blocking)
      subst hsame
      have task' : n.tasks[id]? = some t' := by
        rw [tasks]
        exact getElem?_set_some t' task
      have taken : Taken layer m n id t t' :=
        ⟨running, task, hid, tasks, asking_of_turn task' (same.1.trans hid) running' parked, now⟩
      have visit := calm.visit sound hc h.blocking (fun comes => (h.found early comes).2) running
        task turn
      exact course.visit h.lifetime h.queued h.snapshots taken early visit
  | @arrive request idle foreground tasks cache now =>
      subst cache
      have active := active?_of_idle idle
      refine ⟨calling, installed, ?_⟩
      rw [log_of_rest active]
      exact course.rest h.queued h.awake active (sound.parked_of_rest active)
        (joined_of_arrive tasks) (by rw [now]; exact Instant.le_refl _) soon
  | rest active tasks cache now =>
      have hsame : c' = c := by
        rcases cache with rfl | rfl
        · rfl
        · exact Cache.told_of_blocking h.blocking
      subst hsame
      refine ⟨calling, installed, ?_⟩
      rw [log_of_rest active]
      exact course.rest h.queued h.awake active (sound.parked_of_rest active)
        (joined_of_same tasks) now soon

variable [Source σ V C]

theorem Bursting.move (h : Bursting l prompt layer seen (log layer moves) m c) (sound : m.Sound)
    (calm : Calm layer m) (hc : m.world.cache? layer = some c) (move : Move m n)
    (early : came? layer m ≠ none → (log layer moves).ended = [])
    (soon : prompt → m.world.now ≠ n.world.now → m.isSettled = true) :
    ∃ c', n.world.cache? layer = some c' ∧
      Bursting l prompt layer seen (log layer (moves ++ [(m, n)])) n c' := by
  obtain ⟨c', hc', next⟩ := layerMove sound move hc
  have hgoing : ∀ t ∈ m.tasks, t.stage layer ≠ .away → t.isStopped m.world = false := by
    intro t ht inside
    obtain ⟨i, task⟩ := List.mem_iff_getElem?.1 ht
    exact calm.going task inside
  exact ⟨c', hc',
    { blocking := next.kept.blocking h.blocking
      lifetime := by rw [next.kept.settings, h.lifetime]
      queued := h.queued.move sound next
      awake := awake_move h.awake sound h.queued hgoing hc move hc' next
      snapshots := fun _ _ _ hx hs => h.snapshots_move sound calm hc next early hx hs
      course := h.course_move sound calm hc next early soon }⟩

theorem bursting_run (sound : m.Sound) (hc : m.world.cache? layer = some c)
    (h : Bursting l prompt layer seen .blank m c) (run : Run m moves n)
    (gathered : Gathered layer moves) (calm : ∀ move ∈ moves, Calm layer move.1)
    (soon : prompt → Prompt moves) :
    ∃ c', n.world.cache? layer = some c' ∧
      Bursting l prompt layer seen (log layer moves) n c' := by
  -- by induction on the run: nobody comes after the first inner call has ended
  induction run with
  | start => exact ⟨c, hc, h⟩
  | @move moves k n run move ih =>
      obtain ⟨gathered', early⟩ := gathered.dropLast
      have hlast : (k, n) ∈ moves ++ [(k, n)] := List.mem_append_right _ List.mem_cons_self
      obtain ⟨c₁, hc₁, h₁⟩ := ih gathered'
        (fun p hp => calm p (List.mem_append_left _ hp))
        (fun hprompt p hp => soon hprompt p (List.mem_append_left _ hp))
      exact h₁.move (sound_reaches sound run.reaches) (calm (k, n) hlast) hc₁ move early
        fun hprompt => soon hprompt (k, n) hlast

end Run

/-! ## The schedule -/

section Schedule

variable [Source σ V C] [Perishable V] {m n : Machine V σ C}

/-- The schedule lets time pass only when there is nothing else to do. -/
theorem settled_of_next? (h : m.next? = some n) (later : m.world.now ≠ n.world.now) :
    m.isSettled = true := by
  unfold next? at h
  split at h
  next id running =>
    -- a step takes no time
    cases h
    refine absurd ?_ later
    cases task : m.tasks[id]? with
    | none => simp [Machine.advance, task]
    | some t =>
        exact (now_advance .job task).symm
  next =>
    cases h
    exact absurd rfl later
  next idle ready => simp [isSettled, idle, ready]

theorem prompt_scheduled (k : Nat) (m : Machine V σ C) : Prompt (scheduled k m).1 :=
  fun _ hmove => settled_of_next? (next?_of_mem_scheduled hmove)

theorem prompt_requested (request : Request) (k : Nat) (m : Machine V σ C) :
    Prompt (requested request k m).1 := by
  intro move hmove later
  rcases List.mem_cons.1 hmove with rfl | hmove
  · exact absurd (World.now_wake m.world _).symm later
  · exact prompt_scheduled k _ move hmove later

end Schedule

/-! ## The theorem -/

/-- When nothing is left to do and no inner call is in flight, nobody is left in line. -/
theorem line_of_settled {layer : Nat} {n : Machine V σ C} {c : Cache V}
    (queued : Queued layer n c.lock) (awake : Awake layer n c.lock)
    (settled : n.isSettled = true) (idle : n.inFlight layer = 0) : line layer n c.lock = [] := by
  refine Decidable.byContradiction fun hne => ?_
  obtain ⟨i, t, task, hloading⟩ := loading_of_settled queued awake settled hne
  -- the inner call of the first one in line would be in flight
  obtain ⟨f, hf, hload⟩ := List.any_eq_true.1 (Task.isLoad_of_loading hloading)
  have hmem : f ∈ n.tasks.flatMap Task.frames :=
    List.mem_flatMap.2 ⟨t, List.mem_of_getElem? task, hf⟩
  exact absurd hload (List.countP_eq_zero.1 idle f hmem)

section Theorem

variable [Source σ V C] [Perishable V] {layer : Nat} {m n : Machine V σ C} {c : Cache V}

/-- Callers come to a cache that has no worker and no valid entry, all of them before the first
inner call ends, and nothing disturbs them. Then inner calls are made one after the other in
the order of arrival until one leads to an entry, the callers before that one return with their
own failures, and all others with the entry. -/
theorem burst_is_coalesced {name : String} {source : σ} {others : List σ}
    {plans : List LayerPlan} {bound : List Bool} {m₀ : Machine V σ C} {c₀ : Cache V}
    {first rest : List (Machine V σ C × Machine V σ C)}
    (built : build name source others plans = .ok (bound, m₀))
    (cache : m₀.world.cache? layer = some c₀) (reach : Reaches m₀ m)
    (hc : m.world.cache? layer = some c) (blocking : c.early = none)
    (stale : c.valid? m.world.now = none) (quiet : ∀ t ∈ m.tasks, ¬ t.IsInside layer)
    (run : Run m (first ++ rest) n) (gathered : (log layer first).ended = [])
    (closed : (log layer rest).came = [])
    (calm : ∀ move ∈ first ++ rest, Calm layer move.1) :
    (log layer (first ++ rest)).Coalesced c.settings.lifetime (Prompt (first ++ rest))
      (n.isSettled = true ∧ n.inFlight layer = 0) := by
  have fresh := fresh_of_build built
  obtain ⟨c₁, hc₁, queued⟩ := queued_reaches fresh.sound cache (fresh.queued cache) reach
  rw [hc] at hc₁
  cases hc₁
  have start : Bursting c.settings.lifetime (Prompt (first ++ rest)) layer c.generation .blank
      m c := bursting_of_quiet queued blocking stale quiet
  obtain ⟨c', -, h⟩ := bursting_run (sound_reaches fresh.sound reach) hc start run
    ⟨first, rest, rfl, gathered, closed⟩ calm (fun hprompt => hprompt)
  obtain ⟨calling, installed, course⟩ := h.course
  apply course.burst.coalesced
  rintro ⟨settled, idle⟩
  exact line_of_settled h.queued h.awake settled idle

end Theorem

/-- A source whose first call fails and whose later ones have a value, after a while each. -/
def falteringSource : Script (Dated Nat) :=
  ⟨[⟨100, .failure (.service "down")⟩, ⟨100, .value fun _ => ⟨7, none⟩⟩], 0, false, false, 0⟩

/-- A cache over that source. -/
def falteringPlans : List LayerPlan :=
  [.cache ⟨⟨Span.ofSeconds 60, Span.ofSeconds 5⟩, Span.ofSeconds 1⟩ false none]

/-- The stack of the cache and the source. -/
def falteringStack : Machine (Dated Nat) (Script (Dated Nat)) (ScriptReply (Dated Nat)) :=
  match build "chain" falteringSource [] falteringPlans with
  | .ok (_, m) => m
  | .error _ => bare "chain" falteringSource []

/-- Three fetches come to that stack: one waits for the source, and the others for the lock. -/
def falteringQueue :
    List (Machine (Dated Nat) (Script (Dated Nat)) (ScriptReply (Dated Nat)) ×
      Machine (Dated Nat) (Script (Dated Nat)) (ScriptReply (Dated Nat))) ×
      Machine (Dated Nat) (Script (Dated Nat)) (ScriptReply (Dated Nat)) :=
  let first := requested (.fetch false) 7 falteringStack
  let second := requested (.fetch false) 4 first.2
  let third := requested (.fetch false) 4 second.2
  (first.1 ++ second.1 ++ third.1, third.2)

/-- All the moves until every fetch has returned. -/
def falteringMoves :
    List (Machine (Dated Nat) (Script (Dated Nat)) (ScriptReply (Dated Nat)) ×
      Machine (Dated Nat) (Script (Dated Nat)) (ScriptReply (Dated Nat))) :=
  falteringQueue.1 ++ (scheduled 19 falteringQueue.2).1

theorem calm_falteringMoves : ∀ move ∈ falteringMoves, Calm 0 move.1 := by
  have hall : ∀ move ∈ falteringMoves,
      (∀ t ∈ move.1.tasks, ∀ d ∈ (t.stage 0).deadline?, move.1.world.now < d) ∧
        ∀ t ∈ move.1.tasks, t.request.isWork = true → t.stage 0 = .away := by
    decide
  intro move hmove
  obtain ⟨patient, foreground⟩ := hall move hmove
  exact ⟨patient, foreground⟩

/-- The first of three callers returns with the failure of its inner call. The second one makes an
inner call of its own, whose value the third one shares at once. -/
theorem burst_is_coalesced_after_failure :
    ∃ n, Run falteringStack falteringMoves n ∧ (log 0 falteringMoves).came = [0, 1, 2] ∧
      (log 0 falteringMoves).called.length = 2 ∧
      (log 0 falteringMoves).returned[0]? = some ⟨0, .failed (.service "down"), ⟨100000000⟩⟩ ∧
      ∃ s, (log 0 falteringMoves).returned[2]? = some s ∧ s.outcome = .value ⟨7, none⟩ ∧
        s.instant = ⟨200000000⟩ := by
  have built : build "chain" falteringSource [] falteringPlans = .ok ([], falteringStack) := rfl
  have cache : falteringStack.world.cache? 0 = some (Cache.empty
      ⟨⟨Span.ofSeconds 60, Span.ofSeconds 5⟩, Span.ofSeconds 1⟩ 0 none) := rfl
  have queue : Run falteringStack falteringQueue.1 falteringQueue.2 :=
    ((run_requested 7 rfl rfl).append (run_requested 4 rfl rfl)).append (run_requested 4 rfl rfl)
  have run := queue.append (run_scheduled 19 falteringQueue.2)
  -- the moves are those of the schedule, which lets no time pass while somebody could go on
  have prompt : Prompt falteringMoves := by
    intro move hmove
    rcases List.mem_append.1 hmove with hmove | hmove
    · rcases List.mem_append.1 hmove with hmove | hmove
      · rcases List.mem_append.1 hmove with hmove | hmove
        · exact prompt_requested _ _ _ move hmove
        · exact prompt_requested _ _ _ move hmove
      · exact prompt_requested _ _ _ move hmove
    · exact prompt_scheduled _ _ move hmove
  have coalesced := burst_is_coalesced built cache (.refl _) cache rfl rfl
    (fun t ht => by cases ht) run rfl rfl calm_falteringMoves
  obtain ⟨called, shared⟩ := coalesced.shared 1 _ _ _ rfl rfl rfl
  have failed := coalesced.own 0 _ rfl fun k y hk hy => by
    obtain rfl : k = 0 := by omega
    cases hy
    rfl
  obtain ⟨returned, -⟩ := coalesced.complete ⟨rfl, rfl⟩
  have came : (log 0 falteringMoves).came = [0, 1, 2] := rfl
  have hlt : 2 < (log 0 falteringMoves).returned.length := by
    rw [show (log 0 falteringMoves).returned.length = _ from returned]
    decide
  obtain ⟨outcome, instant⟩ := shared 2 _ (by decide) (List.getElem?_eq_getElem hlt)
  have hinstant : (log 0 falteringMoves).returned[2].instant = ⟨200000000⟩ := instant prompt
  refine ⟨_, run, came, called, failed, _, List.getElem?_eq_getElem hlt, ?_, hinstant⟩
  rw [outcome, hinstant]
  rfl

end Machine

end CredentialSupply
