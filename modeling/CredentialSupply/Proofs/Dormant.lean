import CredentialSupply.Proofs.Blocking
import CredentialSupply.Proofs.Steady

set_option autoImplicit false

/-!
# A worker that does nothing

`Machine.blocking` takes the worker of one cache out of a machine. While that worker is `Dormant`
(in no fetch, and at its end or told to end) a run of the machine and a run of what is left without
the worker are the same but for the last moves of the worker: each gives the other (`blocking_run`,
`exists_run_of_blocking`). The runs are those of a stack that is held, whose users do not wait for
the worker to end, while the clock represents the end of the window (`Usable`).
-/

namespace CredentialSupply

variable {V σ C : Type}

/-! ## The machine without the worker -/

/-- A task that has ended, in the place of a worker. -/
def Task.spent (worker : TaskId) : Task V C :=
  ⟨worker, .rest Instant.origin, .ended .nothing Instant.origin, []⟩

/-- The task, unless it is the worker, in whose place stands one that has ended. -/
def Task.blocking (worker : TaskId) (t : Task V C) : Task V C :=
  if t.id = worker then Task.spent worker else t

theorem Task.blocking_of_ne {worker : TaskId} {t : Task V C} (other : t.id ≠ worker) :
    t.blocking worker = t := if_neg other

theorem Task.blocking_of_eq {worker : TaskId} {t : Task V C} (h : t.id = worker) :
    t.blocking worker = Task.spent worker := if_pos h

/-- Other tasks than the worker are woken with or without it. -/
theorem World.blocking_foldl_wake {layer : Nat} {worker : TaskId} {p : Task V C → Bool}
    (hp : p (Task.spent worker) = false) (ts : List (Task V C)) (w : World V σ) :
    ((ts.filter p).foldl (fun w t => w.wake t.id) w).blocking layer worker =
      ((ts.map (Task.blocking worker)).filter p).foldl (fun w t => w.wake t.id)
        (w.blocking layer worker) := by
  induction ts generalizing w with
  | nil => rfl
  | cons t ts ih =>
      rw [List.map_cons, List.filter_cons, List.filter_cons]
      by_cases ht : t.id = worker
      · have hself : (w.wake t.id).blocking layer worker = w.blocking layer worker := by
          rw [ht, blocking_wake_self]
        rw [Task.blocking_of_eq ht, hp]
        split
        · rw [List.foldl_cons, ih, hself]
          rfl
        · exact ih w
      · rw [Task.blocking_of_ne ht]
        split
        · rw [List.foldl_cons, List.foldl_cons, ih, blocking_wake w ht]
        · exact ih w

namespace Machine

/-- The machine without the worker of the cache at a layer: the cache refreshes for its callers
only, and in the place of the worker stands a task that has ended. -/
def blocking (layer : Nat) (worker : TaskId) (m : Machine V σ C) : Machine V σ C where
  world := m.world.blocking layer worker
  tasks := m.tasks.map (Task.blocking worker)
  running := m.running.filter (· ≠ worker)
  dropped := m.dropped

section Blocking

variable {layer : Nat} {worker : TaskId} {m : Machine V σ C}

theorem ended?_blocking (ids : ∀ (i : Nat) (t : Task V C), m.tasks[i]? = some t → t.id = i)
    {id : TaskId} (other : id ≠ worker) : (m.blocking layer worker).ended? id = m.ended? id := by
  simp only [ended?, blocking, List.getElem?_map]
  cases task : m.tasks[id]? with
  | none => rfl
  | some t =>
      rw [Option.map_some, Task.blocking_of_ne fun h => other ((ids id t task).symm.trans h)]

theorem blocking_wakeJoining (id : TaskId) :
    (m.wakeJoining id).blocking layer worker = (m.blocking layer worker).wakeJoining id := by
  have hworld : (m.wakeJoining id).world.blocking layer worker =
      ((m.blocking layer worker).wakeJoining id).world :=
    World.blocking_foldl_wake (p := isJoining id) rfl m.tasks m.world
  exact congrArg (fun world => { m.blocking layer worker with world }) hworld

theorem blocking_passTo (instant : Instant) :
    (m.passTo instant).blocking layer worker = (m.blocking layer worker).passTo instant := by
  have hworld : (m.passTo instant).world.blocking layer worker =
      ((m.blocking layer worker).passTo instant).world :=
    World.blocking_foldl_wake (p := fun t : Task V C => t.control.due?.any fun due =>
      due.ceilMilli ≤ m.world.now.latest instant) rfl m.tasks
      { m.world with now := m.world.now.latest instant }
  exact congrArg (fun world => { m.blocking layer worker with world }) hworld

theorem blocking_spawn (request : Request) (room : worker < m.tasks.length) :
    (m.spawn request).2.blocking layer worker =
      ((m.blocking layer worker).spawn request).2 := by
  have hne : m.tasks.length ≠ worker := Nat.ne_of_gt room
  have hfresh : (Task.fresh m.tasks.length request : Task V C).blocking worker =
      Task.fresh m.tasks.length request := Task.blocking_of_ne hne
  simp only [spawn, blocking, List.map_append, List.map_cons, List.map_nil, hfresh,
    List.length_map, World.blocking_wake m.world hne]

theorem blocking_resume {id : TaskId} (other : id ≠ worker) :
    (m.resume id).blocking layer worker = (m.blocking layer worker).resume id := by
  have hready : (m.world.ready.erase id).filter (· ≠ worker) =
      (m.world.ready.filter (· ≠ worker)).erase id := List.erase_filter.symm
  simp only [resume, blocking, World.blocking, World.mapCache, hready, Option.filter_some]
  simp [other]

/-- That the worker runs again is nothing to the others. -/
theorem blocking_resume_self (idle : m.running = none) :
    (m.resume worker).blocking layer worker = m.blocking layer worker := by
  have hready : (m.world.ready.erase worker).filter (· ≠ worker) =
      m.world.ready.filter (· ≠ worker) := by
    rw [← List.erase_filter]
    exact List.erase_of_not_mem (by simp)
  have hrunning : (some worker).filter (· ≠ worker) = none := by simp
  simp only [resume, blocking, World.blocking, World.mapCache, hready, hrunning, idle,
    Option.filter_none]

/-- Whether a task waits does not depend on the worker, for which it does not wait. -/
theorem isWaiting_blocking {t : Task V C}
    (ids : ∀ (i : Nat) (t : Task V C), m.tasks[i]? = some t → t.id = i)
    (h : t.control ≠ .joining worker) :
    (m.blocking layer worker).isWaiting t = m.isWaiting t := by
  unfold isWaiting
  split
  next id control =>
    rw [hasEnded, hasEnded, ended?_blocking ids fun e => h (by rw [control, e])]
  next => rfl

end Blocking

section Advance

variable [Source σ V C] [Perishable V] {layer : Nat} {worker : TaskId} {m : Machine V σ C}

/-- A step of another task is the same without the worker. -/
theorem blocking_advance {favoured : Signal} {id : TaskId} (sound : m.Sound)
    (hides : m.world.Hides layer worker) (held : m.dropped = false)
    (clock : ∀ r, m.world.early? layer = some r → (m.world.now.later? r.window).isSome = true)
    (other : id ≠ worker)
    (apart : ∀ t, m.tasks[id]? = some t → (t.step m.world favoured).2.control ≠ .joining worker) :
    (m.advance favoured id).blocking layer worker =
      (m.blocking layer worker).advance favoured id := by
  have htask : (m.blocking layer worker).tasks[id]? =
      (m.tasks[id]?).map (Task.blocking worker) := by
    simp [blocking]
  rw [advance, advance, htask]
  cases task : m.tasks[id]? with
  | none => rfl
  | some t =>
      have hid : t.id = id := sound.ids id t task
      have hrequest : t.request ≠ .work layer := by
        intro request
        obtain ⟨c, r, hc, hr, rfl⟩ := sound.posted id t layer task request
        exact other ((hides.workers layer c r hc hr).2 rfl)
      have hstep : t.step (m.blocking layer worker).world favoured =
          Task.besides layer worker (t.step m.world favoured) :=
        Task.blocking_step (sound.shaped id t task) hrequest hides clock
      have hsame : (t.step m.world favoured).2.id = id := Task.same_step.1.trans hid
      have hjoin := apart t task
      rw [Option.map_some, Task.blocking_of_ne (by rw [hid]; exact other)]
      simp only [hstep]
      generalize t.step m.world favoured = next at hsame hjoin
      obtain ⟨world, t'⟩ := next
      have htasks : (m.tasks.set id t').map (Task.blocking worker) =
          (m.blocking layer worker).tasks.set id t' := by
        rw [List.map_set, Task.blocking_of_ne (by rw [hsame]; exact other)]
        rfl
      have hwaits : isWaiting { m.blocking layer worker with
            world := world.blocking layer worker
            tasks := (m.blocking layer worker).tasks.set id t' } t' =
          isWaiting { m with world, tasks := m.tasks.set id t' } t' := by
        rw [← htasks]
        refine isWaiting_blocking (m := { m with world, tasks := m.tasks.set id t' }) ?_ hjoin
        intro i x hx
        rcases getElem?_set_cases hx with ⟨rfl, rfl⟩ | ⟨-, hx⟩
        · exact hsame
        · exact sound.ids i x hx
      simp only [Task.besides, hwaits]
      generalize isWaiting { m with world, tasks := m.tasks.set id t' } t' = waits
      -- the machine between the step and what its end sets off
      have hstepped : blocking layer worker { m with
            world, tasks := m.tasks.set id t', running := if waits then none else some id } =
          { m.blocking layer worker with
            world := world.blocking layer worker
            tasks := (m.blocking layer worker).tasks.set id t'
            running := if waits then none else some id } := by
        have hrunning : (if waits then none else some id).filter (· ≠ worker) =
            if waits then none else some id := by
          cases waits <;> simp [other]
        rw [blocking]
        simp only [htasks, hrunning]
        rfl
      split
      · rw [reclaim_of_held (by exact held), reclaim_of_held (by exact held),
          blocking_wakeJoining, hstepped]
      · exact hstepped

end Advance

end Machine

/-! ## A worker that has been told to end -/

/-- A worker that is in no fetch and has been told to end does nothing but end. -/
theorem Task.step_of_dormant [Source σ V C] [Perishable V] {layer : Nat} {t : Task V C}
    {w : World V σ} (worker : TaskId) (favoured : Signal) (shaped : t.Shaped)
    (request : t.request = .work layer) (frames : t.frames = [])
    (dismissed : t.hasEnded = true ∨ t.isStopped w = true) :
    (t.step w favoured).1.blocking layer worker = w.blocking layer worker ∧
      (t.step w favoured).2.hasEnded = true ∧ (t.step w favoured).2.frames = [] := by
  cases stopped : t.isStopped w with
  | true =>
      have hstep : t.step w favoured = t.abandon w layer := by
        simp only [step, request, stopped]
      have hidle : t.control.isIdle = true := by
        refine shaped.isIdle_of_nil ?_ frames
        rw [request]
        exact fun _ => Request.noConfusion
      have hqueue : stopQueueing t.id w t.control = w := by
        cases control : t.control <;> first | rfl | simp [control, Control.isIdle] at hidle
      rw [hstep, abandon, frames, hqueue]
      exact ⟨w.blocking_mapEarly_self _, rfl, rfl⟩
  | false =>
      have ended : t.hasEnded = true := by simpa [stopped] using dismissed
      rw [step_of_not_stopped stopped]
      cases control : t.control with
      | ended answer endedAt =>
          rw [advance, control]
          exact ⟨rfl, ended, frames⟩
      | _ => simp [hasEnded, ended?, control] at ended

namespace Machine

/-- The worker of the cache at a layer is in no fetch, and has ended or been told to. -/
def Dormant (layer : Nat) (worker : TaskId) (m : Machine V σ C) : Prop :=
  ∃ t, m.tasks[worker]? = some t ∧ t.request = .work layer ∧ t.frames = [] ∧
    (t.hasEnded = true ∨ t.isStopped m.world = true)

section Dormant

variable [Source σ V C] [Perishable V] {layer : Nat} {worker : TaskId} {m n : Machine V σ C}

/-- The worker stays so. -/
theorem Dormant.move (dormant : m.Dormant layer worker) (sound : m.Sound) (move : Move m n) :
    n.Dormant layer worker := by
  obtain ⟨t, task, request, frames, dismissed⟩ := dormant
  rcases move.step_cases task with ⟨-, task'⟩ | ⟨favoured, -, -, task'⟩
  · exact ⟨t, task', request, frames, dismissed.imp_right (isStopped_move sound move rfl)⟩
  · obtain ⟨-, ended, frames'⟩ := Task.step_of_dormant worker favoured
      (sound.shaped worker t task) request frames dismissed
    exact ⟨_, task', Task.same_step.2.trans request, frames', Or.inl ended⟩

/-- What is left of the machine without the worker does not see it end. -/
theorem Dormant.blocking_advance_self (dormant : m.Dormant layer worker) (favoured : Signal)
    (sound : m.Sound) (held : m.dropped = false) (running : m.running = some worker)
    (alone : ∀ t ∈ m.tasks, t.control ≠ .joining worker) :
    (m.advance favoured worker).blocking layer worker = m.blocking layer worker ∧
      (m.advance favoured worker).running = none := by
  obtain ⟨t, task, request, frames, dismissed⟩ := dormant
  obtain ⟨hworld, ended, -⟩ := Task.step_of_dormant worker favoured
    (sound.shaped worker t task) request frames dismissed
  have hid : (t.step m.world favoured).2.id = worker :=
    Task.same_step.1.trans (sound.ids worker t task)
  rw [advance, task]
  simp only
  generalize t.step m.world favoured = next at hworld ended hid
  obtain ⟨world, t'⟩ := next
  have hwaits : isWaiting { m with world, tasks := m.tasks.set worker t' } t' = true := by
    unfold isWaiting
    cases control : t'.control with
    | ended answer endedAt => rfl
    | _ => simp [Task.hasEnded, Task.ended?, control] at ended
  have htasks : (m.tasks.set worker t').map (Task.blocking worker) =
      m.tasks.map (Task.blocking worker) := by
    apply List.ext_getElem?
    intro i
    rw [List.getElem?_map, List.getElem?_map]
    by_cases hi : worker = i
    · subst hi
      rw [getElem?_set_some t' task, task, Option.map_some, Option.map_some,
        Task.blocking_of_eq hid, Task.blocking_of_eq (sound.ids worker t task)]
    · rw [List.getElem?_set_ne hi]
  -- nobody waits for the worker
  have hjoining : (m.tasks.set worker t').filter (isJoining worker) = [] := by
    rw [List.filter_eq_nil_iff]
    intro x hx
    have hcontrol : x.control ≠ .joining worker := by
      rcases List.mem_or_eq_of_mem_set hx with hx | rfl
      · exact alone x hx
      · intro control
        simp [Task.hasEnded, Task.ended?, control] at ended
    unfold isJoining
    split
    next id control => simpa using fun e => hcontrol (by rw [control, e])
    next => exact Bool.false_ne_true
  have hrunning : (some worker).filter (· ≠ worker) = none := by simp
  simp only [hwaits, if_true, ended]
  rw [reclaim_of_held (by exact held)]
  refine ⟨?_, rfl⟩
  simp only [wakeJoining, mapWorld, hjoining, List.foldl_nil, blocking, hworld, htasks, running,
    hrunning, Option.filter_none]

end Dormant

/-! ## Runs with and without the worker -/

/-- The stack is held, its users do not wait for the worker to end, and the clock represents the
end of the window. -/
structure Usable (worker : TaskId) (window : Span) (m : Machine V σ C) : Prop where
  held : m.dropped = false
  free : ∀ t ∈ m.tasks, t.request ≠ .join worker
  clock : (m.world.now.later? window).isSome = true

/-- The worker of the cache at a layer is dormant, and the tasks of the machine are in order. -/
structure Muted (layer : Nat) (worker : TaskId) (window : Span) (m : Machine V σ C) : Prop where
  sound : m.Sound
  hides : m.world.Hides layer worker
  window : ∀ r, m.world.early? layer = some r → r.window = window
  joins : ∀ t ∈ m.tasks, ∀ id, t.control = .joining id → t.request = .join id
  dormant : m.Dormant layer worker

/-- Whether the move is one of the given task. -/
def isOwn (worker : TaskId) (move : Machine V σ C × Machine V σ C) : Bool :=
  move.1.running = some worker || move.2.running = some worker

/-- The moves without the worker. -/
def besides (layer : Nat) (worker : TaskId) (moves : List (Machine V σ C × Machine V σ C)) :
    List (Machine V σ C × Machine V σ C) :=
  (moves.filter fun move => !isOwn worker move).map fun move =>
    (move.1.blocking layer worker, move.2.blocking layer worker)

section Runs

variable {layer : Nat} {worker : TaskId} {window : Span} {m n b : Machine V σ C}
  {moves : List (Machine V σ C × Machine V σ C)}

theorem besides_snoc (move : Machine V σ C × Machine V σ C) :
    besides layer worker (moves ++ [move]) = besides layer worker moves ++
      if isOwn worker move then []
      else [(move.1.blocking layer worker, move.2.blocking layer worker)] := by
  rw [besides, besides, List.filter_append, List.map_append]
  cases h : isOwn worker move <;> simp [h]

/-- Nobody waits for the worker. -/
theorem Muted.alone (muted : m.Muted layer worker window) (usable : m.Usable worker window) :
    ∀ t ∈ m.tasks, t.control ≠ .joining worker :=
  fun t ht control => usable.free t ht (muted.joins t ht worker control)

theorem Muted.clock (muted : m.Muted layer worker window) (usable : m.Usable worker window) :
    ∀ r, m.world.early? layer = some r → (m.world.now.later? r.window).isSome = true := by
  intro r hr
  rw [muted.window r hr]
  exact usable.clock

/-- What is left without the worker is used as the machine is. -/
theorem Muted.usable_of_blocking (muted : m.Muted layer worker window)
    (usable : (m.blocking layer worker).Usable worker window) : m.Usable worker window := by
  refine ⟨usable.held, fun t ht => ?_, usable.clock⟩
  by_cases hid : t.id = worker
  · obtain ⟨i, task⟩ := List.mem_iff_getElem?.1 ht
    obtain ⟨u, task', request, -⟩ := muted.dormant
    rw [(muted.sound.ids i t task).symm.trans hid, task'] at task
    cases task
    rw [request]
    exact Request.noConfusion
  · have hmem := List.mem_map_of_mem (f := Task.blocking worker) ht
    rw [Task.blocking_of_ne hid] at hmem
    exact usable.free t hmem

variable [Source σ V C] [Perishable V]

theorem Usable.before (usable : n.Usable worker window) (clock : Instant.origin ≤ m.world.now)
    (move : Move m n) : m.Usable worker window where
  held := move.held usable.held
  free t ht := by
    obtain ⟨i, task⟩ := List.mem_iff_getElem?.1 ht
    obtain ⟨t', task', same⟩ := move.stays task
    rw [← same.2]
    exact usable.free t' (List.mem_of_getElem? task')
  clock := Instant.later?_isSome_before clock move.now_le usable.clock

/-- Whoever runs after a step ran before it. -/
theorem running_advance_ne {favoured : Signal} {id : TaskId} (other : id ≠ worker) :
    (m.advance favoured id).running ≠ some worker := by
  cases task : m.tasks[id]? with
  | none => simp [Machine.advance, task]
  | some t =>
      rcases (advanced favoured task).running with h | h
      · simp [h]
      · simpa [h] using other

/-- A step of another task does not lead it to wait for the worker. -/
theorem Usable.apart (usable : m.Usable worker window) {favoured : Signal} {id : TaskId} :
    ∀ t, m.tasks[id]? = some t → (t.step m.world favoured).2.control ≠ .joining worker :=
  fun t task control =>
    usable.free t (List.mem_of_getElem? task) (Task.goes_step.2 worker control)

/-- A move is one of the worker, which the others do not see, or one of theirs. -/
theorem Muted.follow (muted : m.Muted layer worker window) (usable : m.Usable worker window)
    (held : n.dropped = false) (move : Move m n) :
    (isOwn worker (m, n) = true ∧ n.blocking layer worker = m.blocking layer worker) ∨
      (isOwn worker (m, n) = false ∧
        Move (m.blocking layer worker) (n.blocking layer worker)) := by
  obtain ⟨w, task, -⟩ := muted.dormant
  cases move with
  | @advance id favoured running =>
      by_cases hid : id = worker
      · subst hid
        refine Or.inl ⟨by simp [isOwn, running], ?_⟩
        exact (muted.dormant.blocking_advance_self favoured muted.sound usable.held running
          (muted.alone usable)).1
      · refine Or.inr ⟨by simp [isOwn, running, hid, running_advance_ne], ?_⟩
        rw [blocking_advance muted.sound muted.hides usable.held (muted.clock usable) hid
          usable.apart]
        exact .advance favoured (by simp [blocking, running, hid])
  | @resume id idle ready =>
      by_cases hid : id = worker
      · subst hid
        exact Or.inl ⟨by simp [isOwn, resume], blocking_resume_self idle⟩
      · refine Or.inr ⟨by simp [isOwn, resume, idle, hid], ?_⟩
        rw [blocking_resume hid]
        exact .resume (by simp [blocking, idle]) (by simp [blocking, World.blocking, ready, hid])
  | @arrive request idle foreground =>
      refine Or.inr ⟨by simp [isOwn, spawn, idle], ?_⟩
      rw [blocking_spawn request (List.getElem?_eq_some_iff.1 task).1]
      exact .arrive (by simp [blocking, idle]) foreground
  | pass instant idle =>
      refine Or.inr ⟨by simp [isOwn, passTo, idle], ?_⟩
      rw [blocking_passTo]
      exact .pass instant (by simp [blocking, idle])
  | drop idle =>
      rw [dropped_drop] at held
      cases held

/-- Without the worker the others make no move that they could not make with it. -/
theorem Muted.lead (muted : m.Muted layer worker window) (usable : m.Usable worker window)
    (idle : m.running ≠ some worker) (held : b.dropped = false)
    (move : Move (m.blocking layer worker) b) :
    ∃ n, Move m n ∧ n.blocking layer worker = b ∧ isOwn worker (m, n) = false := by
  have hrunning : (m.blocking layer worker).running = m.running := by
    cases running : m.running with
    | none => simp [blocking, running]
    | some id =>
        have hid : id ≠ worker := fun e => idle (by rw [running, e])
        simp [blocking, running, hid]
  obtain ⟨w, task, -⟩ := muted.dormant
  cases move with
  | @advance id favoured running =>
      rw [hrunning] at running
      have hid : id ≠ worker := fun e => idle (by rw [running, e])
      refine ⟨_, .advance favoured running, ?_, by simp [isOwn, running, hid, running_advance_ne]⟩
      exact blocking_advance muted.sound muted.hides usable.held (muted.clock usable) hid
        usable.apart
  | @resume id idle' ready =>
      rw [hrunning] at idle'
      obtain ⟨hready, hid⟩ : id ∈ m.world.ready ∧ id ≠ worker := by
        simpa [blocking, World.blocking] using ready
      exact ⟨_, .resume idle' hready, blocking_resume hid, by simp [isOwn, resume, idle', hid]⟩
  | @arrive request idle' foreground =>
      rw [hrunning] at idle'
      exact ⟨_, .arrive idle' foreground,
        blocking_spawn request (List.getElem?_eq_some_iff.1 task).1, by simp [isOwn, spawn, idle']⟩
  | pass instant idle' =>
      rw [hrunning] at idle'
      exact ⟨_, .pass instant idle', blocking_passTo instant, by simp [isOwn, passTo, idle']⟩
  | drop idle' =>
      rw [dropped_drop] at held
      cases held

/-- A run, seen without the worker, is a run of what is left without it. -/
theorem blocking_run (muted : ∀ moves n, Run m moves n → n.Muted layer worker window)
    (run : Run m moves n) (usable : n.Usable worker window) :
    Run (m.blocking layer worker) (besides layer worker moves) (n.blocking layer worker) := by
  -- by induction on the run: what the worker does leaves the other machine where it is
  induction run with
  | start => exact .start
  | @move moves k n run step ih =>
      have hk := muted moves k run
      have before := usable.before hk.sound.clock step
      rw [besides_snoc]
      rcases hk.follow before usable.held step with ⟨own, hsame⟩ | ⟨own, hstep⟩
      · rw [own, hsame]
        simpa using ih before
      · rw [own]
        exact .move (ih before) hstep

/-- A run of what is left without the worker is a run of the machine, seen without it. -/
theorem exists_run_of_blocking (muted : ∀ moves n, Run m moves n → n.Muted layer worker window)
    (run : Run (m.blocking layer worker) moves b) (usable : b.Usable worker window) :
    ∃ moves' n, Run m moves' n ∧ besides layer worker moves' = moves ∧
      n.blocking layer worker = b := by
  -- by induction on the run of the cache without a worker, which the other one can follow
  induction run with
  | start => exact ⟨[], m, .start, rfl, rfl⟩
  | @move moves k b run step ih =>
      have hclock : Instant.origin ≤ k.world.now :=
        Instant.le_trans (muted [] m .start).sound.clock run.now_le
      obtain ⟨moves', n, run', rfl, rfl⟩ := ih (usable.before hclock step)
      -- the worker comes to its end before the others go on
      obtain ⟨later, l, run'', hmoves, hblocking, idle⟩ : ∃ later l, Run m later l ∧
          besides layer worker later = besides layer worker moves' ∧
          l.blocking layer worker = n.blocking layer worker ∧ l.running ≠ some worker := by
        have hn := muted moves' n run'
        have before := hn.usable_of_blocking (usable.before hclock step)
        by_cases running : n.running = some worker
        · obtain ⟨hsame, hrunning⟩ := hn.dormant.blocking_advance_self .job hn.sound
            before.held running (hn.alone before)
          refine ⟨_, _, run'.move (.advance .job running), ?_, hsame, by simp [hrunning]⟩
          rw [besides_snoc]
          simp [isOwn, running]
        · exact ⟨moves', n, run', rfl, rfl, running⟩
      have hl := muted later l run''
      rw [← hblocking] at step
      have before := hl.usable_of_blocking (usable.before (by exact hl.sound.clock) step)
      obtain ⟨l', step', hl', own⟩ := hl.lead before idle usable.held step
      refine ⟨_, l', run''.move step', ?_, hl'⟩
      rw [besides_snoc, own, hmoves, ← hl', ← hblocking]
      rfl

end Runs

end Machine

end CredentialSupply
