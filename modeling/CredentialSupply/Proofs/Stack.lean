import CredentialSupply.Proofs.Built
import CredentialSupply.Proofs.History
import CredentialSupply.Proofs.Stride

set_option autoImplicit false

/-!
# Moves of a stack

`StackMove` says what a move of the schedule makes of the content of a stack: the running task
makes a stride, or a request arrives, or time passes and no task changes. What all strides keep,
all runs keep (`Run.invariant`, and `Run.forall_task` for what concerns one task). The first such
things are that the kinds of the layers stay (`kinds_run`), and that only a health query calls
another source (`straysInQuery_run`).
-/

namespace CredentialSupply

variable {V σ C : Type}

/-- The source that a task with this control calls. -/
def Control.source? : Control V C → Option (Option Nat)
  | .call source _ | .calling source _ _ => some source
  | _ => none

theorem Control.source?_of_isIdle {x : Control V C} (h : x.isIdle = true) : x.source? = none := by
  cases x <;> first | rfl | cases h

/-- The task calls another source than that of the stack only for a health query. -/
def Task.StraysInQuery (t : Task V C) : Prop :=
  ∀ index, t.control.source? = some (some index) → ∃ layer seen, t.frames = [.query layer seen]

/-- A call of a source is inside all layers. -/
theorem Task.Shaped.of_source? {t : Task V C} {source : Option Nat} (shaped : t.Shaped)
    (control : t.control.source? = some source) : Nested t.request 0 t.frames := by
  unfold Control.source? at control
  split at control
  next source' force hcontrol => rwa [Task.Shaped, hcontrol] at shaped
  next source' due call hcontrol => rwa [Task.Shaped, hcontrol] at shaped
  next => cases control

theorem Task.frames_await (t : Task V C) (source : Option Nat) (progress : Progress V C) :
    (t.await source progress).frames = t.frames := by
  cases progress <;> rfl

section Stride

variable [Perishable V] {t t' : Task V C} {k k' : Content V}

/-- A step takes no time. -/
theorem Stride.now (h : Stride t k t' k') : k'.now = k.now := by
  cases h <;> rfl

/-- Layers change their state, not their kind. -/
theorem Stride.kinds (h : Stride t k t' k') : k'.kinds = k.kinds := by
  cases h with
  | grant control here => exact Content.kinds_setLayer here rfl
  | reject control here =>
      rw [Content.kinds_count]
      exact Content.kinds_setLayer here rfl
  | store control head here later => exact Content.kinds_setLayer here rfl
  | observe control head here => exact Content.kinds_setLayer here rfl
  | install control head here entry =>
      rw [Content.kinds_count]
      exact Content.kinds_setLayer here rfl
  | _ => rfl

theorem Stride.straysInQuery (shaped : t.Shaped) (h : Stride t k t' k') (strays : t.StraysInQuery) :
    t'.StraysInQuery := by
  have hnone : t'.control.source? = none → t'.StraysInQuery := by
    intro hnone index hsource
    rw [hnone] at hsource
    cases hsource
  have hawait : ∀ {source : Option Nat} {progress : Progress V C},
      t.control.source? = some source → (t.await source progress).StraysInQuery := by
    intro source progress control index hsource
    rw [Task.frames_await]
    apply strays index
    cases progress with
    | wait due call =>
        rw [control]
        exact hsource
    | answer outcome => cases hsource
  cases h with
  | stay => exact strays
  | rest idle idle' answer => exact hnone (Control.source?_of_isIdle idle')
  | @query layer record refresh control request here =>
      intro index _
      exact ⟨layer, record.observed, by simp [Task.push, shaped.of_begin control]⟩
  | bottom control =>
      intro index hsource
      cases hsource
  | call control => exact hawait (by rw [control]; rfl)
  | resume control => exact hawait (by rw [control]; rfl)
  | ask control here control' =>
      rcases control' with rfl | ⟨deadline, rfl⟩ <;> exact hnone rfl
  | crash control' frames' => exact hnone (by rw [control']; rfl)
  | conclude control head duty idle' answer => exact hnone (Control.source?_of_isIdle idle')
  | _ => exact hnone rfl

/-- A step adds a frame or takes frames away. -/
theorem Stride.frames_cases (h : Stride t k t' k') :
    t'.frames <:+ t.frames ∨ ∃ f, t'.frames = f :: t.frames := by
  have hsame : t'.frames = t.frames → t'.frames <:+ t.frames := fun h => h ▸ List.suffix_refl _
  have hpop : ∀ {f : Frame} {frames : List Frame}, t.frames = f :: frames →
      frames <:+ t.frames := by
    intro f frames head
    rw [head]
    exact List.suffix_cons f frames
  cases h with
  | query | wrap | load | undertake => exact Or.inr ⟨_, rfl⟩
  | call control => exact Or.inl (hsame (Task.frames_await t _ _))
  | resume control => exact Or.inl (hsame (Task.frames_await t _ _))
  | retry control head => exact Or.inl (hpop head)
  | store control head | serve control head | observe control head | pass control head
  | install control head | fail control head | report control head => exact Or.inl (hpop head)
  | crash control' frames' => exact Or.inl frames'
  | conclude | abandon => exact Or.inl List.nil_suffix
  | _ => exact Or.inl (List.suffix_refl _)

omit [Perishable V] in
/-- A task that has no frames and makes no fetch of its own is not in the middle of a fetch. -/
theorem Task.Shaped.isIdle_of_nil (shaped : t.Shaped) (other : ∀ force, t.request ≠ .fetch force)
    (frames : t.frames = []) : t.control.isIdle = true := by
  have hno : ∀ depth, ¬ Nested t.request depth [] := fun depth ⟨force, h⟩ => other force h
  cases control : t.control with
  | begin | attend | listening | resting | joining | ended => rfl
  | deliver outcome =>
      rw [Task.Shaped, control, frames] at shaped
      obtain ⟨depth, h⟩ := shaped
      exact absurd h (hno depth)
  | enter | call | acquire | queued | locked | calling =>
      rw [Task.Shaped, control, frames] at shaped
      exact absurd shaped (hno _)

/-- The outermost frame of a worker or a health query tells its errand. A task on an errand stays on
it, or is told to end, or is back with an outcome. -/
theorem Stride.errand_cases {f : Frame} (shaped : t.Shaped) (shaped' : t'.Shaped)
    (other : ∀ force, t'.request ≠ .fetch force) (h : Stride t k t' k')
    (errand : t.frames.getLast? = some f) :
    t'.frames.getLast? = some f ∨ (t.control.isParked = true ∧ t'.hasEnded = true) ∨
      ∃ outcome, t.control = .deliver outcome ∧ t.frames = [f] := by
  have hne : t.frames ≠ [] := by
    intro hnil
    rw [hnil] at errand
    cases errand
  rcases h.frames_cases with ⟨front, hframes⟩ | ⟨g, hframes⟩
  · by_cases hnil : t'.frames = []
    · right
      have hidle := shaped'.isIdle_of_nil other hnil
      cases h with
      | stay => exact absurd hnil hne
      | rest idle => exact absurd (shaped.frames_of_isIdle idle) hne
      | answer control head => exact absurd head hne
      | report control head =>
          -- nothing is around a health query
          right
          rw [Task.Shaped, control, head] at shaped
          obtain ⟨-, -, hrest⟩ := shaped
          rw [head, hrest, List.getLast?_singleton] at errand
          cases errand
          exact ⟨_, control, by rw [head, hrest]⟩
      | conclude control head =>
          rw [head, List.getLast?_singleton] at errand
          cases errand
          exact Or.inr ⟨_, control, head⟩
      | abandon parked => exact Or.inl ⟨parked, rfl⟩
      | crash control' => simp [control', Control.isIdle] at hidle
      | @call source force progress => cases progress <;> cases hidle
      | @resume source due call progress => cases progress <;> cases hidle
      | ask control here control' => rcases control' with rfl | ⟨deadline, rfl⟩ <;> cases hidle
      | query => cases hnil
      | _ => cases hidle
    · left
      rw [← errand, ← hframes, List.getLast?_append, List.getLast?_eq_some_getLast hnil]
      rfl
  · left
    cases hcons : t.frames with
    | nil => exact absurd hcons hne
    | cons a frames => rw [hframes, hcons, List.getLast?_cons_cons, ← hcons, errand]

end Stride

/-- A task that has come on some way and goes on waiting does not end, unless it is told to. -/
theorem Task.going_of_parked [Source σ V C] [Perishable V] {t : Task V C} {w : World V σ}
    {favoured : Signal} (shaped : t.Shaped) (inside : t.frames ≠ [])
    (parked : t.control.isParked = true) (going : t.isStopped w = false) :
    (t.step w favoured).2.hasEnded = false := by
  rw [step_of_not_stopped going]
  cases control : t.control with
  | queued l seen force deadline =>
      simp only [advance, control, stopWaiting]
      split
      · rfl
      · split
        · rfl
        · split
          · rfl
          · simp [hasEnded, ended?, control]
  | calling source due call =>
      simp only [advance, control, resumeCall]
      split
      · split
        · rfl
        · cases (Source.resume call w.now _ : σ × Progress V C).2 <;> rfl
      · simp [hasEnded, ended?, control]
  | begin | resting due | joining task | ended answer endedAt =>
      rw [Shaped, control] at shaped
      exact absurd shaped inside
  | listening l retryAfter deadline =>
      rw [Shaped, control] at shaped
      exact absurd shaped.2 inside
  | enter | call | acquire | locked | deliver | attend =>
      rw [control] at parked
      cases parked

namespace Machine

/-- The content of a machine whose stopped workers have been told so. -/
theorem content_reclaim (m : Machine V σ C) : m.reclaim.world.content = m.world.content := by
  rw [reclaim]
  split
  · exact World.content_stopWorkers m.world
  · rfl

/-- What the machine adds to a step is no content. -/
theorem content_advance [Source σ V C] [Perishable V] {m : Machine V σ C} {id : TaskId}
    {t : Task V C} (favoured : Signal) (task : m.tasks[id]? = some t) :
    (m.advance favoured id).world.content = (t.step m.world favoured).1.content := by
  rw [advance, task]
  simp only
  split
  · rw [content_reclaim]
    exact World.content_foldl_wake _ _
  · rfl

theorem content_passTo (m : Machine V σ C) (instant : Instant) :
    (m.passTo instant).world.content =
      { m.world.content with now := (m.passTo instant).world.now } := by
  rw [now_passTo]
  exact World.content_foldl_wake _ _

theorem task_of_ended? {m : Machine V σ C} {id : TaskId} {answer : Answer V} {endedAt : Instant}
    (h : m.ended? id = some (answer, endedAt)) :
    ∃ t, m.tasks[id]? = some t ∧ t.control = .ended answer endedAt := by
  obtain ⟨t, task, hanswer⟩ := Option.bind_eq_some_iff.1 h
  refine ⟨t, task, ?_⟩
  unfold Task.ended? at hanswer
  split at hanswer
  next control =>
    cases hanswer
    exact control
  next => cases hanswer

theorem hasEnded_of_task {m : Machine V σ C} {id : TaskId} {t : Task V C}
    (task : m.tasks[id]? = some t) : m.hasEnded id = t.hasEnded := by
  simp [hasEnded, ended?, task, Task.hasEnded]

/-- What a move from `m` to `n` makes of the content. -/
inductive StackMove [Perishable V] (m n : Machine V σ C) : Prop where
  /-- The running task makes a step. -/
  | turn {id : TaskId} {t t' : Task V C} (running : m.running = some id)
      (task : m.tasks[id]? = some t)
      (stride : Stride t m.world.content t' n.world.content) (same : t.Same t')
      (tasks : n.tasks = m.tasks.set id t')
  /-- A request arrives. -/
  | arrive {request : Request} (idle : m.running = none) (foreground : request.isWork = false)
      (tasks : n.tasks = m.tasks ++ [Task.fresh m.tasks.length request])
      (content : n.world.content = m.world.content)
  /-- No task changes. -/
  | rest (active : m.active? = none) (tasks : n.tasks = m.tasks)
      (content : n.world.content = { m.world.content with now := n.world.now })
      (now : m.world.now ≤ n.world.now)

section Moves

variable [Source σ V C] [Perishable V] {m n m₀ : Machine V σ C}

/-- Every move is a move of the stack. -/
theorem stackMove (sound : m.Sound) (move : Move m n) : StackMove m n := by
  cases move with
  | @advance id favoured running =>
      cases task : m.tasks[id]? with
      | none =>
          refine .rest ?_ ?_ ?_ ?_
          · simp [active?, running, task]
          · simp [Machine.advance, task]
          · simp [Machine.advance, task, World.content]
          · simpa [Machine.advance, task] using Instant.le_refl m.world.now
      | some t =>
          have hstride : Strides t m.world (t.step m.world favoured) := by
            apply Task.strides_step (sound.shaped id t task)
            intro hstopped
            cases hparked : t.control.isParked with
            | true => rfl
            | false =>
                -- whoever is in the middle of its work has not been told to end
                obtain ⟨-, h⟩ := sound.parked id t task hparked
                rw [hstopped] at h
                cases h
          rw [Strides, ← content_advance favoured task] at hstride
          exact .turn running task hstride Task.same_step (advanced favoured task).tasks
  | resume idle ready => exact .rest (active?_of_idle idle) rfl rfl (Instant.le_refl _)
  | arrive idle foreground =>
      exact .arrive idle foreground rfl (World.content_wake m.world _)
  | pass instant idle =>
      refine .rest (active?_of_idle idle) rfl (content_passTo m instant) ?_
      rw [now_passTo]
      exact Instant.le_latest_left _ _
  | drop idle =>
      have hcontent : m.drop.world.content = m.world.content := content_reclaim _
      have hnow : m.drop.world.now = m.world.now := congrArg Content.now hcontent
      refine .rest (active?_of_idle idle) (tasks_reclaim _) ?_ ?_
      · rw [hcontent, hnow]
        rfl
      · rw [hnow]
        exact Instant.le_refl _

omit [Source σ V C] in
theorem StackMove.kinds (h : StackMove m n) : n.world.content.kinds = m.world.content.kinds := by
  cases h with
  | turn running task stride same tasks => exact stride.kinds
  | arrive idle foreground tasks content => rw [content]
  | rest active tasks content now =>
      rw [content]
      rfl

/-- A task that does not run stays as it is with a move. If it runs, the move is its step. -/
theorem Move.step_cases {i : TaskId} {t : Task V C} (move : Move m n)
    (task : m.tasks[i]? = some t) :
    (m.running ≠ some i ∧ n.tasks[i]? = some t) ∨
      ∃ favoured, m.running = some i ∧ n = m.advance favoured i ∧
        n.tasks[i]? = some (t.step m.world favoured).2 := by
  have hidle : m.running = none → m.running ≠ some i := by
    rintro idle running
    rw [idle] at running
    cases running
  cases move with
  | @advance id favoured running =>
      by_cases hid : id = i
      · subst hid
        refine Or.inr ⟨favoured, running, rfl, ?_⟩
        rw [(advanced favoured task).tasks]
        exact getElem?_set_some _ task
      · left
        refine ⟨fun h => hid (Option.some.inj (running.symm.trans h)), ?_⟩
        cases hother : m.tasks[id]? with
        | none => simpa [Machine.advance, hother] using task
        | some s => rwa [(advanced favoured hother).tasks, List.getElem?_set_ne hid]
  | resume idle | pass instant idle => exact Or.inl ⟨hidle idle, task⟩
  | arrive idle => exact Or.inl ⟨hidle idle, getElem?_append_some _ task⟩
  | drop idle =>
      refine Or.inl ⟨hidle idle, ?_⟩
      rw [← task]
      exact congrArg (·[i]?) (tasks_reclaim { m with dropped := true })

/-- A task stays, with its request. -/
theorem Move.stays {i : Nat} {t : Task V C} (move : Move m n) (task : m.tasks[i]? = some t) :
    ∃ t', n.tasks[i]? = some t' ∧ t.Same t' := by
  rcases move.step_cases task with ⟨-, task'⟩ | ⟨favoured, -, -, task'⟩
  · exact ⟨t, task', rfl, rfl⟩
  · exact ⟨_, task', Task.same_step⟩

theorem Run.stays {i : Nat} {t : Task V C} {moves : List (Machine V σ C × Machine V σ C)}
    (run : Run m₀ moves m) (task : m₀.tasks[i]? = some t) :
    ∃ t', m.tasks[i]? = some t' ∧ t.Same t' := by
  induction run with
  | start => exact ⟨t, task, rfl, rfl⟩
  | move run step ih =>
      obtain ⟨u, hu, same⟩ := ih
      obtain ⟨t', task', same'⟩ := step.stays hu
      exact ⟨t', task', same'.1.trans same.1, same'.2.trans same.2⟩

/-- What holds at the start of a run and is kept by every move of the stack holds at its end. -/
theorem Run.invariant {P : List (Machine V σ C × Machine V σ C) → Machine V σ C → Prop}
    (sound : m₀.Sound) (start : P [] m₀)
    (keeps : ∀ (moves : List (Machine V σ C × Machine V σ C)) (m n : Machine V σ C), m.Sound →
      n.Sound → StackMove m n → P moves m → P (moves ++ [(m, n)]) n)
    {moves : List (Machine V σ C × Machine V σ C)} (run : Run m₀ moves m) : P moves m := by
  induction run with
  | start => exact start
  | @move moves m n run step ih =>
      have hm : m.Sound := sound_reaches sound run.reaches
      exact keeps moves m n hm (sound_move hm step) (stackMove hm step) ih

/-- Time does not run backwards. -/
theorem Run.now_le {moves : List (Machine V σ C × Machine V σ C)} (run : Run m₀ moves m) :
    m₀.world.now ≤ m.world.now := by
  induction run with
  | start => exact Instant.le_refl _
  | move _ step ih => exact Instant.le_trans ih step.now_le

/-- The kinds of the layers stay. -/
theorem kinds_run {moves : List (Machine V σ C × Machine V σ C)} (sound : m₀.Sound)
    (run : Run m₀ moves m) : m.world.content.kinds = m₀.world.content.kinds :=
  run.invariant (P := fun _ m => m.world.content.kinds = m₀.world.content.kinds) sound rfl
    fun _ _ _ _ _ move h => move.kinds.trans h

/-- What is true of the tasks that have not run, and is kept by every stride, is true of all tasks
at the end of a run. -/
theorem Run.forall_task {P : Task V C → Prop} (fresh : m₀.Fresh)
    (start : ∀ (id : TaskId) (request : Request), P (Task.fresh id request))
    (keeps : ∀ (t t' : Task V C) (k k' : Content V), t.Shaped →
      k.kinds = m₀.world.content.kinds → Stride t k t' k' → P t → P t')
    {moves : List (Machine V σ C × Machine V σ C)} (run : Run m₀ moves m) :
    ∀ (i : Nat) (t : Task V C), m.tasks[i]? = some t → P t := by
  have hrun := run.invariant (P := fun _ m => m.world.content.kinds = m₀.world.content.kinds ∧
    ∀ (i : Nat) (t : Task V C), m.tasks[i]? = some t → P t) fresh.sound ?_ ?_
  · exact hrun.2
  · refine ⟨rfl, ?_⟩
    intro i t task
    obtain ⟨layer, c, r, rfl, -⟩ := fresh.tasks i t task
    exact start i _
  · rintro - m n hm - move ⟨hkinds, h⟩
    refine ⟨move.kinds.trans hkinds, ?_⟩
    intro i x hx
    cases move with
    | @turn id t t' running task stride same tasks =>
        rw [tasks] at hx
        rcases getElem?_set_cases hx with ⟨rfl, rfl⟩ | ⟨-, hx⟩
        · exact keeps t x _ _ (hm.shaped i t task) hkinds stride (h i t task)
        · exact h i x hx
    | arrive idle foreground tasks content =>
        rw [tasks] at hx
        rcases getElem?_snoc hx with hx | ⟨-, rfl⟩
        · exact h i x hx
        · exact start _ _
    | rest active tasks content now =>
        rw [tasks] at hx
        exact h i x hx

/-- Only health queries call another source than that of the stack. -/
theorem straysInQuery_run {moves : List (Machine V σ C × Machine V σ C)} (fresh : m₀.Fresh)
    (run : Run m₀ moves m) :
    ∀ (i : Nat) (t : Task V C), m.tasks[i]? = some t → t.StraysInQuery := by
  refine run.forall_task fresh (P := Task.StraysInQuery) ?_ ?_
  · intro id request index hsource
    cases hsource
  · intro t t' k k' shaped _ stride
    exact stride.straysInQuery shaped

end Moves

end Machine

end CredentialSupply
