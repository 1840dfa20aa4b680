import CredentialSupply.Proofs.Dormant
import CredentialSupply.Proofs.Pause

set_option autoImplicit false

/-!
# What a closed stack does

A close tells every worker to end that has not ended (`heeded_run`). Where no refresh is in flight
in the background the worker of a cache is then dormant, and stays so, so that the cache does for
those who use the stack what it would do without a worker (`closed_cache_blocks`).
-/

namespace CredentialSupply

variable {V σ C : Type}

/-! ## A close reaches every worker -/

/-- Where all workers are told to end, one that takes jobs is told. -/
theorem World.cache?_stopWorkers_of_accepting {w : World V σ} {layer : Nat} {c : Cache V}
    {r : EarlyRefresh} (hc : w.cache? layer = some c) (early : c.early = some r)
    (accepting : r.accepting = true) : w.stopWorkers.cache? layer = some c.told := by
  -- whoever has been told stays so
  have hkeep : ∀ (is : List Nat) (w : World V σ), w.cache? layer = some c.told →
      (is.foldl stopWorker w).cache? layer = some c.told := by
    intro is w h
    rcases cache?_foldl_stopWorker is w h with h | h
    · exact h
    · rwa [told_told] at h
  have hfold : ∀ (is : List Nat) (w : World V σ), w.cache? layer = some c → layer ∈ is →
      (is.foldl stopWorker w).cache? layer = some c.told := by
    intro is
    induction is with
    | nil => exact fun _ _ h => absurd h List.not_mem_nil
    | cons i is ih =>
        intro w h hmem
        rw [List.foldl_cons]
        by_cases hi : i = layer
        · subst hi
          refine hkeep is _ ?_
          simp [stopWorker, early?_eq w h, early, accepting, cache?_mapEarly, h, Cache.told]
        · rcases cache?_stopWorker w i h with hsame | htold
          · exact ih _ hsame ((List.mem_cons.1 hmem).resolve_left (Ne.symm hi))
          · exact hkeep is _ htold
  refine hfold _ w hc ?_
  rw [List.mem_reverse, List.mem_range]
  exact (List.getElem?_eq_some_iff.1 ((cache?_eq_some_iff w layer c).1 hc)).1

section Turn

variable [Perishable V] {layer : Nat} {now : Instant} {t t' : Task V C} {c c' : Cache V}

/-- Only a worker that ends takes no more jobs. -/
theorem Turn.accepting_cases (h : Turn layer now t c t' c') :
    c'.early.map EarlyRefresh.accepting = c.early.map EarlyRefresh.accepting ∨
      (t.request = .work layer ∧ t'.hasEnded = true) := by
  cases h with
  | @hit e c' control valid noticed =>
      left
      rcases Cache.noticed?_cases noticed with rfl | ⟨r, hr, -, -, rfl⟩
      · rfl
      · rcases r.schedule_cases ⟨c.generation, e.expiresAt⟩ with ⟨-, h⟩ | ⟨-, -, h⟩ | ⟨-, -, h⟩ <;>
          simp [hr, h]
  | install control head entry =>
      left
      show (c.early.map _).map _ = _
      rw [Option.map_map]
      rfl
  | tend attends early worker claimed jobs accepting attends' =>
      left
      simp [early, accepting]
  | takeJob attends early | fire attends early => exact Or.inl (by simp [early])
  | @forgo t' f job failure control frames duty attends' =>
      left
      show (c.early.map _).map _ = _
      rw [Option.map_map]
      congr 1
      funext r
      simp only [Function.comp, EarlyRefresh.unclaim]
      split <;> rfl
  | retire request away early worker jobs accepting frames' ended => exact Or.inr ⟨request, ended⟩
  | @abandon l request parked =>
      by_cases hl : l = layer
      · exact Or.inr ⟨hl ▸ request, rfl⟩
      · exact Or.inl (by simp [hl])
  | tell request frames control frames' idle =>
      left
      rw [Cache.early_told, Option.map_map]
      rfl
  | _ => exact Or.inl rfl

end Turn

namespace Machine

/-- The worker of a cache has ended, or was told to end if a close has begun. -/
structure Heeded (m : Machine V σ C) (c : Cache V) : Prop where
  retired : ∀ r, c.early = some r → r.accepting = false → m.hasEnded r.worker = true
  told : ∀ r, c.early = some r → ∀ t ∈ m.tasks, t.request = .close → t.control ≠ .begin →
    r.stopped = true ∨ m.hasEnded r.worker = true

section Heeded

variable [Source σ V C] [Perishable V] {layer : Nat} {m₀ m n : Machine V σ C} {c c' : Cache V}
  {moves : List (Machine V σ C × Machine V σ C)}

theorem Move.keeps_hasEnded {id : TaskId} (move : Move m n) (ended : m.hasEnded id = true) :
    n.hasEnded id = true := by
  cases task : m.tasks[id]? with
  | none => simp [hasEnded, ended?, task] at ended
  | some t =>
      rw [hasEnded_of_task task] at ended
      obtain ⟨t', task', ended'⟩ := hasEnded_move move task ended
      rwa [hasEnded_of_task task']

/-- A task that has begun had begun before the move, or begins with it. -/
theorem Move.begun_cases {i : Nat} {x : Task V C} (move : Move m n) (task' : n.tasks[i]? = some x)
    (begun : x.control ≠ .begin) :
    ∃ t, m.tasks[i]? = some t ∧ t.Same x ∧
      (t.control ≠ .begin ∨ ∃ favoured, n = m.advance favoured i) := by
  rcases move.task task' with ⟨t, task, same, -⟩ | ⟨request, rfl, -⟩
  · refine ⟨t, task, same, ?_⟩
    rcases move.step_cases task with ⟨-, h⟩ | ⟨favoured, -, hn, -⟩
    · rw [task'] at h
      cases h
      exact Or.inl begun
    · exact Or.inr ⟨favoured, hn⟩
  · exact absurd rfl begun

/-- A worker that takes no more jobs has ended: it retires only with its last step. -/
theorem Heeded.retired_move (heeded : m.Heeded c) (sound : m.Sound)
    (hc : m.world.cache? layer = some c) (move : Move m n) (next : LayerMove layer m c n c')
    {r r' : EarlyRefresh} (hr : c.early = some r) (hr' : c'.early = some r')
    (worker : r.worker = r'.worker) (gone : r'.accepting = false) :
    n.hasEnded r'.worker = true := by
  rw [← worker]
  have hsame : c'.early.map EarlyRefresh.accepting = c.early.map EarlyRefresh.accepting →
      n.hasEnded r.worker = true := by
    intro hsame
    rw [hr, hr', Option.map_some, Option.map_some, Option.some.injEq] at hsame
    exact move.keeps_hasEnded (heeded.retired r hr (hsame.symm.trans gone))
  have htold : ∀ d : Cache V, d.told.early.map EarlyRefresh.accepting =
      d.early.map EarlyRefresh.accepting := by
    intro d
    rw [Cache.early_told, Option.map_map]
    rfl
  cases next with
  | @turn id t t' c₁ running task turn same tasks running' parked told now =>
      rcases turn.accepting_cases with haccepting | ⟨request, ended⟩
      · apply hsame
        rcases told with rfl | ⟨-, rfl⟩
        · exact haccepting
        · rw [htold, haccepting]
      · obtain ⟨d, r₁, hd, hr₁, rfl⟩ := sound.posted id t layer task request
        rw [hc] at hd
        cases hd
        rw [hr] at hr₁
        cases hr₁
        have htask : n.tasks[r.worker]? = some t' := by
          rw [tasks]
          exact getElem?_set_some t' task
        rw [hasEnded_of_task htask]
        exact ended
  | arrive idle foreground tasks cache now => exact hsame (by rw [cache])
  | rest active tasks cache now =>
      apply hsame
      rcases cache with rfl | rfl
      · rfl
      · exact htold c

/-- A close tells every worker that takes jobs to end with its first step. -/
theorem early_of_close {id : TaskId} {t : Task V C} {favoured : Signal} {r : EarlyRefresh}
    (hc : m.world.cache? layer = some c) (hr : c.early = some r) (accepting : r.accepting = true)
    (task : m.tasks[id]? = some t) (request : t.request = .close) (control : t.control = .begin)
    (hc' : (m.advance favoured id).world.cache? layer = some c') :
    c'.early = some { r with stopped := true } := by
  have hstep : (t.step m.world favoured).1.cache? layer = some c.told := by
    rw [Task.step_of_foreground favoured (by rw [request]; rfl), Task.advance, control]
    simp only [Task.start, request, Task.close]
    split <;> exact World.cache?_stopWorkers_of_accepting hc hr accepting
  rcases (advanced favoured task).cache layer c.told hstep with h | ⟨-, h⟩ <;>
    rw [h] at hc' <;> cases hc' <;> simp [hr]

theorem Heeded.move (heeded : m.Heeded c) (sound : m.Sound) (hc : m.world.cache? layer = some c)
    (move : Move m n) (hc' : n.world.cache? layer = some c') (next : LayerMove layer m c n c') :
    n.Heeded c' := by
  have hworker : ∀ r', c'.early = some r' → ∃ r, c.early = some r ∧ r.worker = r'.worker := by
    intro r' hr'
    obtain ⟨r, hr, -, -, hworker⟩ := next.kept.symm.early hr'
    exact ⟨r, hr, hworker⟩
  constructor
  · intro r' hr' gone
    obtain ⟨r, hr, hw⟩ := hworker r' hr'
    exact heeded.retired_move sound hc move next hr hr' hw gone
  · intro r' hr' x hx request begun
    obtain ⟨r, hr, hw⟩ := hworker r' hr'
    rw [← hw]
    obtain ⟨i, task'⟩ := List.mem_iff_getElem?.1 hx
    obtain ⟨t, task, same, hbegun⟩ := move.begun_cases task' begun
    have hclose : t.request = .close := same.2.symm.trans request
    by_cases hcontrol : t.control = .begin
    · -- the close begins with this move
      obtain ⟨favoured, rfl⟩ := hbegun.resolve_left (absurd hcontrol)
      cases haccepting : r.accepting with
      | false => exact Or.inr (move.keeps_hasEnded (heeded.retired r hr haccepting))
      | true =>
          have hearly := early_of_close hc hr haccepting task hclose hcontrol hc'
          rw [hearly] at hr'
          cases hr'
          exact Or.inl rfl
    · rcases heeded.told r hr t (List.mem_of_getElem? task) hclose hcontrol with stopped | ended
      · obtain ⟨r₁, hr₁, stopped'⟩ := next.told hr stopped
        rw [hr'] at hr₁
        cases hr₁
        exact Or.inl stopped'
      · exact Or.inr (move.keeps_hasEnded ended)

/-- In every run, a close that has begun has reached the worker of each cache. -/
theorem heeded_run (fresh : m₀.Fresh) (run : Run m₀ moves m)
    (cache : m.world.cache? layer = some c) : m.Heeded c := by
  -- by induction on the run: the cache at its end was there before the last move
  induction run generalizing c with
  | start =>
      constructor
      · intro r hr gone
        rw [((fresh.caches layer c cache).early r hr).1] at gone
        cases gone
      · intro r hr t ht request
        obtain ⟨i, task⟩ := List.mem_iff_getElem?.1 ht
        obtain ⟨l, c, r, rfl, -⟩ := fresh.tasks i t task
        cases request
  | @move moves k n run step ih =>
      have hk := sound_reaches fresh.sound run.reaches
      obtain ⟨d, hd, -⟩ := (Run.start.move step).cache_before hk cache
      obtain ⟨c', hc', next⟩ := layerMove hk step hd
      rw [cache] at hc'
      cases hc'
      exact (ih hd).move hk hd step cache next

end Heeded

section Muted

variable [Source σ V C] [Perishable V] {layer : Nat} {m₀ m n : Machine V σ C} {c : Cache V}
  {r : EarlyRefresh} {moves : List (Machine V σ C × Machine V σ C)}

/-- The worker of a cache is there in every run. -/
theorem staffed_run (fresh : m₀.Fresh) (manned : m₀.Manned) (run : Run m₀ moves m)
    (cache : m.world.cache? layer = some c) (early : c.early = some r) :
    ∃ t, m.tasks[r.worker]? = some t ∧ t.request = .work layer := by
  obtain ⟨c₀, cache₀, kept⟩ := run.cache_before fresh.sound cache
  obtain ⟨r₀, early₀, -, -, hworker⟩ := kept.symm.early early
  obtain ⟨task, -⟩ := manned layer c₀ r₀ cache₀ early₀
  obtain ⟨t, task', same⟩ := run.stays task
  rw [hworker] at task'
  exact ⟨t, task', same.2⟩

/-- A task waits for another one only at its request. -/
theorem joins_run (fresh : m₀.Fresh) (run : Run m₀ moves m) :
    ∀ t ∈ m.tasks, ∀ id, t.control = .joining id → t.request = .join id := by
  induction run with
  | start =>
      intro t ht id control
      obtain ⟨i, task⟩ := List.mem_iff_getElem?.1 ht
      obtain ⟨l, c, r, rfl, -⟩ := fresh.tasks i t task
      cases control
  | @move moves k n run step ih =>
      intro x hx id control
      obtain ⟨i, task'⟩ := List.mem_iff_getElem?.1 hx
      rcases step.task task' with ⟨t, task, same, -⟩ | ⟨request, rfl, -⟩
      · rcases step.step_cases task with ⟨-, h⟩ | ⟨favoured, -, -, h⟩ <;>
          rw [task'] at h <;> cases h
        · exact ih x (List.mem_of_getElem? task) id control
        · exact same.2.trans (Task.goes_step.2 id control)
      · cases control

/-- A worker that is in no fetch has no part in any cache but its own, and none in a lock. -/
theorem Dormant.hides {worker : TaskId} (dormant : m.Dormant layer worker) (fresh : m₀.Fresh)
    (manned : m₀.Manned) (run : Run m₀ moves m) : m.world.Hides layer worker := by
  have sound := sound_reaches fresh.sound run.reaches
  obtain ⟨t, task, request, frames, -⟩ := dormant
  -- it is the worker of one cache, and stands at none
  constructor
  · intro i c r hc hr
    obtain ⟨u, task', request'⟩ := staffed_run fresh manned run hc hr
    constructor
    · intro hworker
      rw [hworker, task] at task'
      cases task'
      rw [request] at request'
      cases request'
      rfl
    · rintro rfl
      obtain ⟨d, r', hd, hr', hworker⟩ := sound.posted worker t i task request
      rw [hc] at hd
      cases hd
      rw [hr] at hr'
      cases hr'
      exact hworker
  · intro i c hc hmem
    obtain ⟨c₀, cache₀, -⟩ := run.cache_before fresh.sound hc
    obtain ⟨d, hd, queued⟩ := queued_reaches fresh.sound cache₀ (fresh.queued cache₀) run.reaches
    rw [hc] at hd
    cases hd
    obtain ⟨u, task', engaged⟩ := (queued.engaged worker).1 hmem
    rw [task] at task'
    cases task'
    have hidle : t.control.isIdle = true := by
      refine (sound.shaped worker t task).isIdle_of_nil ?_ frames
      rw [request]
      exact fun _ => Request.noConfusion
    have haway : t.stage i = .away := by
      refine Task.stage_eq_away_of_nil frames ?_
      cases control : t.control <;> first | rfl | simp [control, Control.isIdle] at hidle
    rw [haway] at engaged
    cases engaged

/-- Once a close has begun, the worker of a cache is dormant where no refresh is in flight. -/
theorem dormant_of_closed (fresh : m₀.Fresh) (manned : m₀.Manned) (run : Run m₀ moves m)
    (cache : m.world.cache? layer = some c) (early : c.early = some r)
    (closed : ∃ t ∈ m.tasks, t.request = .close ∧ t.control ≠ .begin)
    (calm : ∀ t, m.tasks[r.worker]? = some t → t.duty? layer = none) :
    m.Dormant layer r.worker := by
  have sound := sound_reaches fresh.sound run.reaches
  obtain ⟨t, task, request⟩ := staffed_run fresh manned run cache early
  refine ⟨t, task, request, ?_, ?_⟩
  · rcases (sound.shaped _ t task).nested_or_nil with ⟨depth, h⟩ | h
    · rw [request] at h
      obtain ⟨-, job, hjob⟩ := h.of_work
      have hnone := calm t task
      rw [Task.duty?, hjob] at hnone
      cases hnone
    · exact h
  · obtain ⟨u, hu, hclose, begun⟩ := closed
    rcases (heeded_run fresh run cache).told r early u hu hclose begun with stopped | ended'
    · right
      simp [Task.isStopped, request, World.early?_eq m.world cache, early, stopped]
    · left
      rwa [hasEnded_of_task task] at ended'

/-- A dormant worker stays so, and the tasks stay in order. -/
theorem Dormant.muted {before : List (Machine V σ C × Machine V σ C)}
    (dormant : m.Dormant layer r.worker) (fresh : m₀.Fresh) (manned : m₀.Manned)
    (run₀ : Run m₀ before m) (cache : m.world.cache? layer = some c) (early : c.early = some r)
    (run : Run m moves n) : n.Muted layer r.worker r.window := by
  have whole := run₀.append run
  have sound := sound_reaches fresh.sound run₀.reaches
  have hdormant : n.Dormant layer r.worker := by
    induction run with
    | start => exact dormant
    | move run step ih =>
        have whole := run₀.append run
        exact (ih whole).move (sound_reaches sound run.reaches) step
  refine ⟨sound_reaches sound run.reaches, hdormant.hides fresh manned whole, ?_,
    joins_run fresh whole, hdormant⟩
  intro r' hr'
  obtain ⟨c', hc', kept, -⟩ := reaches_cache sound run.reaches cache
  obtain ⟨r₁, hr₁, hwindow, -⟩ := kept.early early
  rw [World.early?_eq n.world hc', hr₁] at hr'
  cases hr'
  exact hwindow

end Muted

/-! ## The cache after the close -/

/-- Once a close has begun, with no refresh in flight in the background, a cache with a worker is
for the users of the stack one without: what they do and see in any run that goes on, they do and
see in a run of the stack without the worker, and the other way round, as long as nobody gives the
stack up or waits for the worker and the clock represents the end of the window. And the worker
makes no inner call any more. -/
theorem closed_cache_blocks [Source σ V C] [Perishable V] {name : String} {source : σ}
    {others : List σ} {plans : List LayerPlan} {bound : List Bool} {m₀ m : Machine V σ C}
    {layer : Nat} {c : Cache V} {r : EarlyRefresh}
    (built : build name source others plans = .ok (bound, m₀)) (reach : Reaches m₀ m)
    (cache : m.world.cache? layer = some c) (early : c.early = some r)
    (closed : ∃ t ∈ m.tasks, t.request = .close ∧ t.control ≠ .begin)
    (calm : ∀ t, m.tasks[r.worker]? = some t → t.duty? layer = none) :
    (∀ moves n, Run m moves n → n.Usable r.worker r.window →
      Run (m.blocking layer r.worker) (besides layer r.worker moves)
        (n.blocking layer r.worker)) ∧
    (∀ moves b, Run (m.blocking layer r.worker) moves b → b.Usable r.worker r.window →
      ∃ moves' n, Run m moves' n ∧ besides layer r.worker moves' = moves ∧
        n.blocking layer r.worker = b) ∧
    ∀ moves n, Run m moves n → ∀ t, n.tasks[r.worker]? = some t → t.frames = [] := by
  have fresh := fresh_of_build built
  have manned := manned_of_build built
  obtain ⟨before, run₀⟩ := exists_run reach
  have dormant := dormant_of_closed fresh manned run₀ cache early closed calm
  have muted : ∀ moves n, Run m moves n → n.Muted layer r.worker r.window :=
    fun moves n run => dormant.muted fresh manned run₀ cache early run
  refine ⟨fun moves n run usable => blocking_run muted run usable,
    fun moves b run usable => exists_run_of_blocking muted run usable, ?_⟩
  intro moves n run t task
  obtain ⟨u, task', -, frames, -⟩ := (muted moves n run).dormant
  rw [task] at task'
  cases task'
  exact frames

/-- The stack of the slow source after a fetch and a close, when the worker has been told to end and
has not yet run. -/
def closedStack : Machine (Dated Nat) (Script (Dated Nat)) (ScriptReply (Dated Nat)) :=
  (requested .close 2 (requested (.fetch false) 15 sluggishStack).2).2

/-- The worker of that stack has not ended, and nobody sees it end. -/
theorem closed_stack_blocks :
    Reaches sluggishStack closedStack ∧ closedStack.hasEnded 0 = false ∧
      closedStack.Usable 0 (Span.ofSeconds 30) ∧
      ∀ moves n, Run closedStack moves n → n.Usable 0 (Span.ofSeconds 30) →
        Run (closedStack.blocking 0 0) (besides 0 0 moves) (n.blocking 0 0) ∧
          ∀ t, n.tasks[0]? = some t → t.frames = [] := by
  have built : build "chain" sluggishSource [] sluggishPlans = .ok ([], sluggishStack) := rfl
  have reach : Reaches sluggishStack closedStack :=
    (run_requested 15 rfl rfl).reaches.trans (run_requested 2 rfl rfl).reaches
  obtain ⟨c, cache, r, early, worker, window⟩ : ∃ c, closedStack.world.cache? 0 = some c ∧
      ∃ r, c.early = some r ∧ r.worker = 0 ∧ r.window = Span.ofSeconds 30 :=
    ⟨_, rfl, _, rfl, rfl, rfl⟩
  have closed : ∃ t ∈ closedStack.tasks, t.request = .close ∧ t.control ≠ .begin :=
    ⟨⟨2, .close, .ended .nothing Instant.origin, []⟩, List.mem_of_getElem? (i := 2) rfl, rfl, nofun⟩
  have calm : ∀ t, closedStack.tasks[r.worker]? = some t → t.duty? 0 = none := by
    rw [worker]
    rintro t ⟨rfl⟩
    rfl
  obtain ⟨follows, -, quiet⟩ := closed_cache_blocks built reach cache early closed calm
  rw [worker, window] at follows
  rw [worker] at quiet
  refine ⟨reach, rfl, ?_, fun moves n run usable =>
    ⟨follows moves n run usable, quiet moves n run⟩⟩
  refine ⟨rfl, ?_, rfl⟩
  decide

end Machine

end CredentialSupply
