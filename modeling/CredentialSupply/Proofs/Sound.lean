import CredentialSupply.Proofs.Turn
import CredentialSupply.Proofs.Wake
import CredentialSupply.Stack.Run

set_option autoImplicit false

/-!
# Sound machines

`Machine.Sound` says that the tasks of a machine are in order: each has its own number and the
right shape, only the running one is in the middle of its work, and every worker is the one
that its cache knows. Every move keeps this (`sound_move`), and makes of the cache at a layer
what `LayerMove` says (`layerMove`).
-/

namespace CredentialSupply

variable {V σ C : Type}

/-! ## Lists of tasks -/

theorem getElem?_set_some {α : Type} {l : List α} {i : Nat} {a : α} (b : α) (h : l[i]? = some a) :
    (l.set i b)[i]? = some b :=
  List.getElem?_set_self (List.getElem?_eq_some_iff.1 h).1

/-- What stands in a list after one place has been set. -/
theorem getElem?_set_cases {α : Type} {l : List α} {i j : Nat} {b x : α}
    (h : (l.set i b)[j]? = some x) : j = i ∧ x = b ∨ j ≠ i ∧ l[j]? = some x := by
  by_cases hj : j = i
  · subst hj
    have hlt : j < l.length := by
      have hset := (List.getElem?_eq_some_iff.1 h).1
      rwa [List.length_set] at hset
    rw [List.getElem?_set_self hlt] at h
    exact Or.inl ⟨rfl, (Option.some.inj h).symm⟩
  · rw [List.getElem?_set_ne (Ne.symm hj)] at h
    exact Or.inr ⟨hj, h⟩

theorem getElem?_append_some {α : Type} {l : List α} {i : Nat} {a : α} (r : List α)
    (h : l[i]? = some a) : (l ++ r)[i]? = some a := by
  rw [List.getElem?_append_left (List.getElem?_eq_some_iff.1 h).1]
  exact h

/-- What stands in a list with a new last element. -/
theorem getElem?_snoc {α : Type} {l : List α} {a x : α} {i : Nat} (h : (l ++ [a])[i]? = some x) :
    l[i]? = some x ∨ i = l.length ∧ x = a := by
  rw [List.getElem?_append] at h
  split at h
  · exact Or.inl h
  · obtain ⟨hlt, hx⟩ := List.getElem?_eq_some_iff.1 h
    simp only [List.length_singleton] at hlt
    exact Or.inr ⟨by omega, by simpa using hx.symm⟩

/-! ## What no turn changes -/

/-- What a worker is told when its cache is built. -/
def EarlyRefresh.plan (r : EarlyRefresh) : Span × RefreshMode × TaskId :=
  (r.window, r.mode, r.worker)

/-- What a worker knows, and whether it has been told to end. -/
def EarlyRefresh.post (r : EarlyRefresh) : (Span × RefreshMode × TaskId) × Bool :=
  (r.plan, r.stopped)

/-- The same settings and the same worker. -/
structure Cache.Kept (c c' : Cache V) : Prop where
  settings : c'.settings = c.settings
  plan : c'.early.map EarlyRefresh.plan = c.early.map EarlyRefresh.plan

namespace Cache

variable {c c' c'' : Cache V} {r r' : EarlyRefresh}

theorem Kept.refl (c : Cache V) : c.Kept c := ⟨rfl, rfl⟩

theorem Kept.trans (h : c.Kept c') (h' : c'.Kept c'') : c.Kept c'' :=
  ⟨h'.settings.trans h.settings, h'.plan.trans h.plan⟩

theorem Kept.symm (h : c.Kept c') : c'.Kept c := ⟨h.settings.symm, h.plan.symm⟩

theorem kept_told (c : Cache V) : c.Kept c.told := by
  refine ⟨rfl, ?_⟩
  rw [early_told, Option.map_map]
  rfl

theorem early_mapEarly (f : EarlyRefresh → EarlyRefresh) (h : c.early = some r) :
    (c.mapEarly f).early = some (f r) := by
  simp [mapEarly, h]

theorem post_of_sameWorker (h : c.early = some r) (h' : c'.early = some r')
    (same : r.SameWorker r') :
    c'.early.map EarlyRefresh.post = c.early.map EarlyRefresh.post := by
  obtain ⟨hwindow, hmode, hworker, hstopped⟩ := same
  simp [h, h', EarlyRefresh.post, EarlyRefresh.plan, hwindow, hmode, hworker, hstopped]

/-- The worker of a cache that has been kept is the same. -/
theorem Kept.early (h : c.Kept c') (hr : c.early = some r) :
    ∃ r', c'.early = some r' ∧ r'.window = r.window ∧ r'.mode = r.mode ∧ r'.worker = r.worker := by
  have hplan := h.plan
  rw [hr, Option.map_some, Option.map_eq_some_iff] at hplan
  obtain ⟨r', hr', heq⟩ := hplan
  simp only [EarlyRefresh.plan, Prod.mk.injEq] at heq
  exact ⟨r', hr', heq⟩

end Cache

section Turn

variable [Perishable V] {layer : Nat} {now : Instant} {t t' : Task V C} {c c' : Cache V}

/-- The post of a worker changes only with a close, which tells the worker to end. -/
theorem Turn.post_cases (h : Turn layer now t c t' c') :
    c'.early.map EarlyRefresh.post = c.early.map EarlyRefresh.post ∨
      t.request = .close ∧ t.control = .begin ∧ c' = c.told := by
  cases h with
  | elsewhere | overrun | miss | receive | load | succeed => exact Or.inl rfl
  | seize | queue | giveUp | adopt | fail | crash => exact Or.inl rfl
  | hit control valid noticed =>
      left
      rcases Cache.noticed?_cases noticed with rfl | ⟨r, hr, -, -, rfl⟩
      · rfl
      · exact Cache.post_of_sameWorker hr rfl (r.sameWorker_schedule _)
  | install control head entry =>
      left
      show (c.early.map _).map EarlyRefresh.post = _
      rw [Option.map_map]
      rfl
  | tend attends early worker => exact Or.inl (Cache.post_of_sameWorker early rfl worker)
  | takeJob attends early =>
      exact Or.inl (Cache.post_of_sameWorker early rfl ⟨rfl, rfl, rfl, rfl⟩)
  | fire attends early =>
      exact Or.inl (Cache.post_of_sameWorker early rfl ⟨rfl, rfl, rfl, rfl⟩)
  | forgo control frames duty =>
      left
      cases hr : c.early with
      | none => simp [Cache.mapEarly, hr]
      | some r =>
          rw [← hr]
          exact Cache.post_of_sameWorker hr (Cache.early_mapEarly _ hr) (r.sameWorker_unclaim _)
  | retire request away early worker => exact Or.inl (Cache.post_of_sameWorker early rfl worker)
  | abandon request parked =>
      left
      show (if _ then c.early.map EarlyRefresh.retire else c.early).map EarlyRefresh.post = _
      split
      · rw [Option.map_map]
        rfl
      · rfl
  | tell request frames control => exact Or.inr ⟨request, control, rfl⟩

theorem Turn.settings (h : Turn layer now t c t' c') : c'.settings = c.settings := by
  cases h with
  | hit control valid noticed =>
      rcases Cache.noticed?_cases noticed with rfl | ⟨r, -, -, -, rfl⟩ <;> rfl
  | _ => rfl

theorem Turn.kept (h : Turn layer now t c t' c') : c.Kept c' := by
  refine ⟨h.settings, ?_⟩
  rcases h.post_cases with hpost | ⟨-, -, rfl⟩
  · have hplan := congrArg (Option.map Prod.fst) hpost
    rw [Option.map_map, Option.map_map] at hplan
    exact hplan
  · exact (Cache.kept_told c).plan

/-- Only a close tells a worker to end. -/
theorem Turn.stopped (h : Turn layer now t c t' c') (hr : t.request ≠ .close) :
    c'.early.map EarlyRefresh.stopped = c.early.map EarlyRefresh.stopped := by
  rcases h.post_cases with hpost | ⟨hclose, -⟩
  · have hstopped := congrArg (Option.map Prod.snd) hpost
    rw [Option.map_map, Option.map_map] at hstopped
    exact hstopped
  · exact absurd hclose hr

end Turn

/-! ## The invariant -/

namespace Machine

/-- The running task. -/
def active? (m : Machine V σ C) : Option (Task V C) := m.running.bind (m.tasks[·]?)

theorem active?_of_running {m : Machine V σ C} {id : TaskId} {t : Task V C}
    (running : m.running = some id) (task : m.tasks[id]? = some t) : m.active? = some t := by
  simp [active?, running, task]

theorem active?_of_idle {m : Machine V σ C} (idle : m.running = none) : m.active? = none := by
  simp [active?, idle]

/-- The tasks of the machine are in order. -/
structure Sound (m : Machine V σ C) : Prop where
  /-- A task stands at the position that is its number. -/
  ids : ∀ (i : Nat) (t : Task V C), m.tasks[i]? = some t → t.id = i
  shaped : ∀ (i : Nat) (t : Task V C), m.tasks[i]? = some t → t.Shaped
  /-- Only the running task is in the middle of its work, and no worker that has been told to
  end. -/
  parked : ∀ (i : Nat) (t : Task V C), m.tasks[i]? = some t → t.control.isParked = false →
    m.running = some i ∧ t.isStopped m.world = false
  /-- A worker is the one that its cache knows. -/
  posted : ∀ (i : Nat) (t : Task V C) (layer : Nat), m.tasks[i]? = some t →
    t.request = .work layer → ∃ c r, m.world.cache? layer = some c ∧ c.early = some r ∧ r.worker = i
  clock : Instant.origin ≤ m.world.now

/-- A machine without tasks is in order, whatever its layers hold. -/
theorem sound_of_no_tasks {m : Machine V σ C} (tasks : m.tasks = [])
    (clock : Instant.origin ≤ m.world.now) : m.Sound := by
  constructor
  case clock => exact clock
  all_goals
    intros
    simp_all

/-- While no task runs, all of them are parked. -/
theorem Sound.parked_of_rest {m : Machine V σ C} (sound : m.Sound) (active : m.active? = none)
    (i : Nat) (t : Task V C) (task : m.tasks[i]? = some t) : t.control.isParked = true := by
  cases h : t.control.isParked with
  | true => rfl
  | false =>
      obtain ⟨hrunning, -⟩ := sound.parked i t task h
      rw [active?_of_running hrunning task] at active
      cases active

theorem Sound.idle {m : Machine V σ C} {i : Nat} {t : Task V C} (sound : m.Sound)
    (idle : m.running = none) (task : m.tasks[i]? = some t) : t.control.isParked = true :=
  sound.parked_of_rest (active?_of_idle idle) i t task

/-! ## What the machine adds to a step -/

theorem ended_of_hasEnded {t : Task V C} (h : t.hasEnded = true) : t.control.isParked = true := by
  unfold Task.hasEnded Task.ended? at h
  split at h
  next control => simp [control, Control.isParked, Control.isWaiting]
  next => simp at h

theorem isParked_of_isWaiting {m : Machine V σ C} {t : Task V C} (h : m.isWaiting t = true) :
    t.control.isParked = true := by
  unfold isWaiting at h
  cases hcontrol : t.control <;> simp_all [Control.isParked, Control.isWaiting]

theorem leads_reclaim (m : Machine V σ C) (id : TaskId) :
    World.Leads id m.world m.reclaim.world := by
  rw [reclaim]
  split
  · exact World.leads_stopWorkers
  · exact .refl m.world

theorem leads_foldl_wake (id : TaskId) (ts : List (Task V C)) (w : World V σ) :
    World.Leads id w (ts.foldl (fun w t => w.wake t.id) w) := by
  induction ts generalizing w with
  | nil => exact .refl w
  | cons t ts ih => exact (World.leads_wake t.id).trans (ih (w.wake t.id))

theorem cache?_foldl_wake (layer : Nat) (ts : List (Task V C)) (w : World V σ) :
    (ts.foldl (fun w t => w.wake t.id) w).cache? layer = w.cache? layer := by
  induction ts generalizing w with
  | nil => rfl
  | cons t ts ih =>
      rw [List.foldl_cons, ih]
      exact World.cache?_wake w t.id layer

theorem tasks_reclaim (m : Machine V σ C) : m.reclaim.tasks = m.tasks := by
  rw [reclaim]
  split <;> rfl

theorem running_reclaim (m : Machine V σ C) : m.reclaim.running = m.running := by
  rw [reclaim]
  split <;> rfl

theorem cache?_reclaim {m : Machine V σ C} {layer : Nat} {c : Cache V}
    (h : m.world.cache? layer = some c) :
    m.reclaim.world.cache? layer = some c ∨ m.reclaim.world.cache? layer = some c.told := by
  rw [reclaim]
  split
  · exact World.cache?_stopWorkers h
  · exact Or.inl h

theorem cache?_passTo (m : Machine V σ C) (instant : Instant) (layer : Nat) :
    (m.passTo instant).world.cache? layer = m.world.cache? layer :=
  cache?_foldl_wake layer _ _

theorem now_passTo (m : Machine V σ C) (instant : Instant) :
    (m.passTo instant).world.now = m.world.now.latest instant :=
  (leads_foldl_wake 0 _ _).now

/-- What the step of a running task makes of the machine. -/
structure Advanced (m : Machine V σ C) (id : TaskId) (t : Task V C) (next : World V σ × Task V C)
    (n : Machine V σ C) : Prop where
  tasks : n.tasks = m.tasks.set id next.2
  leads : World.Leads t.id next.1 n.world
  parked : n.running ≠ some id → next.2.control.isParked = true
  running : n.running = none ∨ n.running = some id
  cache : ∀ layer c, next.1.cache? layer = some c → n.world.cache? layer = some c ∨
    next.2.hasEnded = true ∧ n.world.cache? layer = some c.told

theorem advanced [Source σ V C] [Perishable V] {m : Machine V σ C} {id : TaskId} {t : Task V C}
    (favoured : Signal) (task : m.tasks[id]? = some t) :
    Advanced m id t (t.step m.world favoured) (m.advance favoured id) := by
  rw [advance, task]
  simp only
  generalize t.step m.world favoured = next
  obtain ⟨world, t'⟩ := next
  simp only
  generalize hwait : isWaiting { m with world, tasks := m.tasks.set id t' } t' = waits
  -- the machine between the step and what its end sets off
  obtain ⟨k, hk, hworld, htasks, hrunning⟩ : ∃ k : Machine V σ C,
      k = { m with world, tasks := m.tasks.set id t', running := if waits then none else some id } ∧
        k.world = world ∧ k.tasks = m.tasks.set id t' ∧
        k.running = if waits then none else some id := ⟨_, rfl, rfl, rfl, rfl⟩
  rw [← hk]
  have hidle : k.running = none ∨ k.running = some id := by
    rw [hrunning]
    cases waits with
    | true => exact Or.inl rfl
    | false => exact Or.inr rfl
  split
  next ended =>
    refine ⟨?_, ?_, fun _ => ended_of_hasEnded ended, ?_, ?_⟩
    · rw [tasks_reclaim]
      exact htasks
    · rw [← hworld]
      exact (leads_foldl_wake t.id _ k.world).trans (leads_reclaim (k.wakeJoining id) t.id)
    · rw [running_reclaim]
      exact hidle
    · intro layer c hc
      rw [← hworld] at hc
      have h : (k.wakeJoining id).world.cache? layer = some c :=
        (cache?_foldl_wake layer _ k.world).trans hc
      rcases cache?_reclaim h with h | h
      · exact Or.inl h
      · exact Or.inr ⟨ended, h⟩
  next ended =>
    refine ⟨htasks, ?_, ?_, hidle, ?_⟩
    · rw [← hworld]
      exact .refl k.world
    · intro hne
      cases waits with
      | true => exact isParked_of_isWaiting hwait
      | false => exact absurd hrunning hne
    · intro layer c hc
      left
      rw [hworld]
      exact hc

/-- A step takes no time. -/
theorem now_advance [Source σ V C] [Perishable V] {m : Machine V σ C} {id : TaskId} {t : Task V C}
    (favoured : Signal) (task : m.tasks[id]? = some t) :
    (m.advance favoured id).world.now = m.world.now :=
  (advanced favoured task).leads.now.trans Task.leads_step.now

/-! ## What a move makes of a cache -/

/-- What a move from `m` to `n` makes of the cache `c` at a layer. -/
inductive LayerMove [Perishable V] (layer : Nat) (m : Machine V σ C) (c : Cache V)
    (n : Machine V σ C) (c' : Cache V) : Prop where
  /-- The running task makes a step. The end of a task may set off that workers are told to
  end. -/
  | turn {id : TaskId} {t t' : Task V C} {c₁ : Cache V} (running : m.running = some id)
      (task : m.tasks[id]? = some t) (turn : Turn layer m.world.now t c t' c₁)
      (same : t.Same t') (tasks : n.tasks = m.tasks.set id t')
      (running' : n.running = none ∨ n.running = some id)
      (parked : n.running ≠ some id → t'.control.isParked = true)
      (told : c' = c₁ ∨ t'.hasEnded = true ∧ c' = c₁.told)
      (now : n.world.now = m.world.now)
  /-- A request arrives. -/
  | arrive {request : Request} (idle : m.running = none) (foreground : request.isWork = false)
      (tasks : n.tasks = m.tasks ++ [Task.fresh m.tasks.length request])
      (cache : c' = c) (now : n.world.now = m.world.now)
  /-- No task changes. -/
  | rest (active : m.active? = none) (tasks : n.tasks = m.tasks)
      (cache : c' = c ∨ c' = c.told) (now : m.world.now ≤ n.world.now)

/-- The tasks of `m` are as they were, and one that is new has just arrived. -/
structure Joined (m n : Machine V σ C) : Prop where
  tasks : ∀ (i : Nat) (t : Task V C), n.tasks[i]? = some t →
    m.tasks[i]? = some t ∨ m.tasks[i]? = none ∧ ∃ request, t = Task.fresh i request
  kept : ∀ (i : Nat) (t : Task V C), m.tasks[i]? = some t → n.tasks[i]? = some t

theorem joined_of_same {m n : Machine V σ C} (h : n.tasks = m.tasks) : Joined m n := by
  constructor
  · intro i t task
    rw [h] at task
    exact Or.inl task
  · intro i t task
    rw [h]
    exact task

theorem joined_of_arrive {m n : Machine V σ C} {request : Request}
    (h : n.tasks = m.tasks ++ [Task.fresh m.tasks.length request]) : Joined m n := by
  constructor
  · intro i t task
    rw [h] at task
    rcases getElem?_snoc task with task | ⟨rfl, rfl⟩
    · exact Or.inl task
    · exact Or.inr ⟨List.getElem?_eq_none (Nat.le_refl _), request, rfl⟩
  · intro i t task
    rw [h]
    exact getElem?_append_some _ task

/-- A task that is in a fetch was there before the new one arrived. -/
theorem Joined.task_or_away {m n : Machine V σ C} (h : Joined m n) {i : Nat} {t : Task V C}
    (task : n.tasks[i]? = some t) (layer : Nat) : m.tasks[i]? = some t ∨ t.stage layer = .away := by
  rcases h.tasks i t task with hm | ⟨-, request, rfl⟩
  · exact Or.inl hm
  · exact Or.inr rfl

section Moves

variable [Perishable V] {m n : Machine V σ C} {layer : Nat} {c c' : Cache V}

theorem LayerMove.kept (h : LayerMove layer m c n c') : c.Kept c' := by
  cases h with
  | turn running task turn same tasks running' parked told now =>
      rcases told with rfl | ⟨-, rfl⟩
      · exact turn.kept
      · exact turn.kept.trans (Cache.kept_told _)
  | arrive idle foreground tasks cache now => exact cache ▸ .refl c
  | rest active tasks cache now =>
      rcases cache with rfl | rfl
      · exact .refl c'
      · exact Cache.kept_told c

/-- A move while a task runs is a turn of that task. -/
theorem LayerMove.of_running {id : TaskId} {t : Task V C} (h : LayerMove layer m c n c')
    (running : m.running = some id) (task : m.tasks[id]? = some t) :
    ∃ t' c₁, Turn layer m.world.now t c t' c₁ ∧ n.tasks = m.tasks.set id t' ∧
      n.tasks[id]? = some t' ∧ (c' = c₁ ∨ t'.hasEnded = true ∧ c' = c₁.told) ∧
      n.world.now = m.world.now := by
  cases h with
  | @turn id' s s' c₁ running₁ task₁ turn same tasks running' parked told now =>
      rw [running] at running₁
      cases running₁
      rw [task] at task₁
      cases task₁
      refine ⟨s', c₁, turn, tasks, ?_, told, now⟩
      rw [tasks]
      exact getElem?_set_some s' task
  | arrive idle => exact absurd running (by simp [idle])
  | rest active => exact absurd (active?_of_running running task) (by simp [active])

/-- A task stays as it is with a move, or it is the one that makes a step. -/
theorem LayerMove.task_cases {id : TaskId} {t t' : Task V C} (h : LayerMove layer m c n c')
    (task : m.tasks[id]? = some t) (task' : n.tasks[id]? = some t') :
    t' = t ∨ m.running = some id ∧ ∃ c₁, Turn layer m.world.now t c t' c₁ := by
  have hsame : n.tasks[id]? = some t → t' = t := by
    intro h
    rw [task'] at h
    exact Option.some.inj h
  cases h with
  | @turn id' s s' c₁ running task₁ turn same tasks running' parked told now =>
      by_cases hid : id = id'
      · subst hid
        rw [task] at task₁
        cases task₁
        rw [tasks, getElem?_set_some s' task] at task'
        cases task'
        exact Or.inr ⟨running, c₁, turn⟩
      · left
        apply hsame
        rw [tasks, List.getElem?_set_ne (Ne.symm hid)]
        exact task
  | arrive idle foreground tasks cache now =>
      exact Or.inl (hsame ((joined_of_arrive tasks).kept id t task))
  | rest active tasks cache now =>
      left
      apply hsame
      rw [tasks]
      exact task

theorem LayerMove.now_le (h : LayerMove layer m c n c') : m.world.now ≤ n.world.now := by
  cases h with
  | turn running task turn same tasks running' parked told now =>
      rw [now]
      exact Instant.le_refl _
  | arrive idle foreground tasks cache now =>
      rw [now]
      exact Instant.le_refl _
  | rest active tasks cache now => exact now

variable [Source σ V C]

/-- A step of a running task is a turn of each cache. -/
theorem Sound.turns {id : TaskId} {t : Task V C} (sound : m.Sound) (task : m.tasks[id]? = some t)
    (hc : m.world.cache? layer = some c) (favoured : Signal) :
    Turns layer t m.world c (t.step m.world favoured) := by
  refine Task.turns_step (sound.shaped id t task) hc ?_ ?_
  · intro hr
    obtain ⟨c₁, r, hc₁, hearly, -⟩ := sound.posted id t layer task hr
    rw [hc] at hc₁
    cases hc₁
    exact ⟨r, hearly⟩
  · intro hstopped
    cases hparked : t.control.isParked with
    | true => rfl
    | false =>
        -- whoever is in the middle of its work has not been told to end
        obtain ⟨-, h⟩ := sound.parked id t task hparked
        rw [hstopped] at h
        cases h

/-- What a move makes of the cache at a layer, which stays a cache. -/
theorem layerMove (sound : m.Sound) (move : Move m n) (hc : m.world.cache? layer = some c) :
    ∃ c', n.world.cache? layer = some c' ∧ LayerMove layer m c n c' := by
  cases move with
  | @advance id favoured running =>
      cases task : m.tasks[id]? with
      | none =>
          refine ⟨c, ?_, .rest ?_ ?_ (Or.inl rfl) ?_⟩
          · simpa [Machine.advance, task] using hc
          · simp [active?, running, task]
          · simp [Machine.advance, task]
          · simpa [Machine.advance, task] using Instant.le_refl m.world.now
      | some t =>
          obtain ⟨c₁, hc₁, turn⟩ := sound.turns task hc favoured
          have facts := advanced favoured task
          have now := now_advance favoured task
          rcases facts.cache layer c₁ hc₁ with hn | ⟨ended, hn⟩
          · exact ⟨c₁, hn, .turn running task turn Task.same_step facts.tasks facts.running
              facts.parked (Or.inl rfl) now⟩
          · exact ⟨c₁.told, hn, .turn running task turn Task.same_step facts.tasks facts.running
              facts.parked (Or.inr ⟨ended, rfl⟩) now⟩
  | resume idle ready => 
      exact ⟨c, hc, .rest (active?_of_idle idle) rfl (Or.inl rfl) (Instant.le_refl _)⟩
  | @arrive request idle foreground =>
      exact ⟨c, (World.cache?_wake m.world _ layer).trans hc,
        .arrive idle foreground rfl rfl (World.now_wake m.world _)⟩
  | pass instant idle =>
      refine ⟨c, (cache?_passTo m instant layer).trans hc,
        .rest (active?_of_idle idle) rfl (Or.inl rfl) ?_⟩
      rw [now_passTo]
      exact Instant.le_latest_left _ _
  | drop idle =>
      have now : m.drop.world.now = m.world.now :=
        (leads_reclaim { m with dropped := true } 0).now
      have htasks : m.drop.tasks = m.tasks := tasks_reclaim _
      have hle : m.world.now ≤ m.drop.world.now := by
        rw [now]
        exact Instant.le_refl _
      rcases cache?_reclaim (m := { m with dropped := true }) hc with h | h
      · exact ⟨c, h, .rest (active?_of_idle idle) htasks (Or.inl rfl) hle⟩
      · exact ⟨c.told, h, .rest (active?_of_idle idle) htasks (Or.inr rfl) hle⟩

/-- A task after a move is one from before it, perhaps after a step, or a new one. -/
theorem Move.task {i : Nat} {x : Task V C} (move : Move m n) (h : n.tasks[i]? = some x) :
    (∃ t, m.tasks[i]? = some t ∧ t.Same x ∧ (t.Shaped → x.Shaped)) ∨
      ∃ request, x = Task.fresh i request ∧ request.isWork = false := by
  have hkeep : m.tasks[i]? = some x →
      ∃ t, m.tasks[i]? = some t ∧ t.Same x ∧ (t.Shaped → x.Shaped) := fun h =>
    ⟨x, h, ⟨rfl, rfl⟩, fun hx => hx⟩
  cases move with
  | @advance id favoured running =>
      left
      cases task : m.tasks[id]? with
      | none =>
          apply hkeep
          simpa [Machine.advance, task] using h
      | some t =>
          rw [(advanced favoured task).tasks] at h
          rcases getElem?_set_cases h with ⟨rfl, rfl⟩ | ⟨-, h⟩
          · exact ⟨t, task, Task.same_step, Task.shaped_step⟩
          · exact hkeep h
  | resume => exact Or.inl (hkeep h)
  | @arrive request idle foreground =>
      rcases getElem?_snoc h with h | ⟨rfl, rfl⟩
      · exact Or.inl (hkeep h)
      · exact Or.inr ⟨request, rfl, foreground⟩
  | pass => exact Or.inl (hkeep h)
  | drop =>
      left
      apply hkeep
      rw [← h]
      exact congrArg (·[i]?) (tasks_reclaim { m with dropped := true }).symm

/-- While a task runs, the move is its step. -/
theorem Move.of_running {id : TaskId} (move : Move m n) (running : m.running = some id) :
    ∃ favoured, n = m.advance favoured id := by
  cases move with
  | @advance id' favoured running' =>
      rw [running] at running'
      cases running'
      exact ⟨favoured, rfl⟩
  | resume idle | arrive idle | pass _ idle | drop idle => exact absurd running (by simp [idle])

/-- A worker that makes a step and goes on has not been told to end. -/
theorem Sound.not_stopped {id : TaskId} {t : Task V C} (sound : m.Sound) (favoured : Signal)
    (task : m.tasks[id]? = some t)
    (unparked : (t.step m.world favoured).2.control.isParked = false) :
    (t.step m.world favoured).2.isStopped (m.advance favoured id).world = false := by
  have facts := advanced favoured task
  have hsame : t.Same (t.step m.world favoured).2 := Task.same_step
  rw [Task.isStopped]
  rw [hsame.2]
  split
  next layer hr =>
    obtain ⟨c, r, hc, hearly, -⟩ := sound.posted id t layer task hr
    have hgoing : t.isStopped m.world = false := by
      cases hstopped : t.isStopped m.world with
      | false => rfl
      | true =>
          -- a worker that has been told to end would have ended with the step
          have hstep : t.step m.world favoured = t.abandon m.world layer := by
            simp only [Task.step, hr, hstopped]
          rw [hstep] at unparked
          exact absurd unparked (by simp [Task.abandon, Task.retire, Task.finish, Task.goto,
            Control.isParked, Control.isWaiting])
    simp only [Task.isStopped, hr, World.early?_eq m.world hc, hearly, Option.any_some] at hgoing
    obtain ⟨c₁, hc₁, turn⟩ := sound.turns task hc favoured
    rcases facts.cache layer c₁ hc₁ with hn | ⟨ended, hn⟩
    · -- the step of a worker tells nobody to end
      have hstopped := turn.stopped (by rw [hr]; exact Request.noConfusion)
      rw [hearly, Option.map_some, Option.map_eq_some_iff] at hstopped
      obtain ⟨r₁, hr₁, heq⟩ := hstopped
      rw [World.early?_eq _ hn, hr₁, Option.any_some, heq, hgoing]
    · rw [ended_of_hasEnded ended] at unparked
      cases unparked
  next => rfl

/-- No move goes back in time. -/
theorem Move.now_le (move : Move m n) : m.world.now ≤ n.world.now := by
  cases move with
  | @advance id favoured running =>
      cases task : m.tasks[id]? with
      | none => simpa [Machine.advance, task] using Instant.le_refl m.world.now
      | some t =>
          rw [now_advance favoured task]
          exact Instant.le_refl _
  | resume => exact Instant.le_refl _
  | arrive =>
      rw [Machine.spawn, World.now_wake]
      exact Instant.le_refl _
  | pass instant =>
      rw [now_passTo]
      exact Instant.le_latest_left _ _
  | drop =>
      rw [Machine.drop, (leads_reclaim { m with dropped := true } 0).now]
      exact Instant.le_refl _

/-- No move puts a second task in the middle of its work, or one that has been told to end. -/
theorem Sound.parked_move (sound : m.Sound) (move : Move m n) {i : Nat} {x : Task V C}
    (h : n.tasks[i]? = some x) (unparked : x.control.isParked = false) :
    n.running = some i ∧ x.isStopped n.world = false := by
  cases move with
  | @advance id favoured running =>
      cases task : m.tasks[id]? with
      | none =>
          have hm : m.tasks[i]? = some x := by simpa [Machine.advance, task] using h
          obtain ⟨hrunning, -⟩ := sound.parked i x hm unparked
          rw [running] at hrunning
          cases hrunning
          rw [task] at hm
          cases hm
      | some t =>
          have facts := advanced favoured task
          rw [facts.tasks] at h
          rcases getElem?_set_cases h with ⟨rfl, rfl⟩ | ⟨hne, h⟩
          · refine ⟨?_, sound.not_stopped favoured task unparked⟩
            rcases facts.running with hnone | hsome
            · rw [facts.parked (by simp [hnone])] at unparked
              cases unparked
            · exact hsome
          · -- the one that makes a step is the only one in the middle of its work
            obtain ⟨hrunning, -⟩ := sound.parked i x h unparked
            rw [running] at hrunning
            exact absurd (Option.some.inj hrunning).symm hne
  | resume idle ready =>
      rw [sound.idle idle h] at unparked
      cases unparked
  | @arrive request idle foreground =>
      rcases getElem?_snoc h with hx | ⟨rfl, rfl⟩
      · rw [sound.idle idle hx] at unparked
        cases unparked
      · cases unparked
  | pass instant idle =>
      rw [sound.idle idle h] at unparked
      cases unparked
  | drop idle =>
      have hx : m.tasks[i]? = some x := by
        rw [← h]
        exact congrArg (·[i]?) (tasks_reclaim { m with dropped := true }).symm
      rw [sound.idle idle hx] at unparked
      cases unparked

/-- Every move keeps the tasks in order. -/
theorem sound_move (sound : m.Sound) (move : Move m n) : n.Sound where
  ids i x h := by
    rcases move.task h with ⟨t, ht, same, -⟩ | ⟨request, rfl, -⟩
    · exact same.1.trans (sound.ids i t ht)
    · rfl
  shaped i x h := by
    rcases move.task h with ⟨t, ht, -, shaped⟩ | ⟨request, rfl, -⟩
    · exact shaped (sound.shaped i t ht)
    · rfl
  posted i x layer h hr := by
    rcases move.task h with ⟨t, ht, same, -⟩ | ⟨request, rfl, foreground⟩
    · obtain ⟨c, r, hc, hearly, hworker⟩ := sound.posted i t layer ht (same.2.symm.trans hr)
      obtain ⟨c', hc', next⟩ := layerMove sound move hc
      obtain ⟨r', hr', -, -, hworker'⟩ := next.kept.early hearly
      exact ⟨c', r', hc', hr', hworker'.trans hworker⟩
    · have hwork : request = .work layer := hr
      rw [hwork] at foreground
      cases foreground
  parked _ _ h unparked := sound.parked_move move h unparked
  clock := Instant.le_trans sound.clock move.now_le

/-- What every move keeps of the machine and the cache at a layer, every run keeps. -/
theorem Reaches.invariant {P : Machine V σ C → Cache V → Prop}
    (keeps : ∀ (m n : Machine V σ C) (c c' : Cache V), m.Sound → m.world.cache? layer = some c →
      Move m n → LayerMove layer m c n c' → P m c → P n c')
    (run : Reaches m n) (sound : m.Sound) (hc : m.world.cache? layer = some c) (h : P m c) :
    ∃ c', n.world.cache? layer = some c' ∧ P n c' := by
  induction run generalizing c with
  | refl m => exact ⟨c, hc, h⟩
  | @step m k n move _ ih =>
      obtain ⟨c₁, hc₁, next⟩ := layerMove sound move hc
      exact ih (sound_move sound move) hc₁ (keeps m k c c₁ sound hc move next h)

/-- A cache stays a cache, with its settings and its worker, and time passes. -/
theorem reaches_cache (sound : m.Sound) (run : Reaches m n) (hc : m.world.cache? layer = some c) :
    ∃ c', n.world.cache? layer = some c' ∧ c.Kept c' ∧ m.world.now ≤ n.world.now := by
  refine run.invariant (P := fun k d => c.Kept d ∧ m.world.now ≤ k.world.now) ?_ sound hc
    ⟨.refl c, Instant.le_refl _⟩
  rintro k l d d' - - - next ⟨kept, now⟩
  exact ⟨kept.trans next.kept, Instant.le_trans now next.now_le⟩

theorem sound_reaches (sound : m.Sound) (run : Reaches m n) : n.Sound := by
  induction run with
  | refl => exact sound
  | step move _ ih => exact ih (sound_move sound move)

end Moves

end Machine

end CredentialSupply
