import CredentialSupply.Proofs.Built

set_option autoImplicit false

/-!
# The lock and the stages of the tasks

The parties of the lock of a cache are the tasks that have asked for it and not gone, each
once, and a task that acts as the holder is the holder. `LockStep` says how the lock follows
the stage of the task that makes a step, and `queued_reaches` that the lock and the stages
agree in every run.
-/

namespace CredentialSupply

variable {V σ C : Type}

/-- How the lock of a cache goes from `l` to `l'` when a task goes from one stage to another. -/
inductive LockStep (id : TaskId) (s s' : Stage) (l l' : Lock) : Prop where
  /-- The task neither comes nor goes. -/
  | stay (lock : l' = l) (engaged : s'.isEngaged = s.isEngaged)
      (owner : s'.isOwner = true → s.isOwner = true ∨ l.holder = some id)
  /-- The task asks for the lock. -/
  | join (apart : s.isEngaged = false) (engaged : s'.isEngaged = true) (lock : l' = l.ask id)
      (owner : s'.isOwner = (l.ask id).isHeldBy id)
  /-- The task, as the holder, releases the lock. -/
  | release (owner : s.isOwner = true) (apart : s'.isEngaged = false) (lock : l' = l.release)
  /-- The task is taken out of the lock. -/
  | withdraw (engaged : s.isEngaged = true) (apart : s'.isEngaged = false)
      (lock : l' = l.withdraw id)

namespace Stage

theorem isEngaged_of_isOwner {s : Stage} (h : s.isOwner = true) : s.isEngaged = true := by
  cases s <;> first | rfl | cases h

end Stage

/-- A task that stays outside the cache leaves the lock. -/
theorem LockStep.aside {id : TaskId} {s s' : Stage} {l l' : Lock} (away : s = .away) (lock : l' = l)
    (apart : s'.isEngaged = false) : LockStep id s s' l l' := by
  refine .stay lock ?_ ?_
  · rw [away, apart]
    rfl
  · intro owner
    rw [Stage.isEngaged_of_isOwner owner] at apart
    cases apart

namespace Task

variable {t : Task V C} {layer : Nat}

theorem around_of_nested {depth : Nat} (h : Nested t.request depth t.frames)
    (hlt : 2 * layer < depth) : t.around layer = .away :=
  around_eq_away (Nested.not_isLoad h hlt)

/-- A task that is about to enter a cache has no inner call of that cache in flight. -/
theorem around_of_enter (shaped : t.Shaped) {force : Bool}
    (control : t.control = .enter (layer + 1) force) : t.around layer = .away := by
  unfold Shaped at shaped
  rw [control] at shaped
  exact around_of_nested shaped (by omega)

theorem stage_of_enter (shaped : t.Shaped) {force : Bool}
    (control : t.control = .enter (layer + 1) force) : t.stage layer = .away := by
  rw [stage_eq_around layer (by simp [control])]
  exact around_of_enter shaped control

/-- A task between its lookup and its inner call has no inner call of that cache in flight. -/
theorem around_of_snapshot (shaped : t.Shaped)
    (h : match t.control with
      | .acquire l _ _ => l = layer
      | .queued l _ _ _ => l = layer
      | .locked l _ _ => l = layer
      | _ => False) : t.around layer = .away := by
  unfold Shaped at shaped
  cases control : t.control <;> rw [control] at h shaped <;> first | exact h.elim | skip
  all_goals
    subst h
    exact around_of_nested shaped (by omega)

/-- The frames outside an inner call hold no other inner call of the same cache. -/
theorem around_tail (shaped : t.Shaped) {outcome : Outcome V} {startedAt : Instant}
    {frames : List Frame} (control : t.control = .deliver outcome)
    (head : t.frames = .load layer startedAt :: frames) :
    Task.around { t with frames } layer = .away := by
  apply around_eq_away
  unfold Shaped at shaped
  rw [control] at shaped
  obtain ⟨depth, hn⟩ := shaped
  rw [head] at hn
  exact Nested.not_isLoad hn.2 (by omega)

end Task

section Turn

variable [Perishable V] {layer : Nat} {now : Instant} {t t' : Task V C} {c c' : Cache V}

/-- How the lock follows the task in a turn. -/
theorem Turn.lockStep (shaped : t.Shaped) (h : Turn layer now t c t' c') :
    LockStep t.id (t.stage layer) (t'.stage layer) c.lock c'.lock := by
  cases h with
  | elsewhere acts stage duty =>
      rw [stage]
      exact .stay rfl rfl Or.inl
  -- a lookup is made outside the lock
  | hit control valid noticed =>
      refine .aside (Task.stage_of_enter shaped control) ?_ ?_
      · rcases Cache.noticed?_cases noticed with rfl | ⟨r, -, -, -, rfl⟩ <;> rfl
      · rw [Task.stage_pass, Task.around_of_enter shaped control]
        rfl
  | overrun control =>
      refine .aside (Task.stage_of_enter shaped control) rfl ?_
      rw [Task.stage_pass, Task.around_of_enter shaped control]
      rfl
  | miss control =>
      refine .aside (Task.stage_of_enter shaped control) rfl ?_
      rw [Task.stage_goto_acquire]
      rfl
  | seize control held =>
      refine .join ?_ ?_ rfl ?_
      · rw [Task.stage_of_acquire control]
        rfl
      · rw [Task.stage_goto_locked]
        rfl
      · simp [Stage.isOwner, held]
  | queue control held =>
      refine .join ?_ ?_ rfl ?_
      · rw [Task.stage_of_acquire control]
        rfl
      · rw [Task.stage_goto_queued]
        rfl
      · simp [Stage.isOwner, held]
  | receive control held =>
      refine .stay rfl ?_ fun _ => Or.inr ((Lock.isHeldBy_iff _ _).1 held)
      rw [Task.stage_goto_locked, Task.stage_of_queued control]
      rfl
  | giveUp control held due =>
      have hs : t.around layer = .away := Task.around_of_snapshot shaped (by simp [control])
      refine .withdraw ?_ ?_ ?_
      · rw [Task.stage_of_queued control]
        rfl
      · rw [Task.stage_pass, hs]
        rfl
      · simp [Lock.withdraw, held]
  | adopt control newer =>
      have hs : t.around layer = .away := Task.around_of_snapshot shaped (by simp [control])
      refine .release ?_ ?_ rfl
      · rw [Task.stage_of_locked control]
        rfl
      · rw [Task.stage_pass, hs]
        rfl
  | load control same =>
      refine .stay rfl ?_ fun _ => Or.inl ?_
      · rw [Task.stage_push_load, Task.stage_of_locked control]
        rfl
      · rw [Task.stage_of_locked control]
        rfl
  -- whatever becomes of an inner call, it gives up the lock
  | install control head | fail control head | crash control head =>
      refine .release (by rw [Task.stage_of_load control head]; rfl) ?_ rfl
      rw [Task.stage_pass, Task.around_tail shaped control head]
      rfl
  -- a worker has its duties outside
  | tend attends early worker claimed jobs accepting attends' =>
      exact .aside (attends.outside layer).1 rfl (by rw [(attends'.outside layer).1]; rfl)
  | takeJob attends =>
      exact .aside (attends.outside layer).1 rfl (by simp [Task.stage, Task.push, Stage.isEngaged])
  | fire attends =>
      exact .aside (attends.outside layer).1 rfl (by simp [Task.stage, Task.push, Stage.isEngaged])
  | succeed control frames duty attends' =>
      refine .aside (Task.stage_of_duty control frames duty) rfl ?_
      rw [(attends'.outside layer).1]
      rfl
  | forgo control frames duty attends' =>
      refine .aside (Task.stage_of_duty control frames (Option.isSome_of_mem duty)) rfl ?_
      rw [(attends'.outside layer).1]
      rfl
  | retire request away early worker jobs accepting frames' ended =>
      refine .aside away rfl ?_
      rw [Task.stage_of_hasEnded frames' ended]
      rfl
  | abandon request parked =>
      have hs' : (Task.goto { t with frames := [] } (.ended .nothing now)).stage layer = .away :=
        Task.stage_eq_away_of_nil rfl rfl
      rw [hs']
      cases hengaged : (t.stage layer).isEngaged with
      | true => exact .withdraw hengaged rfl (by simp)
      | false => exact .stay (by simp) hengaged.symm fun h => by cases h
  | tell request frames control frames' idle =>
      refine .aside (Task.stage_eq_away_of_nil frames (by simp [control])) rfl ?_
      rw [Task.stage_of_resting frames' idle]
      rfl

end Turn

/-- What follows for the lock and its parties, when they fit the stage of the task before. -/
structure LockStep.Facts (id : TaskId) (s' : Stage) (l l' : Lock) : Prop where
  proper : l'.Proper
  nodup : l'.parties.Nodup
  mem : id ∈ l'.parties ↔ s'.isEngaged = true
  others : ∀ i, i ≠ id → (i ∈ l'.parties ↔ i ∈ l.parties)
  owner : s'.isOwner = true → l'.holder = some id
  holder : ∀ i, i ≠ id → l.holder = some i → l'.holder = some i

theorem LockStep.facts {id : TaskId} {s s' : Stage} {l l' : Lock} (h : LockStep id s s' l l')
    (proper : l.Proper) (nodup : l.parties.Nodup) (mem : id ∈ l.parties ↔ s.isEngaged = true)
    (owner : s.isOwner = true → l.holder = some id) : LockStep.Facts id s' l l' := by
  -- a task that is not engaged is no owner
  have hidle : s'.isEngaged = false → s'.isOwner = true → l'.holder = some id := by
    intro hapart howner
    rw [Stage.isEngaged_of_isOwner howner] at hapart
    cases hapart
  -- the holder that releases the lock is taken out of it
  have herase : (l.withdraw id).parties.Nodup ∧ id ∉ (l.withdraw id).parties ∧
      ∀ i, i ≠ id → (i ∈ (l.withdraw id).parties ↔ i ∈ l.parties) := by
    rw [Lock.parties_withdraw]
    exact ⟨nodup.erase id, nodup.not_mem_erase, fun i hi => List.mem_erase_of_ne hi⟩
  cases h with
  | stay lock engaged howner =>
      subst lock
      refine ⟨proper, nodup, by rw [engaged]; exact mem, fun _ _ => Iff.rfl, ?_, fun _ _ h => h⟩
      intro h
      rcases howner h with h | h
      · exact owner h
      · exact h
  | join apart engaged lock howner =>
      subst lock
      have hnot : id ∉ l.parties := fun h => by
        rw [mem.1 h] at apart
        cases apart
      have hparties := Lock.parties_ask proper id
      refine ⟨Lock.proper_ask id, ?_, ?_, ?_, ?_, ?_⟩
      · rw [hparties]
        refine List.nodup_append.2 ⟨nodup, by simp, ?_⟩
        intro a ha b hb hab
        rw [List.mem_singleton] at hb
        rw [hab, hb] at ha
        exact hnot ha
      · rw [hparties, engaged]
        simp
      · intro i hi
        rw [hparties]
        simp [hi]
      · intro h
        rw [howner] at h
        exact (Lock.isHeldBy_iff _ _).1 h
      · intro i hi hholder
        rw [Lock.ask]
        rw [hholder]
  | release howner apart lock =>
      have hheld := owner howner
      have hwithdraw : l.release = l.withdraw id := by
        rw [Lock.withdraw, if_pos ((Lock.isHeldBy_iff l id).2 hheld)]
      rw [lock] at hidle ⊢
      rw [hwithdraw] at hidle ⊢
      refine ⟨Lock.proper_withdraw proper id, herase.1, ?_, herase.2.2, hidle apart, ?_⟩
      · rw [apart]
        exact ⟨fun h => absurd h herase.2.1, fun h => by cases h⟩
      · intro i hi hholder
        rw [hheld] at hholder
        exact absurd (Option.some.inj hholder).symm hi
  | withdraw engaged apart lock =>
      rw [lock] at hidle ⊢
      refine ⟨Lock.proper_withdraw proper id, herase.1, ?_, herase.2.2, hidle apart, ?_⟩
      · rw [apart]
        exact ⟨fun h => absurd h herase.2.1, fun h => by cases h⟩
      · intro i hi hholder
        have hnot : l.isHeldBy id = false := by
          simp [Lock.isHeldBy, hholder, hi]
        rw [Lock.withdraw, hnot]
        exact hholder

namespace Machine

/-- The lock of a cache and the stages of the tasks agree. -/
structure Queued (layer : Nat) (m : Machine V σ C) (l : Lock) : Prop where
  proper : l.Proper
  nodup : l.parties.Nodup
  engaged : ∀ i, i ∈ l.parties ↔ ∃ t, m.tasks[i]? = some t ∧ (t.stage layer).isEngaged = true
  owner : ∀ i t, m.tasks[i]? = some t → (t.stage layer).isOwner = true → l.holder = some i

theorem Queued.joined {layer : Nat} {m n : Machine V σ C} {l : Lock} (queued : Queued layer m l)
    (joined : Joined m n) : Queued layer n l := by
  refine ⟨queued.proper, queued.nodup, ?_, ?_⟩
  · intro i
    rw [queued.engaged i]
    constructor
    · rintro ⟨t, ht, h⟩
      exact ⟨t, joined.kept i t ht, h⟩
    · rintro ⟨t, ht, h⟩
      rcases joined.task_or_away ht layer with hm | haway
      · exact ⟨t, hm, h⟩
      · rw [haway] at h
        cases h
  · intro i t ht h
    rcases joined.task_or_away ht layer with hm | haway
    · exact queued.owner i t hm h
    · rw [haway] at h
      cases h

theorem Fresh.queued {layer : Nat} {m : Machine V σ C} {c : Cache V} (fresh : m.Fresh)
    (hc : m.world.cache? layer = some c) : Queued layer m c.lock := by
  have hlock : c.lock = Lock.free := congrArg Cache.lock (fresh.caches layer c hc).eq_empty
  rw [hlock]
  refine ⟨Lock.proper_free, List.nodup_nil, ?_, ?_⟩
  · intro i
    constructor
    · intro h
      cases h
    · rintro ⟨t, ht, h⟩
      rw [(fresh.outside ht layer).1] at h
      cases h
  · intro i t ht h
    rw [(fresh.outside ht layer).1] at h
    cases h

section Moves

variable [Perishable V] {layer : Nat} {m n : Machine V σ C} {c c' : Cache V}

theorem Queued.move (queued : Queued layer m c.lock) (sound : m.Sound)
    (move : LayerMove layer m c n c') : Queued layer n c'.lock := by
  cases move with
  | @turn id t t' c₁ running task turn same tasks running' parked told now =>
      have hid : t.id = id := sound.ids id t task
      have hlock : c'.lock = c₁.lock := by
        rcases told with rfl | ⟨-, rfl⟩ <;> rfl
      -- the parties fit the stage that the task had, so they fit the one that it has now
      have hself : ∀ x : Task V C, m.tasks[id]? = some x → x = t := by
        intro x hx
        rw [task] at hx
        exact (Option.some.inj hx).symm
      have hmem : id ∈ c.lock.parties ↔ (t.stage layer).isEngaged = true := by
        rw [queued.engaged id]
        constructor
        · rintro ⟨x, hx, h⟩
          rw [← hself x hx]
          exact h
        · exact fun h => ⟨t, task, h⟩
      have step := turn.lockStep (sound.shaped id t task)
      rw [hid] at step
      have facts := step.facts queued.proper queued.nodup hmem (queued.owner id t task)
      rw [hlock]
      refine ⟨facts.proper, facts.nodup, ?_, ?_⟩
      · intro i
        by_cases hi : i = id
        · subst hi
          rw [facts.mem, tasks, getElem?_set_some t' task]
          simp
        · rw [facts.others i hi, queued.engaged i, tasks, List.getElem?_set_ne (Ne.symm hi)]
      · intro i x hx howner
        rw [tasks] at hx
        rcases getElem?_set_cases hx with ⟨rfl, rfl⟩ | ⟨hi, hx⟩
        · exact facts.owner howner
        · exact facts.holder i hi (queued.owner i x hx howner)
  | arrive idle foreground tasks cache now =>
      rw [cache]
      exact queued.joined (joined_of_arrive tasks)
  | rest active tasks cache now =>
      have hlock : c'.lock = c.lock := by
        rcases cache with rfl | rfl <;> rfl
      rw [hlock]
      exact queued.joined (joined_of_same tasks)

/-- In every run the lock and the stages of the tasks agree. -/
theorem queued_reaches [Source σ V C] (sound : m.Sound) (hc : m.world.cache? layer = some c)
    (queued : Queued layer m c.lock) (run : Reaches m n) :
    ∃ c', n.world.cache? layer = some c' ∧ Queued layer n c'.lock := by
  refine run.invariant (P := fun k d => Queued layer k d.lock) ?_ sound hc queued
  intro k l d d' soundk _ _ next queuedk
  exact queuedk.move soundk next

end Moves

end Machine

end CredentialSupply
