import CredentialSupply.Proofs.Freshness
import CredentialSupply.Proofs.SingleFlight

set_option autoImplicit false

/-!
# Fetches that fail

A fetch at a cache may fail with its inner call, after too long a wait for the lock, or because the
entry that it finds in the end has expired. What it leaves in the cache is followed from its first
step (`Task.SetsOut`) to its last one: another task may install an entry meanwhile, and the fetch
itself installs one only with that last step, where the value of its inner call has expired before
it came (`Underway.move`, `failed_fetch_keeps_entry`). An entry that nothing replaces is served
until it expires (`Turn.hits`).
-/

namespace CredentialSupply

variable {V σ C : Type}

/-- The task is about to make a fetch at the cache `c` with the snapshot `seen`: it is about to look
it up, or to ask for its lock. -/
def Task.SetsOut (layer : Nat) (c : Cache V) (t : Task V C) (seen : Nat) : Prop :=
  (∃ force, t.control = .enter (layer + 1) force) ∧ seen = c.generation ∨
    ∃ force, t.control = .acquire layer seen force

section Turn

variable [Perishable V] {layer : Nat} {now : Instant} {t t' : Task V C} {c c' : Cache V}

/-- With the end of its inner call a task leaves the cache. -/
theorem Turn.leaves {outcome : Outcome V} (h : Turn layer now t c t' c') (shaped : t.Shaped)
    (ended : t.innerOutcome? layer = some outcome) : ¬ t'.IsInside layer := by
  obtain ⟨acts, loading⟩ := Task.ActsOn.of_innerOutcome? ended
  -- where the control hands on no outcome, no call has ended
  have hcontrol : (∀ outcome, t.control ≠ .deliver outcome) → ¬ t'.IsInside layer := by
    intro h
    rw [Task.innerOutcome?_eq_none h] at ended
    cases ended
  have hsingle : ∀ {f : Frame}, t.frames = [f] → f.isLoad layer = false → ¬ t'.IsInside layer := by
    intro f frames hload
    rw [Task.innerOutcome?_of_single frames hload] at ended
    cases ended
  cases h with
  | elsewhere acts' => exact absurd acts acts'
  | install control head => exact Task.not_isInside_pass _ (Task.around_tail shaped control head)
  | fail control head => exact Task.not_isInside_pass _ (Task.around_tail shaped control head)
  | crash control head => exact Task.not_isInside_pass _ (Task.around_tail shaped control head)
  | hit control | overrun control | miss control | seize control | queue control
  | receive control | giveUp control | adopt control | load control =>
      exact hcontrol (by simp [control])
  | tend attends | takeJob attends | fire attends =>
      exact hcontrol fun _ => attends.not_deliver
  | succeed control frames duty => exact hsingle frames (Frame.isLoad_of_duty? duty)
  | forgo control frames duty =>
      exact hsingle frames (Frame.isLoad_of_duty? (Option.isSome_of_mem duty))
  | retire request away =>
      rw [loading] at away
      cases away
  | abandon request parked =>
      apply hcontrol
      cases hc : t.control <;> simp_all [Control.isParked, Control.isWaiting]
  | tell request frames control => exact hcontrol (by simp [control])

end Turn

namespace Machine

/-- The inner call of the cache `c` at a layer that ends with the next step was made by a task, and
its value makes the entry. -/
def Yields [Perishable V] (layer : Nat) (m : Machine V σ C) (c : Cache V) (id : TaskId)
    (e : Entry V) : Prop :=
  ∃ v, innerEnd? layer m = some ⟨id, .value v, m.world.now⟩ ∧
    c.settings.lifetime.entry? v m.world.now = some e

section Moves

variable [Perishable V] {layer : Nat} {m n : Machine V σ C} {c c' : Cache V}

/-- An inner call that yields an entry has succeeded. -/
theorem Yields.success {id : TaskId} {e : Entry V}
    {moves : List (Machine V σ C × Machine V σ C)} (h : Yields layer m c id e)
    (mem : (m, n) ∈ moves) : successes layer moves ≠ [] := by
  obtain ⟨v, ended, -⟩ := h
  apply List.ne_nil_of_mem (a := (v, m.world.now))
  exact List.mem_filterMap.2 ⟨_, List.mem_filterMap.2 ⟨_, mem, ended⟩, rfl⟩

omit [Perishable V] in
theorem innerEnd?_of_running {id : TaskId} {t : Task V C} (sound : m.Sound)
    (running : m.running = some id) (task : m.tasks[id]? = some t) :
    innerEnd? layer m = (t.innerOutcome? layer).map fun outcome => ⟨id, outcome, m.world.now⟩ := by
  rw [innerEnd?, active?_of_running running task, Option.bind_some, sound.ids id t task]

/-- A move leaves the entry, or installs the one that an inner call yields. -/
theorem LayerMove.entry_cases (h : LayerMove layer m c n c') (sound : m.Sound) :
    (c'.entry = c.entry ∧ c'.generation = c.generation) ∨
      ∃ id e, m.running = some id ∧ Yields layer m c id e ∧ c'.entry = some e ∧
        c'.generation = c.generation + 1 := by
  cases h with
  | @turn id t t' c₁ running task turn same tasks running' parked told now =>
      have htold : c'.entry = c₁.entry ∧ c'.generation = c₁.generation := by
        rcases told with rfl | ⟨-, rfl⟩ <;> exact ⟨rfl, rfl⟩
      rw [htold.1, htold.2]
      rcases turn.entry_cases with ⟨hentry, hgeneration, -⟩ |
        ⟨v, e, houtcome, stamp, hentry, hgeneration⟩
      · exact Or.inl ⟨hentry, hgeneration⟩
      · refine Or.inr ⟨id, e, running, ⟨v, ?_, stamp⟩, hentry, hgeneration⟩
        rw [innerEnd?_of_running sound running task, houtcome]
        rfl
  | arrive idle foreground tasks cache now =>
      subst cache
      exact Or.inl ⟨rfl, rfl⟩
  | rest active tasks cache now => rcases cache with rfl | rfl <;> exact Or.inl ⟨rfl, rfl⟩

end Moves

/-! ## A fetch from its first step on -/

/-- What a fetch at a cache knows and leaves that set out with the snapshot `seen` when the cache
was `c₀`: it has seen no earlier generation, and the entry is the one from then, or one that another
task has installed since. -/
structure Underway [Perishable V] (layer : Nat) (id : TaskId) (seen : Nat) (c₀ : Cache V)
    (moves : List (Machine V σ C × Machine V σ C)) (m : Machine V σ C) (c : Cache V) : Prop where
  kept : c₀.Kept c
  snapshot : ∀ t s, m.tasks[id]? = some t → (t.stage layer).seen? = some s → seen ≤ s
  generation : seen ≤ c.generation
  entry : (c.entry = c₀.entry ∧ c.generation = c₀.generation) ∨
    ∃ k l j e, (k, l) ∈ moves ∧ j ≠ id ∧ Yields layer k c₀ j e ∧ c.entry = some e

section Attempt

variable [Source σ V C] [Perishable V] {layer seen : Nat} {id : TaskId} {m₀ m n : Machine V σ C}
  {c₀ c c' : Cache V} {moves : List (Machine V σ C × Machine V σ C)}

omit [Source σ V C] in
/-- A fetch sets out with no later generation than that of the cache. -/
theorem underway_of_setsOut {t : Task V C} (sound : m.Sound) (remembering : Remembering layer m c)
    (task : m.tasks[id]? = some t) (setsOut : t.SetsOut layer c seen) :
    Underway layer id seen c [] m c := by
  refine ⟨.refl c, ?_, ?_, Or.inl ⟨rfl, rfl⟩⟩
  · intro t' s task' hs
    rw [task] at task'
    cases task'
    rcases setsOut with ⟨⟨force, control⟩, rfl⟩ | ⟨force, control⟩
    · rw [Task.stage_of_enter (sound.shaped id t task) control] at hs
      cases hs
    · rw [Task.stage_of_acquire control] at hs
      cases hs
      exact Nat.le_refl _
  · rcases setsOut with ⟨-, rfl⟩ | ⟨force, control⟩
    · exact Nat.le_refl _
    · exact remembering.tasks id t seen task (by rw [Task.stage_of_acquire control]; rfl)

omit [Source σ V C] in
theorem Underway.move (h : Underway layer id seen c₀ moves m c) (sound : m.Sound)
    (next : LayerMove layer m c n c') (inside : ∃ t, m.tasks[id]? = some t ∧ t.IsInside layer)
    (inside' : ∃ t, n.tasks[id]? = some t ∧ t.IsInside layer) :
    Underway layer id seen c₀ (moves ++ [(m, n)]) n c' := by
  obtain ⟨t, task, hinside⟩ := inside
  obtain ⟨t', task', hinside'⟩ := inside'
  have hentry := next.entry_cases sound
  refine ⟨h.kept.trans next.kept, ?_, ?_, ?_⟩
  · intro x s hx hs
    rw [task'] at hx
    cases hx
    rcases next.task_cases task task' with rfl | ⟨-, c₁, turn⟩
    · exact h.snapshot t' s task hs
    · rcases turn.seen_cases hs with hold | rfl | ⟨attends, -⟩
      · exact h.snapshot t s task hold
      · exact h.generation
      · exact absurd hinside attends.not_isInside
  · refine Nat.le_trans h.generation ?_
    rcases hentry with ⟨-, hgeneration⟩ | ⟨j, e, -, -, -, hgeneration⟩ <;> omega
  · rcases hentry with ⟨hentry, hgeneration⟩ | ⟨j, e, running, yields, hentry, -⟩
    · rw [hentry, hgeneration]
      rcases h.entry with hsame | ⟨k, l, j, e, hmem, hother, yields, hinstalled⟩
      · exact Or.inl hsame
      · exact Or.inr ⟨k, l, j, e, List.mem_append_left _ hmem, hother, yields, hinstalled⟩
    · right
      obtain ⟨v, ended, stamp⟩ := yields
      refine ⟨m, n, j, e, List.mem_append_right _ List.mem_cons_self, ?_, ⟨v, ended, ?_⟩, hentry⟩
      · -- whoever has installed an entry is inside no more
        rintro rfl
        rw [innerEnd?_of_running sound running task] at ended
        obtain ⟨outcome, houtcome, -⟩ := Option.map_eq_some_iff.1 ended
        obtain ⟨s, c₁, turn, -, hs, -⟩ := next.of_running running task
        rw [task'] at hs
        cases hs
        exact turn.leaves (sound.shaped j t task) houtcome hinside'
      · rw [← h.kept.settings]
        exact stamp

theorem underway_run (sound : m₀.Sound) (cache : m₀.world.cache? layer = some c₀)
    (start : Underway layer id seen c₀ [] m₀ c₀) (run : Run m₀ moves m)
    (inside : ∀ k l, (k, l) ∈ moves → ∃ t, k.tasks[id]? = some t ∧ t.IsInside layer)
    (last : ∃ t, m.tasks[id]? = some t ∧ t.IsInside layer) :
    ∃ c, m.world.cache? layer = some c ∧ Underway layer id seen c₀ moves m c := by
  -- by induction on the run, as long as the fetch is inside
  induction run with
  | start => exact ⟨c₀, cache, start⟩
  | @move moves m n run step ih =>
      have hm := inside m n (List.mem_append_right _ List.mem_cons_self)
      obtain ⟨c, hc, underway⟩ := ih (fun k l h => inside k l (List.mem_append_left _ h)) hm
      have soundm := sound_reaches sound run.reaches
      obtain ⟨c', hc', next⟩ := layerMove soundm step hc
      exact ⟨c', hc', underway.move soundm next hm last⟩

omit [Source σ V C] in
/-- An entry that stays is the one from the beginning, or one of another task. -/
theorem Underway.stays (h : Underway layer id seen c₀ moves m c) (entry : c'.entry = c.entry)
    (generation : c'.generation = c.generation) :
    (c'.entry = c₀.entry ∧ c'.generation = c₀.generation) ∨
      ∃ k l j e, (k, l) ∈ moves ∧ j ≠ id ∧ Yields layer k c₀ j e ∧ c'.entry = some e := by
  rw [entry, generation]
  exact h.entry

omit [Source σ V C] in
/-- What the last step of a fetch that fails leaves, and why it fails. -/
theorem Underway.fails {f : Failure} (h : Underway layer id seen c₀ moves m c) (sound : m.Sound)
    (remembering : Remembering layer m c) (next : LayerMove layer m c n c')
    (returns : Returns layer m n id (.failed f)) :
    ((c'.entry = c₀.entry ∧ c'.generation = c₀.generation) ∨
      (∃ k l j e, (k, l) ∈ moves ∧ j ≠ id ∧ Yields layer k c₀ j e ∧ c'.entry = some e) ∨
      f = .refreshFailed ∧
        ∃ e, Yields layer m c₀ id e ∧ c'.entry = some e ∧ e.isValid n.world.now = false) ∧
    (innerEnd? layer m = some ⟨id, .failed f, m.world.now⟩ ∨
      f = .refreshTimeout c₀.settings.refreshTimeout ∧ innerEnd? layer m = none ∨
      f = .refreshFailed ∧ seen < c'.generation ∧
        ∃ e, c'.entry = some e ∧ e.isValid n.world.now = false) := by
  obtain ⟨t, t', running, task, inside, task', control', away⟩ := returns
  obtain ⟨s, c₁, turn, -, hs, told, now⟩ := next.of_running running task
  rw [task'] at hs
  cases hs
  have htold : c'.entry = c₁.entry ∧ c'.generation = c₁.generation := by
    rcases told with rfl | ⟨-, rfl⟩ <;> exact ⟨rfl, rfl⟩
  have hinner : innerEnd? layer m =
      (t.innerOutcome? layer).map fun outcome => ⟨id, outcome, m.world.now⟩ :=
    innerEnd?_of_running sound running task
  generalize houtcome : Outcome.failed f = outcome at control'
  -- a fetch that fails gave up, took over or installed an expired entry, or passes a failure on
  cases turn.return inside control' away with
  | giveUp control =>
      cases houtcome
      refine ⟨(h.stays htold.1 htold.2).imp_right Or.inl,
        Or.inr (Or.inl ⟨by rw [h.kept.settings], ?_⟩)⟩
      rw [hinner, Task.innerOutcome?_eq_none (by simp [control])]
      rfl
  | @adopt s force e control newer =>
      obtain ⟨rfl, expired⟩ := Entry.expired_of_outcome houtcome.symm
      obtain ⟨hne, hentry⟩ := Cache.of_replacement? newer
      have hsnapshot : (t.stage layer).seen? = some s := by
        rw [Task.stage_of_locked control]
        rfl
      have hle := h.snapshot t s task hsnapshot
      have hle' := remembering.tasks id t s task hsnapshot
      refine ⟨(h.stays htold.1 htold.2).imp_right Or.inl,
        Or.inr (Or.inr ⟨rfl, ?_, e, htold.1.trans hentry, ?_⟩)⟩
      · have hgeneration : c'.generation = c.generation := htold.2
        omega
      · rw [now]
        exact expired
  | @install v e ended stamp =>
      obtain ⟨rfl, expired⟩ := Entry.expired_of_outcome houtcome.symm
      rw [← now] at expired
      have hyields : Yields layer m c₀ id e := by
        refine ⟨v, by rw [hinner, ended]; rfl, ?_⟩
        rw [← h.kept.settings]
        exact stamp
      refine ⟨Or.inr (Or.inr ⟨rfl, e, hyields, htold.1, expired⟩),
        Or.inr (Or.inr ⟨rfl, ?_, e, htold.1, expired⟩)⟩
      have hgeneration : c'.generation = c.generation + 1 := htold.2
      have hle := h.generation
      omega
  | fail ended =>
      cases houtcome
      refine ⟨(h.stays htold.1 htold.2).imp_right Or.inl, Or.inl ?_⟩
      rw [hinner, ended]
      rfl
  | hit | crash => cases houtcome

/-! ## An entry that nothing replaces -/

/-- The entry stays as long as no inner call succeeds. -/
theorem entry_of_no_success (sound : m₀.Sound) (cache : m₀.world.cache? layer = some c₀)
    (run : Run m₀ moves m) (failing : successes layer moves = []) :
    ∃ c, m.world.cache? layer = some c ∧ c.entry = c₀.entry := by
  induction run with
  | start => exact ⟨c₀, cache, rfl⟩
  | @move moves m n run step ih =>
      have hbefore := failing
      rw [successes_append, List.append_eq_nil_iff] at hbefore
      obtain ⟨c, hc, hentry⟩ := ih hbefore.1
      have soundm := sound_reaches sound run.reaches
      obtain ⟨c', hc', next⟩ := layerMove soundm step hc
      refine ⟨c', hc', ?_⟩
      rcases next.entry_cases soundm with ⟨hsame, -⟩ | ⟨j, e, -, yields, -⟩
      · exact hsame.trans hentry
      · exact absurd failing (yields.success (List.mem_append_right _ List.mem_cons_self))

/-- A fetch that is not forced and finds a valid entry returns it with its first step. -/
theorem returns_of_valid {t : Task V C} {e : Entry V} (sound : m.Sound) (move : Move m n)
    (cache : m.world.cache? layer = some c) (entry : c.entry = some e)
    (valid : e.isValid m.world.now = true)
    (room : ∀ r, c.early = some r → (m.world.now.later? r.window).isSome = true)
    (running : m.running = some id) (task : m.tasks[id]? = some t)
    (control : t.control = .enter (layer + 1) false) : Returns layer m n id (.value e.value) := by
  obtain ⟨favoured, rfl⟩ := move.of_running running
  have hvalid : c.valid? m.world.now = some e := by
    rw [Cache.valid?, entry]
    simp [valid]
  obtain ⟨c', noticed⟩ := Cache.exists_noticed? e room
  rw [advance_of_valid sound running task control cache hvalid noticed favoured]
  have haway : t.around layer = .away := Task.around_of_enter (sound.shaped id t task) control
  exact ⟨t, t.pass (.value e.value), running, task, Or.inl ⟨false, control⟩,
    getElem?_set_some _ task, rfl, haway⟩

/-- A fetch at a cache that fails, forced or not or made by the worker, leaves the entry that it
found, unless another task has installed one meanwhile, or its own inner call has ended with a value
that expired before it came. It fails with its own inner call, after too long a wait for the lock,
or since the entry installed after its snapshot has expired, and no other task learns of it. While
all inner calls fail, the entry is served to whoever looks it up before it expires. -/
theorem failed_fetch_keeps_entry {name : String} {source : σ} {others : List σ}
    {plans : List LayerPlan} {bound : List Bool} {m₁ m₂ : Machine V σ C} {c₁ : Cache V}
    {t₁ : Task V C} {f : Failure} (built : build name source others plans = .ok (bound, m₀))
    (cache : m₀.world.cache? layer = some c₀) (reached : Reaches m₀ m₁)
    (cache₁ : m₁.world.cache? layer = some c₁) (task : m₁.tasks[id]? = some t₁)
    (setsOut : t₁.SetsOut layer c₁ seen) (run : Run m₁ moves m₂)
    (inside : ∀ k l, (k, l) ∈ moves → ∃ t, k.tasks[id]? = some t ∧ t.IsInside layer)
    (move : Move m₂ n) (returns : Returns layer m₂ n id (.failed f)) :
    (∃ c₂, n.world.cache? layer = some c₂ ∧
      ((c₂.entry = c₁.entry ∧ c₂.generation = c₁.generation) ∨
        (∃ k l j e, (k, l) ∈ moves ∧ j ≠ id ∧ Yields layer k c₁ j e ∧ c₂.entry = some e) ∨
        f = .refreshFailed ∧
          ∃ e, Yields layer m₂ c₁ id e ∧ c₂.entry = some e ∧ e.isValid n.world.now = false) ∧
      (innerEnd? layer m₂ = some ⟨id, .failed f, m₂.world.now⟩ ∨
        f = .refreshTimeout c₁.settings.refreshTimeout ∧ innerEnd? layer m₂ = none ∨
        f = .refreshFailed ∧ seen < c₂.generation ∧
          ∃ e, c₂.entry = some e ∧ e.isValid n.world.now = false)) ∧
    (∀ j, j ≠ id → n.tasks[j]? = m₂.tasks[j]?) ∧
    ∀ later k l i e t, Run m₁ later k → successes layer later = [] → c₁.entry = some e →
      Move k l → e.isValid k.world.now = true →
      (∀ c r, k.world.cache? layer = some c → c.early = some r →
        (k.world.now.later? r.window).isSome = true) →
      k.running = some i → k.tasks[i]? = some t → t.control = .enter (layer + 1) false →
      Returns layer k l i (.value e.value) := by
  have fresh := fresh_of_build built
  have sound₁ := sound_reaches fresh.sound reached
  have sound₂ := sound_reaches sound₁ run.reaches
  obtain ⟨d₁, hd₁, remembering₁, -⟩ :=
    remembering_reaches fresh.sound cache (fresh.remembering cache) reached
  rw [cache₁] at hd₁
  cases hd₁
  obtain ⟨c, hc, remembering, -⟩ := remembering_reaches sound₁ cache₁ remembering₁ run.reaches
  obtain ⟨c₂, hc₂, next⟩ := layerMove sound₂ move hc
  refine ⟨⟨c₂, hc₂, ?_⟩, ?_, ?_⟩
  · -- the fetch is followed from where it set out up to its last step
    have last : ∃ t, m₂.tasks[id]? = some t ∧ t.IsInside layer := by
      obtain ⟨t, t', running, task, inside, -⟩ := returns
      exact ⟨t, task, inside⟩
    obtain ⟨d, hd, underway⟩ := underway_run sound₁ cache₁
      (underway_of_setsOut sound₁ remembering₁ task setsOut) run inside last
    rw [hc] at hd
    cases hd
    exact underway.fails sound₂ remembering next returns
  · intro j hj
    obtain ⟨t, t', running, task, -⟩ := returns
    obtain ⟨s, c', -, tasks, -⟩ := next.of_running running task
    rw [tasks, List.getElem?_set_ne (Ne.symm hj)]
  · intro later k l i e t run' failing entry move' valid room running task control
    obtain ⟨d, hd, hentry⟩ := entry_of_no_success sound₁ cache₁ run' failing
    exact returns_of_valid (sound_reaches sound₁ run'.reaches) move' hd (hentry.trans entry) valid
      (fun r hr => room d r hd hr) running task control

end Attempt

/-- A source that gives a value, fails once, and gives values from then on that expire in five
seconds. -/
def waningSource : Script (Dated Nat) :=
  ⟨[⟨0, .value fun _ => ⟨1, none⟩⟩, ⟨1000, .failure (.service "down")⟩,
    ⟨0, .value fun now => ⟨2, some ⟨now.nanos + 5000000000⟩⟩⟩], 0, false, false, 0⟩

/-- A cache that serves nothing in the last ten seconds before it expires. -/
def cautiousPlans : List LayerPlan :=
  [.cache ⟨⟨Span.ofSeconds 60, Span.ofSeconds 10⟩, Span.ofSeconds 1⟩ false none]

/-- The stack of the cache and the source. -/
def waningStack : Machine (Dated Nat) (Script (Dated Nat)) (ScriptReply (Dated Nat)) :=
  match build "chain" waningSource [] cautiousPlans with
  | .ok (_, m) => m
  | .error _ => bare "chain" waningSource []

/-- The stack with its first value, when a forced fetch is about to look it up. -/
def waningEntry : Machine (Dated Nat) (Script (Dated Nat)) (ScriptReply (Dated Nat)) :=
  (requested (.fetch true) 2 (requested (.fetch false) 10 waningStack).2).2

theorem reaches_waningEntry : Reaches waningStack waningEntry :=
  (run_requested 10 rfl rfl).reaches.trans (run_requested 2 rfl rfl).reaches

/-- The stack when the inner call of that fetch has failed. -/
def waningFailure : Machine (Dated Nat) (Script (Dated Nat)) (ScriptReply (Dated Nat)) :=
  (scheduled 8 waningEntry).2

/-- The stack when a fetch that is not forced is about to look up, after the failure, and the moves
since the forced one was. -/
def waningLookup : List (Machine (Dated Nat) (Script (Dated Nat)) (ScriptReply (Dated Nat)) ×
      Machine (Dated Nat) (Script (Dated Nat)) (ScriptReply (Dated Nat))) ×
    Machine (Dated Nat) (Script (Dated Nat)) (ScriptReply (Dated Nat)) :=
  let failed := scheduled 10 waningEntry
  let looking := requested (.fetch false) 2 failed.2
  (failed.1 ++ looking.1, looking.2)

theorem inside_waningEntry
    {k l : Machine (Dated Nat) (Script (Dated Nat)) (ScriptReply (Dated Nat))}
    (h : (k, l) ∈ (scheduled 8 waningEntry).1) : ∃ t, k.tasks[1]? = some t ∧ t.IsInside 0 := by
  obtain ⟨i, hi, rfl⟩ := mem_scheduled h
  rcases i with _ | i
  · exact ⟨_, rfl, Or.inl ⟨true, rfl⟩⟩
  · -- from the second move on the fetch asks for the lock, holds it or waits for the source
    rcases i with _ | _ | _ | _ | _ | _ | _ | i
    · exact ⟨_, rfl, Or.inr (by decide)⟩
    · exact ⟨_, rfl, Or.inr (by decide)⟩
    · exact ⟨_, rfl, Or.inr (by decide)⟩
    · exact ⟨_, rfl, Or.inr (by decide)⟩
    · exact ⟨_, rfl, Or.inr (by decide)⟩
    · exact ⟨_, rfl, Or.inr (by decide)⟩
    · exact ⟨_, rfl, Or.inr (by decide)⟩
    · omega

/-- The forced fetch fails with its inner call and leaves the first value, which the next fetch
returns. -/
theorem failed_fetch_keeps_first_value :
    ∃ c₁ c₂, waningEntry.world.cache? 0 = some c₁ ∧
      Returns 0 waningFailure (waningFailure.advance .job 1) 1 (.failed (.service "down")) ∧
      (waningFailure.advance .job 1).world.cache? 0 = some c₂ ∧ c₂.entry = c₁.entry ∧
      Returns 0 waningLookup.2 (waningLookup.2.advance .job 2) 2 (.value ⟨1, none⟩) := by
  have built : build "chain" waningSource [] cautiousPlans = .ok ([], waningStack) := rfl
  have cache : waningStack.world.cache? 0 = some (Cache.empty
      ⟨⟨Span.ofSeconds 60, Span.ofSeconds 10⟩, Span.ofSeconds 1⟩ 0 none) := rfl
  have hentry : (waningEntry.world.cache? 0).bind Cache.entry =
      some ⟨⟨1, none⟩, ⟨0⟩, ⟨60000000000⟩⟩ := rfl
  obtain ⟨c₁, hc₁, hentry⟩ := Option.bind_eq_some_iff.1 hentry
  have htask : (waningEntry.tasks[1]?).map Task.control = some (.enter 1 true) := rfl
  obtain ⟨t₁, task, control⟩ := Option.map_eq_some_iff.1 htask
  have returns : Returns 0 waningFailure (waningFailure.advance .job 1) 1
      (.failed (.service "down")) := ⟨_, _, rfl, rfl, Or.inr (by decide), rfl, rfl, rfl⟩
  obtain ⟨⟨c₂, hc₂, fate, -⟩, -, served⟩ := failed_fetch_keeps_entry built cache
    reaches_waningEntry hc₁ task (Or.inl ⟨⟨true, control⟩, rfl⟩) (run_scheduled 8 waningEntry)
    (fun k l => inside_waningEntry) (.advance .job rfl) returns
  refine ⟨c₁, c₂, hc₁, returns, hc₂, ?_, ?_⟩
  · rcases fate with ⟨hsame, -⟩ | ⟨k, l, j, e, mem, -, yields, -⟩ | ⟨hf, -⟩
    · exact hsame
    · exact absurd rfl (yields.success mem)
    · cases hf
  · have run : Run waningEntry waningLookup.1 waningLookup.2 :=
      (run_scheduled 10 waningEntry).append (run_requested 2 rfl rfl)
    refine served waningLookup.1 waningLookup.2 _ 2 _ _ run rfl hentry (.advance .job rfl) rfl ?_
      rfl rfl rfl
    intro c r hc hr
    have hearly : (waningLookup.2.world.cache? 0).bind Cache.early = none := rfl
    rw [hc, Option.bind_some, hr] at hearly
    cases hearly

/-- The stack when the inner call of another forced fetch has ended with a value that expires within
the last ten seconds. -/
def waningValue : Machine (Dated Nat) (Script (Dated Nat)) (ScriptReply (Dated Nat)) :=
  (requested (.fetch true) 7 (scheduled 10 waningEntry).2).2

/-- That fetch fails, and what it leaves is its own entry, which has expired, and not the one
before, which was valid. -/
theorem expired_value_replaces_valid_entry :
    ∃ c c' e e', Reaches waningStack waningValue ∧
      Move waningValue (waningValue.advance .job 2) ∧
      waningValue.world.cache? 0 = some c ∧ c.entry = some e ∧
      e.isValid waningValue.world.now = true ∧
      Returns 0 waningValue (waningValue.advance .job 2) 2 (.failed .refreshFailed) ∧
      (waningValue.advance .job 2).world.cache? 0 = some c' ∧ c'.entry = some e' ∧
      e'.value.value ≠ e.value.value ∧
      e'.isValid (waningValue.advance .job 2).world.now = false ∧
      c'.valid? (waningValue.advance .job 2).world.now = none := by
  have reaches : Reaches waningStack waningValue :=
    (reaches_waningEntry.trans (run_scheduled 10 waningEntry).reaches).trans
      (run_requested 7 rfl rfl).reaches
  exact ⟨_, _, _, _, reaches, .advance .job rfl, rfl, rfl, rfl,
    ⟨_, _, rfl, rfl, Or.inr (by decide), rfl, rfl, rfl⟩, rfl, rfl, by decide, rfl, rfl⟩

end Machine

end CredentialSupply
