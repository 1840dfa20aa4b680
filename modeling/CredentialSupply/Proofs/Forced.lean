import CredentialSupply.Proofs.Origin
import CredentialSupply.Proofs.SingleFlight

set_option autoImplicit false

/-!
# What a forced fetch returns

A forced fetch passes over what the layers keep. But a cache lets it take over an entry that another
fetch has installed meanwhile, and that fetch may have been served from the layer for outages. So
what a forced fetch returns has been answered by the source since it was called, or has been served
to another task in an outage since then (`forced_value_is_new`). The second happens only in a chain
with both layers, and there it does happen (`forced_value_is_new_in_outage`).
-/

namespace CredentialSupply

variable {V σ C : Type}

/-- At this position stands a cache. -/
def CacheAt (kinds : List Kind) (i : Nat) : Prop :=
  ∃ settings meter, kinds[i]? = some (.cache settings meter)

theorem CacheAt.of_layer {k : Content V} {kinds : List Kind} {i : Nat} {c : Cache V}
    (hkinds : k.kinds = kinds) (here : k.layers[i]? = some (.cache c)) : CacheAt kinds i := by
  rw [← hkinds]
  exact ⟨c.settings, c.meter, Content.kinds_getElem? here⟩

theorem World.exists_cache_of_kind {w : World V σ} {i : Nat} (h : CacheAt w.content.kinds i) :
    ∃ c, w.cache? i = some c := by
  obtain ⟨settings, meter, h⟩ := h
  simp only [Content.kinds, content, List.getElem?_map, Option.map_eq_some_iff] at h
  obtain ⟨l', ⟨l, hl, rfl⟩, hkind⟩ := h
  rw [Layer.kind_content] at hkind
  cases l with
  | cache c => exact ⟨c, (cache?_eq_some_iff w i c).2 hl⟩
  | retry | outage _ _ | rateLimit _ | health _ => cases hkind

/-! ## What has been installed since -/

/-- Generation of the cache at a position. -/
def Content.generation (k : Content V) (i : Nat) : Nat :=
  (((k.layers[i]?).bind Layer.cache?).map Cache.generation).getD 0

/-- What the caches have installed since is among the values. -/
def Content.Renewed (base : Nat → Nat) (since : V → Prop) (k : Content V) : Prop :=
  ∀ (i : Nat) (c : Cache V), k.layers[i]? = some (.cache c) →
    base i ≤ c.generation ∧ (base i < c.generation → ∃ e, c.entry = some e ∧ since e.value)

/-- A value on its way is among the values, unless it came out of a cache, or goes to a health
query. -/
def Task.Renewed (kinds : List Kind) (since : V → Prop) (t : Task V C) : Prop :=
  ∀ v, t.control = .deliver (.value v) → (∃ layer seen, t.frames = [.query layer seen]) ∨ since v ∨
    ∃ depth i, CacheAt kinds i ∧ 2 * i < depth ∧ Nested t.request depth t.frames

/-- With the step to `t'` a layer serves a value that it has kept for outages. -/
def Task.Serves (t : Task V C) (k : Content V) (t' : Task V C) (v : V) : Prop :=
  ∃ layer frames f timeToLive e, t.control = .deliver (.failed f) ∧
    t.frames = .outage layer false :: frames ∧
    k.layers[layer]? = some (.outage timeToLive (some e)) ∧ e.isValid k.now = true ∧
    e.value = v ∧ t'.control = .deliver (.value v)

section Stride

variable [Perishable V] {base : Nat → Nat} {since since' : V → Prop} {kinds : List Kind}
  {t t' : Task V C} {k k' : Content V}

omit [Perishable V] in
theorem Content.Renewed.mono (h : k.Renewed base since) (sub : ∀ v, since v → since' v) :
    k.Renewed base since' := by
  intro i c here
  obtain ⟨hle, hentry⟩ := h i c here
  refine ⟨hle, fun hlt => ?_⟩
  obtain ⟨e, he, hvalue⟩ := hentry hlt
  exact ⟨e, he, sub _ hvalue⟩

omit [Perishable V] in
theorem Task.Renewed.mono (h : t.Renewed kinds since) (sub : ∀ v, since v → since' v) :
    t.Renewed kinds since' := by
  intro v control
  rcases h v control with hquery | hsince | hcache
  · exact Or.inl hquery
  · exact Or.inr (Or.inl (sub v hsince))
  · exact Or.inr (Or.inr hcache)

omit [Perishable V] in
/-- A layer that is no cache is replaced by another one. -/
theorem Content.Renewed.setLayer (h : k.Renewed base since) {i : Nat} {l : Layer V}
    (other : ∀ c, l ≠ .cache c) : (k.setLayer i l).Renewed base since := by
  intro j c here
  rcases Content.getElem?_setLayer here with ⟨-, hl⟩ | ⟨-, here⟩
  · exact absurd hl.symm (other c)
  · exact h j c here

omit [Perishable V] in
theorem Task.renewed_of_no_value (h : ∀ v, t.control ≠ .deliver (.value v)) :
    t.Renewed kinds since := fun v control => absurd control (h v)

/-- A cache installs only what has been answered or served since. -/
theorem Stride.renewed (h : Stride t k t' k') (hkinds : k.kinds = kinds)
    (unique : ∀ i j, CacheAt kinds i → CacheAt kinds j → i = j)
    (content : k.Renewed base since) (task : t.Renewed kinds since) :
    k'.Renewed base since := by
  cases h with
  | grant | observe => exact content.setLayer (by simp)
  | reject => exact Content.Renewed.setLayer (k := k) content (by simp)
  | store => exact content.setLayer (by simp)
  | @install layer startedAt frames v c e control head here entry =>
      intro j d hd
      rcases Content.getElem?_setLayer (k := k) hd with ⟨rfl, hl⟩ | ⟨-, hd⟩
      · cases hl
        refine ⟨Nat.le_succ_of_le (content j c here).1, fun _ => ⟨e, rfl, ?_⟩⟩
        rw [Lifetime.value_of_entry? entry]
        rcases task v control with ⟨l, seen, hquery⟩ | hsince | ⟨depth, i, hi, hlt, hn⟩
        · rw [head] at hquery
          cases hquery
        · exact hsince
        · -- what came out of the cache does not come back to it
          have := unique i j hi (.of_layer hkinds here)
          rw [head] at hn
          have := hn.1
          omega
      · exact content j d hd
  | _ => exact content

/-- A task passes on what has been answered or served since, or what came out of a cache. -/
theorem Stride.renewed_task (shaped : t.Shaped) (strays : t.StraysInQuery) (h : Stride t k t' k')
    (same : t.Same t') (hkinds : k.kinds = kinds) (task : t.Renewed kinds since)
    (upstream : t.control.isUpstream = true → ∀ v, t'.control = .deliver (.value v) → since v)
    (served : ∀ v, t.Serves k t' v → since v) : t'.Renewed kinds since := by
  intro v control'
  rw [same.2]
  cases h.handover control' with
  | stay unmoved =>
      subst unmoved
      exact task v control'
  | @answer source control frames =>
      rw [frames]
      cases source with
      | some index => exact Or.inl (strays index control)
      | none => exact Or.inr (Or.inl (upstream (by simp [Control.isUpstream, control]) v control'))
  -- what a cache hands out has come out of it
  | hit control here entry valid value frames =>
      rw [frames]
      exact Or.inr (Or.inr ⟨_, _, .of_layer hkinds here, by omega, shaped.of_enter control⟩)
  | adopt control here newer valid value frames =>
      rw [frames]
      exact Or.inr (Or.inr ⟨_, _, .of_layer hkinds here, by omega, shaped.of_locked control⟩)
  | install control head here =>
      obtain ⟨depth, hn⟩ := shaped.of_deliver control head
      exact Or.inr (Or.inr ⟨_, _, .of_layer hkinds here, by omega, hn.2⟩)
  | serve control head here valid value =>
      exact Or.inr (Or.inl (served v ⟨_, _, _, _, _, control, head, here, valid, value, control'⟩))
  | pass control head layer =>
      -- the value has come out of no other cache than before
      rcases task v control with ⟨l, seen, hquery⟩ | hsince | ⟨depth, i, hi, hlt, hn⟩
      · rw [head] at hquery
        rw [(List.cons.inj hquery).1] at layer
        cases layer
      · exact Or.inr (Or.inl hsince)
      · rw [head] at hn
        obtain ⟨depth', hn', hle⟩ := hn.pop layer
        exact Or.inr (Or.inr ⟨depth', i, hi, Nat.lt_of_lt_of_le hlt hle, hn'⟩)

/-! ## The forced fetch -/

/-- What is known of a task that makes a forced fetch. -/
structure Task.Forced (base : Nat → Nat) (good : V → Prop) (t : Task V C) : Prop where
  request : t.request = .fetch true
  control : t.control.force? ≠ some false
  frames : ∀ f ∈ t.frames, f.force? ≠ some false
  /-- It has looked up the caches after the start. -/
  seen : ∀ i seen, t.control.snapshot? = some (i, seen) → base i ≤ seen
  delivered : ∀ v, t.control = .deliver (.value v) → good v
  returned : ∀ v instant, t.control = .ended (.fetched (.value v)) instant → good v

omit [Perishable V] in
theorem Task.Forced.mono {good good' : V → Prop} (h : t.Forced base good)
    (sub : ∀ v, good v → good' v) : t.Forced base good' :=
  ⟨h.request, h.control, h.frames, h.seen, fun v hv => sub v (h.delivered v hv),
    fun v instant hv => sub v (h.returned v instant hv)⟩

omit [Perishable V] in
theorem Task.Forced.carries {good : V → Prop} (h : t.Forced base good) : t.Carries true := by
  refine ⟨fun b hb => ?_, fun f hf b hb => ?_⟩
  · cases b with
    | true => rfl
    | false => exact absurd hb h.control
  · cases b with
    | true => rfl
    | false => exact absurd hb (h.frames f hf)

omit [Perishable V] in
theorem Task.Carries.not_unforced (h : t.Carries true) :
    t.control.force? ≠ some false ∧ ∀ f ∈ t.frames, f.force? ≠ some false :=
  ⟨fun hfalse => (by cases h.control false hfalse),
    fun f hf hfalse => (by cases h.frames f hf false hfalse)⟩

omit [Perishable V] in
/-- A fetch calls the stack's own source. -/
theorem Task.source?_of_fetch {force : Bool} {source : Option Nat} (shaped : t.Shaped)
    (strays : t.StraysInQuery) (request : t.request = .fetch force)
    (control : t.control.source? = some source) : source = none := by
  cases source with
  | none => rfl
  | some index =>
      -- a health query would be around the call
      obtain ⟨layer, seen, hquery⟩ := strays index control
      have hn := shaped.of_source? control
      rw [hquery, request] at hn
      obtain ⟨⟨refresh, hrequest⟩, -⟩ := hn
      cases hrequest

/-- A forced fetch returns what its own call has answered, or what a cache has installed since. -/
theorem Stride.forced {good : V → Prop} (shaped : t.Shaped) (strays : t.StraysInQuery)
    (h : Stride t k t' k') (same : t.Same t') (hkinds : k.kinds = kinds)
    (content : k.Renewed base since)
    (task : t.Forced base good)
    (remembered : ∀ i seen c, t.control.snapshot? = some (i, seen) →
      k.layers[i]? = some (.cache c) → seen ≤ c.generation)
    (upstream : t.control.isUpstream = true → ∀ v, t'.control = .deliver (.value v) → good v)
    (adopted : ∀ i v, CacheAt kinds i → since v → good v) : t'.Forced base good := by
  have carries : t'.Carries true := h.carries (by rw [task.request]; rfl) task.carries
  refine ⟨same.2.trans task.request, carries.not_unforced.1, carries.not_unforced.2, ?_, ?_, ?_⟩
  · intro i seen snapshot
    rcases h.snapshot_cases snapshot with before | ⟨c, here, rfl⟩ | request
    · exact task.seen i seen before
    · exact (content i c here).1
    · rw [task.request] at request
      cases request
  · intro v control'
    cases h.handover control' with
    | stay unmoved =>
        subst unmoved
        exact task.delivered v control'
    | answer control =>
        obtain rfl := Task.source?_of_fetch shaped strays task.request control
        exact upstream (by simp [Control.isUpstream, control]) v control'
    | hit control => cases task.carries.flag (by rw [control]; rfl)
    | @adopt layer seen force c e control here newer valid value =>
        -- the entry is of a generation that the fetch did not see
        have hsnapshot : t.control.snapshot? = some (layer, seen) := by rw [control]; rfl
        have hbase := task.seen layer seen hsnapshot
        have hseen := remembered layer seen c hsnapshot here
        obtain ⟨hne, hentry⟩ := Cache.of_replacement? newer
        obtain ⟨e', he', hsince⟩ := (content layer c here).2 (by omega)
        rw [hentry] at he'
        cases he'
        rw [← value]
        exact adopted layer _ (.of_layer hkinds here) hsince
    | @serve layer f timeToLive e control head =>
        have hmem : Frame.outage layer false ∈ t.frames := by
          rw [head]
          exact List.mem_cons_self
        exact absurd rfl (task.frames _ hmem)
    | pass control | install control => exact task.delivered v control
  · intro v instant control'
    rcases h.answer_cases control' with rfl | ⟨control, -, -⟩
    · exact task.returned v instant control'
    · exact task.delivered v control

end Stride

namespace Machine

/-! ## Runs -/

/-- With the move from `m` to `n` a task is served a value that a layer has kept for outages. -/
def Serves (m n : Machine V σ C) (id : TaskId) (v : V) : Prop :=
  ∃ t t', m.running = some id ∧ m.tasks[id]? = some t ∧ n.tasks[id]? = some t' ∧
    t.Serves m.world.content t' v

/-- The value has been answered by the source in these moves, or served to another task. -/
def Supplied (id : TaskId) (moves : List (Machine V σ C × Machine V σ C)) (v : V) : Prop :=
  (∃ s, (v, s) ∈ answers moves) ∨ ∃ k l j, (k, l) ∈ moves ∧ j ≠ id ∧ Serves k l j v

/-- What a forced fetch may return. What another task has been served comes to it by a cache. -/
def MayReturn (kinds : List Kind) (id : TaskId) (moves : List (Machine V σ C × Machine V σ C))
    (v : V) : Prop :=
  (∃ s, (v, s) ∈ answers moves) ∨ (∃ i, CacheAt kinds i) ∧ Supplied id moves v

/-- What is known of a machine in which a task makes a forced fetch, these moves since its start. -/
structure Forcing (kinds : List Kind) (base : Nat → Nat) (id : TaskId)
    (moves : List (Machine V σ C × Machine V σ C)) (m : Machine V σ C) : Prop where
  content : m.world.content.Renewed base (Supplied id moves)
  tasks : ∀ (i : Nat) (t : Task V C), m.tasks[i]? = some t → t.Renewed kinds (Supplied id moves)
  forced : ∃ t, m.tasks[id]? = some t ∧ t.Forced base (MayReturn kinds id moves)

section Moves

variable {kinds : List Kind} {base : Nat → Nat} {id : TaskId} {m n : Machine V σ C}
  {moves later : List (Machine V σ C × Machine V σ C)}

theorem Supplied.append {v : V} (h : Supplied id moves v) : Supplied id (moves ++ later) v := by
  rcases h with ⟨s, hs⟩ | ⟨k, l, j, hmem, hj, hserves⟩
  · exact Or.inl ⟨s, answers_subset moves later hs⟩
  · exact Or.inr ⟨k, l, j, List.mem_append_left _ hmem, hj, hserves⟩

theorem MayReturn.append {v : V} (h : MayReturn kinds id moves v) :
    MayReturn kinds id (moves ++ later) v := by
  rcases h with ⟨s, hs⟩ | ⟨hcache, hsince⟩
  · exact Or.inl ⟨s, answers_subset moves later hs⟩
  · exact Or.inr ⟨hcache, hsince.append⟩

variable [Perishable V]

/-- Every move keeps track of what the forced fetch may return. -/
theorem Forcing.move (sound : m.Sound)
    (strays : ∀ (i : Nat) (t : Task V C), m.tasks[i]? = some t → t.StraysInQuery)
    (hkinds : m.world.content.kinds = kinds)
    (unique : ∀ i j, CacheAt kinds i → CacheAt kinds j → i = j)
    (remembered : ∀ t i seen c, m.tasks[id]? = some t → t.control.snapshot? = some (i, seen) →
      m.world.content.layers[i]? = some (.cache c) → seen ≤ c.generation)
    (h : Forcing kinds base id moves m) (move : StackMove m n) :
    Forcing kinds base id (moves ++ [(m, n)]) n := by
  have hsupplied : ∀ v, Supplied id moves v → Supplied id (moves ++ [(m, n)]) v :=
    fun _ => Supplied.append
  have hreturn : ∀ v, MayReturn kinds id moves v → MayReturn kinds id (moves ++ [(m, n)]) v :=
    fun _ => MayReturn.append
  have content := h.content.mono hsupplied
  have tasks' : ∀ (i : Nat) (t : Task V C), m.tasks[i]? = some t →
      t.Renewed kinds (Supplied id (moves ++ [(m, n)])) := fun i t task =>
    (h.tasks i t task).mono hsupplied
  obtain ⟨u, hu, hforced⟩ := h.forced
  have hforced := hforced.mono hreturn
  cases move with
  | @turn j t t' running task stride same tasks =>
      have task' : n.tasks[j]? = some t' := by
        rw [tasks]
        exact getElem?_set_some t' task
      have shaped := sound.shaped j t task
      have hanswer : t.control.isUpstream = true → ∀ v, t'.control = .deliver (.value v) →
          ∃ s, (v, s) ∈ answers (moves ++ [(m, n)]) := fun upstream v control' =>
        ⟨_, mem_answers moves running task task' upstream control'⟩
      have hserved : ∀ v, t.Serves m.world.content t' v → Supplied id (moves ++ [(m, n)]) v := by
        intro v serves
        refine Or.inr ⟨m, n, j, List.mem_append_right _ List.mem_cons_self, ?_, t, t', running,
          task, task', serves⟩
        -- no layer serves the forced fetch what it has kept
        rintro rfl
        rw [task] at hu
        cases hu
        obtain ⟨layer, frames, f, timeToLive, e, -, head, -⟩ := serves
        exact hforced.frames (.outage layer false) (by rw [head]; exact List.mem_cons_self) rfl
      refine ⟨stride.renewed hkinds unique content (tasks' j t task), ?_, ?_⟩
      · intro i x hx
        rw [tasks] at hx
        rcases getElem?_set_cases hx with ⟨rfl, rfl⟩ | ⟨-, hx⟩
        · exact stride.renewed_task shaped (strays i t task) same hkinds (tasks' i t task)
            (fun upstream v control' => Or.inl (hanswer upstream v control')) hserved
        · exact tasks' i x hx
      · by_cases hj : j = id
        · subst hj
          obtain rfl : t = u := by
            rw [task] at hu
            exact Option.some.inj hu
          refine ⟨t', task', ?_⟩
          refine stride.forced shaped (strays j t task) same hkinds content hforced ?_ ?_ ?_
          · intro i seen c
            exact remembered t i seen c task
          · exact fun upstream v control' => Or.inl (hanswer upstream v control')
          · exact fun i v hi hv => Or.inr ⟨⟨i, hi⟩, hv⟩
        · refine ⟨u, ?_, hforced⟩
          rw [tasks, List.getElem?_set_ne hj]
          exact hu
  | arrive idle foreground tasks content' =>
      refine ⟨by rw [content']; exact content, ?_, u, ?_, hforced⟩
      · intro i x hx
        rw [tasks] at hx
        rcases getElem?_snoc hx with hx | ⟨-, rfl⟩
        · exact tasks' i x hx
        · exact Task.renewed_of_no_value (by simp [Task.fresh])
      · rw [tasks, List.getElem?_append_left (List.getElem?_eq_some_iff.1 hu).1]
        exact hu
  | rest active tasks content' now =>
      refine ⟨by rw [content']; exact content, ?_, u, ?_, hforced⟩
      · intro i x hx
        rw [tasks] at hx
        exact tasks' i x hx
      · rw [tasks]
        exact hu

end Moves

section Runs

variable [Source σ V C] [Perishable V] {m₀ m₁ m : Machine V σ C} {source : σ} {c : Config}
  {before after : List (Machine V σ C × Machine V σ C)}

omit [Source σ V C] [Perishable V] in
/-- A chain has at most one cache. -/
theorem cacheAt_unique {i j : Nat} (hi : CacheAt c.kinds i) (hj : CacheAt c.kinds j) : i = j := by
  obtain ⟨settings, meter, hi⟩ := hi
  obtain ⟨settings', meter', hj⟩ := hj
  have := (Config.cache_kind hi).2.1
  have := (Config.cache_kind hj).2.1
  omega

/-- No generation that a task has seen is ahead of the cache. -/
theorem seen_le_generation (fresh : m₀.Fresh) (run : Reaches m₀ m) {id : TaskId} {t : Task V C}
    {i seen : Nat} {d : Cache V} (task : m.tasks[id]? = some t)
    (snapshot : t.control.snapshot? = some (i, seen))
    (here : m.world.content.layers[i]? = some (.cache d)) : seen ≤ d.generation := by
  have hkinds : m.world.content.kinds = m₀.world.content.kinds := by
    obtain ⟨moves, run'⟩ := exists_run run
    exact kinds_run fresh.sound run'
  obtain ⟨d₀, hd₀⟩ := World.exists_cache_of_kind (CacheAt.of_layer hkinds here)
  obtain ⟨d', hd', remembering, -⟩ :=
    remembering_reaches fresh.sound hd₀ (fresh.remembering hd₀) run
  have hstage : (t.stage i).seen? = some seen := by
    unfold Control.snapshot? at snapshot
    split at snapshot
    next control => cases snapshot; rw [Task.stage_of_acquire control]; rfl
    next control => cases snapshot; rw [Task.stage_of_queued control]; rfl
    next control => cases snapshot; rw [Task.stage_of_locked control]; rfl
    next => cases snapshot
  have hle := remembering.tasks id t seen task hstage
  rw [World.layers_content_cache hd'] at here
  cases here
  exact hle

/-- When a forced fetch starts, nothing has been supplied since. -/
theorem forcing_of_arrival (fresh : m₀.Fresh) (reach : Reaches m₀ m₁) (idle : m₁.running = none) :
    Forcing m₀.world.content.kinds m₁.world.content.generation m₁.tasks.length []
      (m₁.spawn (.fetch true)).2 := by
  have sound : m₁.Sound := sound_reaches fresh.sound reach
  refine ⟨?_, ?_, Task.fresh _ _, List.getElem?_concat_length, ?_⟩
  · intro i d here
    have hbase : m₁.world.content.generation i = d.generation := by
      have hcontent : (m₁.spawn (.fetch true)).2.world.content = m₁.world.content :=
        World.content_wake m₁.world _
      rw [hcontent] at here
      simp [Content.generation, here, Layer.cache?]
    rw [hbase]
    exact ⟨Nat.le_refl _, fun hlt => absurd hlt (Nat.lt_irrefl _)⟩
  · intro i t task
    apply Task.renewed_of_no_value
    intro v control
    rcases getElem?_snoc task with task | ⟨-, rfl⟩
    · have hparked := sound.idle idle task
      rw [control] at hparked
      cases hparked
    · cases control
  · refine ⟨rfl, by simp [Task.fresh, Control.force?], by simp [Task.fresh], ?_, ?_, ?_⟩ <;>
      simp [Task.fresh, Control.snapshot?]

/-- A value that a forced fetch of a chain returns has been answered by the source since the fetch
was called, unless the chain has both a cache and a layer for outages, and that layer has served the
value to another task since then. -/
theorem forced_value_is_new {v : V} {endedAt : Instant} (built : c.build source = .ok m₀)
    (run : Run m₀ before m₁) (idle : m₁.running = none)
    (run' : Run (m₁.spawn (.fetch true)).2 after m)
    (ended : m.ended? m₁.tasks.length = some (.fetched (.value v), endedAt)) :
    (∃ s, (v, s) ∈ answers after) ∨ c.cached = true ∧ c.outageCached = true ∧
      ∃ k l j, (k, l) ∈ after ∧ j ≠ m₁.tasks.length ∧ Serves k l j v := by
  obtain ⟨fresh, blank, hkinds⟩ := Config.planned_of_build built
  have harrival : Run m₀ (before ++ [(m₁, _)]) (m₁.spawn (.fetch true)).2 :=
    run.move (.arrive idle rfl)
  have hforcing : Forcing c.kinds m₁.world.content.generation m₁.tasks.length after m := by
    clear ended
    induction run' with
    | start =>
        rw [← hkinds]
        exact forcing_of_arrival fresh run.reaches idle
    | @move moves k l run' step ih =>
        have hrun := harrival.append run'
        refine ih.move (sound_reaches fresh.sound hrun.reaches) (straysInQuery_run fresh hrun)
          ((kinds_run fresh.sound hrun).trans hkinds) (fun _ _ => cacheAt_unique) ?_
          (stackMove (sound_reaches fresh.sound hrun.reaches) step)
        intro t i seen d task snapshot here
        exact seen_le_generation fresh hrun.reaches task snapshot here
  obtain ⟨t, task, forced⟩ := hforcing.forced
  obtain ⟨t', task', control⟩ := task_of_ended? ended
  rw [task] at task'
  cases task'
  rcases forced.returned v endedAt control with hs | ⟨⟨i, settings, meter, hcache⟩, hs | hserved⟩
  · exact Or.inl hs
  · exact Or.inl hs
  · obtain ⟨k, l, j, hmem, hj, hserves⟩ := hserved
    -- the layer that serves is one of the chain
    obtain ⟨x, x', -, -, -, layer, frames, f, timeToLive, e, -, -, here, -⟩ := id hserves
    have hreach := harrival.reaches.trans (run'.of_mem hmem).1
    have hkind : c.kinds[layer]? = some (.outage timeToLive) := by
      obtain ⟨moves, hrun⟩ := exists_run hreach
      rw [← hkinds, ← kinds_run fresh.sound hrun]
      exact Content.kinds_getElem? here
    exact Or.inr ⟨(Config.cache_kind hcache).1, (Config.outage_kind hkind).1, k, l, j, hmem, hj,
      hserves⟩

end Runs

/-- The chain when a fetch waits for a call in the outage. -/
def bridgedCall : Machine (Dated Nat) (Script (Dated Nat)) (ScriptReply (Dated Nat)) :=
  (requested (.fetch false) 8 bridgedLapse).2

/-- The chain when a forced fetch, which arrived during that call, has returned. -/
def bridgedForce : List (Machine (Dated Nat) (Script (Dated Nat)) (ScriptReply (Dated Nat)) ×
      Machine (Dated Nat) (Script (Dated Nat)) (ScriptReply (Dated Nat))) ×
    Machine (Dated Nat) (Script (Dated Nat)) (ScriptReply (Dated Nat)) :=
  scheduled 14 (bridgedCall.spawn (.fetch true)).2

/-- In an outage the forced fetch returns what the layer for outages has served to the other one: no
call of the source has answered since it arrived. -/
theorem forced_value_is_new_in_outage :
    bridgedForce.2.ended? 2 = some (.fetched (.value ⟨1, none⟩), ⟨12000000000⟩) ∧
      answers bridgedForce.1 = [] ∧
      ∃ k l j, (k, l) ∈ bridgedForce.1 ∧ j ≠ 2 ∧ Serves k l j ⟨1, none⟩ := by
  have hcall := run_bridgedLapse.append
    (run_requested 8 rfl rfl : Run bridgedLapse (requested (.fetch false) 8 bridgedLapse).1 _)
  have hended : bridgedForce.2.ended? 2 = some (.fetched (.value ⟨1, none⟩), ⟨12000000000⟩) := rfl
  have hnone : answers bridgedForce.1 = [] := rfl
  refine ⟨hended, hnone, ?_⟩
  rcases forced_value_is_new built_bridgedChain hcall rfl (run_scheduled 14 _) hended with
    ⟨s, hs⟩ | ⟨-, -, hserved⟩
  · have hs : _ ∈ answers bridgedForce.1 := hs
    rw [hnone] at hs
    cases hs
  · exact hserved

end Machine

end CredentialSupply
