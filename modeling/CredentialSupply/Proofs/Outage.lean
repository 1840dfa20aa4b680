import CredentialSupply.Proofs.Origin

set_option autoImplicit false

/-!
# What is served in an outage

A layer for outages keeps the last value that has come back through it, stamped with the time to
live from that instant (`kept_run`). When the source is unavailable a fetch gets that value up to
the end of the time to live (`bridges_iff`). Nobody asks the value for its own expiry, so a value
that expires earlier is served after it has expired (`outage_serves_for_time_to_live`,
`expired_value_is_served`). A chain without a cache hands out what it has of the instant, or what
that layer serves (`obtained_run`).
-/

namespace CredentialSupply

variable {V σ C : Type}

/-! ## What the layer keeps -/

/-- The value that a task is about to bring back through the layer for outages. -/
def Task.brings? (layer : Nat) (t : Task V C) : Option V :=
  match t.control, t.frames with
  | .deliver (.value v), .outage l _ :: _ => if l = layer then some v else none
  | _, _ => none

theorem Task.brings?_eq_some_iff {layer : Nat} {t : Task V C} {v : V} :
    t.brings? layer = some v ↔ t.control = .deliver (.value v) ∧
      ∃ force frames, t.frames = .outage layer force :: frames := by
  unfold brings?
  split
  next w l force frames control head =>
    split
    next hl =>
      subst hl
      simp [control, head]
    next hl => simp [control, head, hl]
  next other =>
    constructor
    · rintro ⟨⟩
    · rintro ⟨control, force, frames, head⟩
      exact absurd head (other _ _ _ _ control)

/-- The entry for a value that comes back at an instant; none if the clock does not represent its
expiry. -/
def bridgeFor? (timeToLive : Span) (v : V) (now : Instant) : Option (Entry V) :=
  (now.later? timeToLive).map fun expiresAt => ⟨v, now, expiresAt⟩

section Step

variable [Perishable V] {layer : Nat} {force : Bool} {frames : List Frame} {outcome : Outcome V}
  {timeToLive : Span} {stored : Option (Entry V)} {t : Task V C} {w : World V σ}

/-- An outcome that comes back to the layer for outages is up to that layer. -/
theorem Task.step_of_outage [Source σ V C] (favoured : Signal) (going : t.isStopped w = false)
    (control : t.control = .deliver outcome) (head : t.frames = .outage layer force :: frames) :
    t.step w favoured = Task.bridged { t with frames } w layer force outcome := by
  rw [step_of_not_stopped going]
  simp only [advance, control, deliver, head]

/-- A value that comes back is kept, if the clock represents its expiry. -/
theorem Task.keeps [Source σ V C] {v : V} (favoured : Signal) (going : t.isStopped w = false)
    (brings : t.brings? layer = some v)
    (here : w.layers[layer]? = some (.outage timeToLive stored)) :
    (t.step w favoured).1.content.layers[layer]? =
      some (.outage timeToLive ((bridgeFor? timeToLive v w.now).or stored)) := by
  obtain ⟨control, force, frames, head⟩ := brings?_eq_some_iff.1 brings
  obtain ⟨hlt, -⟩ := List.getElem?_eq_some_iff.1 here
  rw [step_of_outage favoured going control head]
  simp only [bridged, here, bridgeFor?]
  cases w.now.later? timeToLive with
  | none => exact World.layers_content here
  | some expiresAt =>
      apply World.layers_content (l := .outage timeToLive (some ⟨v, w.now, expiresAt⟩))
      exact List.getElem?_set_self hlt

/-- Other steps leave a layer for outages alone. -/
theorem Stride.outage_stays {t' : Task V C} {k k' : Content V} (h : Stride t k t' k')
    (brings : t.brings? layer = none) (here : k.layers[layer]? = some (.outage timeToLive stored)) :
    k'.layers[layer]? = some (.outage timeToLive stored) := by
  have hset : ∀ {j : Nat} {l x : Layer V}, k.layers[j]? = some l →
      (∀ timeToLive stored, l ≠ .outage timeToLive stored) →
        (k.setLayer j x).layers[layer]? = some (.outage timeToLive stored) := by
    intro j l x hl other
    rw [Content.setLayer, List.getElem?_set_ne, here]
    rintro rfl
    rw [here] at hl
    exact other _ _ (Option.some.inj hl).symm
  cases h with
  | grant control hl | reject control hl => exact hset hl (by simp)
  | observe control head hl => exact hset hl (by simp)
  | install control head hl => exact hset hl (by simp)
  | @store j force frames v _ _ _ control head =>
      -- whoever stores a value brings it back
      have hj : j ≠ layer := by
        rintro rfl
        rw [Task.brings?_eq_some_iff.2 ⟨control, force, frames, head⟩] at brings
        cases brings
      rw [Content.setLayer, List.getElem?_set_ne hj]
      exact here
  | _ => exact here

omit [Perishable V] in
/-- A failure that comes back is turned into the kept value if the source is unavailable, the fetch
is not forced, and the time to live is not over. -/
theorem Task.bridged_failed_iff {f : Failure} {v : V}
    (here : w.layers[layer]? = some (.outage timeToLive stored)) :
    (t.bridged w layer force (.failed f)).2.control = .deliver (.value v) ↔
      f.isUnavailable = true ∧ force = false ∧
        ∃ e, stored = some e ∧ e.value = v ∧ w.now ≤ e.expiresAt := by
  cases stored with
  | none => simp [bridged, here, pass, goto]
  | some e =>
      simp only [bridged, here]
      split
      next serves =>
        simp only [Bool.and_eq_true, Bool.not_eq_true', Entry.isValid_iff] at serves
        simp [pass, goto, serves]
      next refuses =>
        simp only [Bool.and_eq_true, Bool.not_eq_true', Entry.isValid_iff] at refuses
        constructor
        · rintro ⟨⟩
        · rintro ⟨unavailable, unforced, e', he, -, valid⟩
          cases he
          exact absurd ⟨⟨unavailable, unforced⟩, valid⟩ refuses

end Step

/-- A chain that is not cached has no cache. -/
theorem Config.uncached_kinds {c : Config} (uncached : c.cached = false)
    (settings : CacheSettings) (meter : Nat) : Kind.cache settings meter ∉ c.kinds := by
  intro hmem
  obtain ⟨i, h⟩ := List.getElem?_of_mem hmem
  rw [(cache_kind h).1] at uncached
  cases uncached

/-- A chain has one layer for outages at most. -/
theorem Config.outage_unique {c : Config} {i j : Nat} {timeToLive timeToLive' : Span}
    (hi : c.kinds[i]? = some (.outage timeToLive))
    (hj : c.kinds[j]? = some (.outage timeToLive')) : i = j := by
  -- nothing but a retry stands before such a layer
  have hnot : ∀ {i j : Nat} {s s' : Span}, c.kinds[i]? = some (.outage s) →
      c.kinds[j]? = some (.outage s') → ¬ i < j := by
    intro i j s s' hi hj hlt
    have hmem : Kind.outage s ∈ c.kinds.take j := by
      apply List.mem_of_getElem? (i := i)
      rw [List.getElem?_take_of_lt hlt, hi]
    cases (outage_kind hj).2.2 _ hmem
  exact Nat.le_antisymm (Nat.le_of_not_lt (hnot hj hi)) (Nat.le_of_not_lt (hnot hi hj))

namespace Machine

/-- The entry that the layer for outages makes with the next step of the running task. -/
def keeping? (layer : Nat) (timeToLive : Span) (m : Machine V σ C) : Option (Entry V) :=
  m.active?.bind fun t => (t.brings? layer).bind (bridgeFor? timeToLive · m.world.now)

/-- The entries that the layer makes in a list of moves, oldest first: one for each value that comes
back through it. -/
def keepings (layer : Nat) (timeToLive : Span) (moves : List (Machine V σ C × Machine V σ C)) :
    List (Entry V) :=
  moves.filterMap fun move => move.1.keeping? layer timeToLive

theorem keepings_snoc (layer : Nat) (timeToLive : Span)
    (moves : List (Machine V σ C × Machine V σ C)) (m n : Machine V σ C) :
    keepings layer timeToLive (moves ++ [(m, n)]) =
      keepings layer timeToLive moves ++ (m.keeping? layer timeToLive).toList := by
  cases h : m.keeping? layer timeToLive <;> simp [keepings, h]

/-- An entry is stamped with the instant and the end of the time to live. -/
theorem stamp_of_keeping {layer : Nat} {timeToLive : Span} {m : Machine V σ C} {e : Entry V}
    (h : m.keeping? layer timeToLive = some e) :
    e.installedAt = m.world.now ∧ e.expiresAt.nanos = e.installedAt.nanos + timeToLive.nanos := by
  obtain ⟨t, -, h⟩ := Option.bind_eq_some_iff.1 h
  obtain ⟨v, -, h⟩ := Option.bind_eq_some_iff.1 h
  obtain ⟨expiresAt, later, rfl⟩ := Option.map_eq_some_iff.1 h
  exact ⟨rfl, Instant.later?_eq_some later⟩

/-- With the move from `m` to `n` the layer for outages turns the failure of a fetch into a
value. -/
def Bridges (layer : Nat) (m n : Machine V σ C) (id : TaskId) (v : V) : Prop :=
  ∃ t t' f force frames, m.running = some id ∧ m.tasks[id]? = some t ∧
    t.control = .deliver (.failed f) ∧ t.frames = .outage layer force :: frames ∧
    n.tasks[id]? = some t' ∧ t'.control = .deliver (.value v)

/-- A fetch that is not forced is about to come back to the layer for outages because the source is
unavailable. -/
def Stranded (layer : Nat) (m : Machine V σ C) (id : TaskId) : Prop :=
  ∃ t f frames, m.running = some id ∧ m.tasks[id]? = some t ∧
    t.control = .deliver (.failed f) ∧ f.isUnavailable = true ∧
    t.frames = .outage layer false :: frames

section Moves

variable [Source σ V C] [Perishable V] {layer : Nat} {timeToLive : Span} {m n m₀ : Machine V σ C}
  {stored : Option (Entry V)} {moves : List (Machine V σ C × Machine V σ C)}

/-- A layer for outages keeps what it did until another value comes back. -/
theorem kept_move (sound : m.Sound) (move : Move m n)
    (here : m.world.layers[layer]? = some (.outage timeToLive stored)) :
    n.world.layers[layer]? =
      some (.outage timeToLive ((m.keeping? layer timeToLive).or stored)) := by
  have hcontent := World.layers_content here
  refine World.layers_of_content ?_ (by simp)
  cases hbrings : m.active?.bind (·.brings? layer) with
  | none =>
      -- no value comes back to the layer
      have hkeeping : m.keeping? layer timeToLive = none := by
        rw [keeping?, ← Option.bind_assoc, hbrings]
        rfl
      rw [hkeeping, Option.none_or]
      cases stackMove sound move with
      | turn running task stride =>
          rw [active?_of_running running task] at hbrings
          exact stride.outage_stays hbrings hcontent
      | arrive idle foreground tasks content =>
          rw [content]
          exact hcontent
      | rest active tasks content now =>
          rw [content]
          exact hcontent
  | some v =>
      -- a value comes back, and takes the place of the last one if its stamp is representable
      obtain ⟨t, active, brings⟩ := Option.bind_eq_some_iff.1 hbrings
      have hkeeping : m.keeping? layer timeToLive = bridgeFor? timeToLive v m.world.now := by
        rw [keeping?, ← Option.bind_assoc, hbrings]
        rfl
      obtain ⟨id, running, task⟩ := Option.bind_eq_some_iff.1 active
      obtain ⟨favoured, rfl⟩ := move.of_running running
      obtain ⟨-, going⟩ := sound.parked id t task (by
        rw [(Task.brings?_eq_some_iff.1 brings).1]
        rfl)
      rw [content_advance favoured task, hkeeping]
      exact Task.keeps favoured going brings here

/-- Over a run of a stack that has been built, a layer for outages keeps the last value that has
come back through it. -/
theorem kept_run {name : String} {source : σ} {others : List σ} {plans : List LayerPlan}
    {bound : List Bool} (built : build name source others plans = .ok (bound, m₀))
    (here : m₀.world.layers[layer]? = some (.outage timeToLive stored)) (run : Run m₀ moves m) :
    m.world.layers[layer]? =
      some (.outage timeToLive (keepings layer timeToLive moves).getLast?) := by
  induction run with
  | start =>
      cases new_of_build built _ (List.mem_of_getElem? here)
      exact here
  | @move moves m n run step ih =>
      have sound : m.Sound := sound_of_build built run.reaches
      rw [kept_move sound step ih, keepings_snoc, List.getLast?_append]
      cases m.keeping? layer timeToLive <;> rfl

/-- What has come back through the layer has come before, and is stamped. -/
theorem stamp_of_mem_keepings {e : Entry V} (run : Run m₀ moves m)
    (h : e ∈ keepings layer timeToLive moves) :
    e.installedAt ≤ m.world.now ∧
      e.expiresAt.nanos = e.installedAt.nanos + timeToLive.nanos := by
  obtain ⟨⟨k, l⟩, hmem, hkeeping⟩ := List.mem_filterMap.1 h
  obtain ⟨hinstalled, hexpires⟩ := stamp_of_keeping hkeeping
  obtain ⟨-, step, later⟩ := run.of_mem hmem
  obtain ⟨moves', run'⟩ := exists_run later
  rw [hinstalled] at hexpires ⊢
  exact ⟨Instant.le_trans step.now_le run'.now_le, hexpires⟩

/-- A failure that comes back to a layer for outages is up to that layer. -/
theorem task_of_failed {id : TaskId} {t : Task V C} {f : Failure} {force : Bool}
    {frames : List Frame} (sound : m.Sound) (move : Move m n) (running : m.running = some id)
    (task : m.tasks[id]? = some t) (control : t.control = .deliver (.failed f))
    (head : t.frames = .outage layer force :: frames) :
    n.tasks[id]? = some (Task.bridged { t with frames } m.world layer force (.failed f)).2 := by
  obtain ⟨-, going⟩ := sound.parked id t task (by rw [control]; rfl)
  rcases move.step_cases task with ⟨idle, -⟩ | ⟨favoured, -, -, task'⟩
  · exact absurd running idle
  · rw [task', Task.step_of_outage favoured going control head]

/-- Only a layer for outages turns a failure into a value. -/
theorem Bridges.exists_layer {id : TaskId} {v : V} (h : Bridges layer m n id v) (sound : m.Sound)
    (move : Move m n) :
    ∃ timeToLive stored, m.world.layers[layer]? = some (.outage timeToLive stored) := by
  obtain ⟨t, t', f, force, frames, running, task, control, head, task', control'⟩ := h
  rw [task_of_failed sound move running task control head, Option.some.injEq] at task'
  rw [← task'] at control'
  cases here : m.world.layers[layer]? with
  | none => simp [Task.bridged, here, Task.pass, Task.goto] at control'
  | some l =>
      cases l with
      | outage timeToLive stored => exact ⟨timeToLive, stored, rfl⟩
      | retry | rateLimit _ | health _ | cache _ =>
          simp [Task.bridged, here, Task.pass, Task.goto] at control'

/-- The layer for outages serves just what it keeps, within the time to live, to fetches that are
not forced and find the source unavailable. -/
theorem bridges_iff {id : TaskId} {v : V} (sound : m.Sound) (move : Move m n)
    (here : m.world.layers[layer]? = some (.outage timeToLive stored)) :
    Bridges layer m n id v ↔ Stranded layer m id ∧
      ∃ e, stored = some e ∧ e.value = v ∧ m.world.now ≤ e.expiresAt := by
  constructor
  · rintro ⟨t, t', f, force, frames, running, task, control, head, task', control'⟩
    rw [task_of_failed sound move running task control head, Option.some.injEq] at task'
    rw [← task'] at control'
    obtain ⟨unavailable, rfl, kept⟩ := (Task.bridged_failed_iff here).1 control'
    exact ⟨⟨t, f, frames, running, task, control, unavailable, head⟩, kept⟩
  · rintro ⟨⟨t, f, frames, running, task, control, unavailable, head⟩, kept⟩
    exact ⟨t, _, f, false, frames, running, task, control, head,
      task_of_failed sound move running task control head,
      (Task.bridged_failed_iff here).2 ⟨unavailable, rfl, kept⟩⟩

end Moves

/-! ## What is handed out without a cache -/

/-- The task has the value from an answer of the source at the instant, or has been served it by a
layer for outages at the instant. -/
def Obtained (moves : List (Machine V σ C × Machine V σ C)) (id : TaskId) (v : V)
    (instant : Instant) : Prop :=
  (v, instant) ∈ answers moves ∨
    ∃ layer k l, (k, l) ∈ moves ∧ Bridges layer k l id v ∧ k.world.now = instant

/-- What is known of the values of a task in a stack without caches. -/
structure Obtaining (moves : List (Machine V σ C × Machine V σ C)) (id : TaskId) (now : Instant)
    (t : Task V C) : Prop where
  delivered : ∀ v, t.control = .deliver (.value v) →
    (∃ layer seen, t.frames = [.query layer seen]) ∨ Obtained moves id v now
  returned : ∀ v instant, t.control = .ended (.fetched (.value v)) instant →
    Obtained moves id v instant

section Obtained

variable {moves later : List (Machine V σ C × Machine V σ C)} {m n m₀ : Machine V σ C}
  {id : TaskId} {now : Instant} {t : Task V C}

theorem Obtained.append {v : V} (h : Obtained moves id v now) :
    Obtained (moves ++ later) id v now := by
  rcases h with hanswer | ⟨layer, k, l, hmem, bridges⟩
  · exact Or.inl (answers_subset moves later hanswer)
  · exact Or.inr ⟨layer, k, l, List.mem_append_left _ hmem, bridges⟩

theorem Obtaining.append (h : Obtaining moves id now t) : Obtaining (moves ++ later) id now t :=
  ⟨fun v control => (h.delivered v control).imp_right Obtained.append,
    fun v instant control => (h.returned v instant control).append⟩

theorem obtaining_fresh (request : Request) :
    Obtaining moves id now (Task.fresh id request : Task V C) := by
  constructor <;> simp [Task.fresh]

variable [Perishable V]

theorem Obtaining.turn {t' : Task V C} (h : Obtaining moves id m.world.now t)
    (uncached : ∀ (i : Nat) (c : Cache V), m.world.content.layers[i]? ≠ some (.cache c))
    (strays : t.StraysInQuery) (running : m.running = some id) (task : m.tasks[id]? = some t)
    (task' : n.tasks[id]? = some t') (stride : Stride t m.world.content t' n.world.content) :
    Obtaining (moves ++ [(m, n)]) id m.world.now t' := by
  constructor
  · intro v control'
    cases stride.handover control' with
    | stay unmoved =>
        subst unmoved
        exact h.append.delivered v control'
    | @answer source calls frames =>
        cases source with
        | some index =>
            rw [frames]
            exact Or.inl (strays index calls)
        | none =>
            have upstream : t.control.isUpstream = true := by simp [Control.isUpstream, calls]
            exact Or.inr (Or.inl (mem_answers moves running task task' upstream control'))
    | hit control here | adopt control here | install control head here =>
        exact absurd here (uncached _ _)
    | pass control head layer =>
        rcases h.append.delivered v control with ⟨l, seen, hquery⟩ | obtained
        · rw [head] at hquery
          rw [(List.cons.inj hquery).1] at layer
          cases layer
        · exact Or.inr obtained
    | @serve layer f timeToLive e control head =>
        refine Or.inr (Or.inr ⟨layer, m, n, List.mem_append_right _ List.mem_cons_self, ?_, rfl⟩)
        exact ⟨t, t', f, false, _, running, task, control, head, task', control'⟩
  · intro v instant control'
    rcases stride.answer_cases control' with rfl | ⟨control, head, rfl⟩
    · exact h.append.returned v instant control'
    · rcases h.append.delivered v control with ⟨l, seen, hquery⟩ | obtained
      · rw [head] at hquery
        cases hquery
      · exact obtained

variable [Source σ V C]

/-- In a stack without caches, the value of a fetch is of the instant, or served in an outage. -/
theorem obtained_run (fresh : m₀.Fresh)
    (uncached : ∀ settings meter, Kind.cache settings meter ∉ m₀.world.content.kinds)
    (run : Run m₀ moves m) :
    ∀ (i : Nat) (t : Task V C), m.tasks[i]? = some t → Obtaining moves i m.world.now t := by
  -- by induction on the run: each value that is handed on was answered, or served by such a layer
  induction run with
  | start =>
      intro i t task
      obtain ⟨layer, c, r, rfl, -⟩ := fresh.tasks i t task
      exact obtaining_fresh _
  | @move moves m n run step ih =>
      have sound : m.Sound := sound_reaches fresh.sound run.reaches
      have hcaches : ∀ (i : Nat) (c : Cache V), m.world.content.layers[i]? ≠ some (.cache c) := by
        intro i c here
        apply uncached c.settings c.meter
        rw [← kinds_run fresh.sound run]
        exact List.mem_of_getElem? (Content.kinds_getElem? here)
      intro i x hx
      cases stackMove sound step with
      | @turn id t t' running task stride same tasks =>
          have hnow : n.world.now = m.world.now := stride.now
          rw [hnow]
          rw [tasks] at hx
          rcases getElem?_set_cases hx with ⟨rfl, rfl⟩ | ⟨-, hx⟩
          · refine (ih _ t task).turn hcaches (straysInQuery_run fresh run _ t task) running task ?_
              stride
            rw [tasks]
            exact getElem?_set_some _ task
          · exact (ih i x hx).append
      | arrive idle foreground tasks content =>
          have hnow : n.world.now = m.world.now := congrArg Content.now content
          rw [hnow]
          rw [tasks] at hx
          rcases getElem?_snoc hx with hx | ⟨rfl, rfl⟩
          · exact (ih i x hx).append
          · exact obtaining_fresh _
      | rest active tasks content now =>
          rw [tasks] at hx
          refine ⟨fun v control => ?_, (ih i x hx).append.returned⟩
          -- no time passes while a task has an outcome to pass on
          obtain ⟨running, -⟩ := sound.parked i x hx (by rw [control]; rfl)
          rw [active?_of_running running hx] at active
          cases active

end Obtained

section Runs

variable [Source σ V C] [Perishable V] {m₀ m : Machine V σ C}
  {moves : List (Machine V σ C × Machine V σ C)}

/-- Before a move of a run stands the run that led to it. -/
theorem Run.before_of_mem {k l : Machine V σ C} (run : Run m₀ moves m) (h : (k, l) ∈ moves) :
    ∃ before after, moves = before ++ after ∧ Run m₀ before k ∧ Move k l := by
  induction run with
  | start => cases h
  | @move moves m n run step ih =>
      rcases List.mem_append.1 h with h | h
      · obtain ⟨before, after, rfl, run', move⟩ := ih h
        exact ⟨before, after ++ [(m, n)], List.append_assoc _ _ _, run', move⟩
      · cases List.mem_singleton.1 h
        exact ⟨moves, _, rfl, run, step⟩

/-- The layers of a chain are those of its configuration. -/
theorem kind_of_layer {c : Config} {source : σ} {i : Nat} {l : Layer V}
    (built : c.build source = .ok m₀) (run : Run m₀ moves m) (here : m.world.layers[i]? = some l) :
    c.kinds[i]? = some l.kind := by
  obtain ⟨fresh, -, hkinds⟩ := Config.planned_of_build built
  rw [← hkinds, ← kinds_run fresh.sound run, ← Layer.kind_content]
  exact Content.kinds_getElem? (World.layers_content here)

/-- What a chain keeps for outages was an answer of the source at the instant of the stamp. -/
theorem answered_of_kept {c : Config} {source : σ} {layer : Nat} {timeToLive : Span} {e : Entry V}
    (built : c.build source = .ok m₀) (run : Run m₀ moves m)
    (here : m.world.layers[layer]? = some (.outage timeToLive (some e))) :
    (e.value, e.installedAt) ∈ answers moves := by
  obtain ⟨fresh, blank, hkinds⟩ := Config.planned_of_build built
  have htraced := traced_run fresh blank run
  rw [hkinds] at htraced
  have hl := World.layers_content here
  have hkind : c.kinds[layer]? = some (.outage timeToLive) := kind_of_layer built run here
  have hstamped := htraced.content.stamped layer timeToLive e hl
  obtain ⟨-, s, hs, hle, hexpires⟩ := htraced.content.kept layer _ e hl rfl
  rw [delay_succ hkind, delay_of_outage hkind] at hexpires
  simp only [Kind.keeps] at hexpires
  rw [Instant.le_def] at hle
  have hsame : e.installedAt = s := Instant.ext (by omega)
  rw [hsame]
  exact hs

section Layer

variable {name : String} {source : σ} {others : List σ} {plans : List LayerPlan}
  {bound : List Bool} {layer : Nat} {timeToLive : Span} {stored : Option (Entry V)} {id : TaskId}
  {v : V}

/-- At every instant of a run, a layer for outages serves the last value that has come back through
it if that has come within the time to live. -/
theorem bridges_run {n : Machine V σ C} (built : build name source others plans = .ok (bound, m₀))
    (here : m₀.world.layers[layer]? = some (.outage timeToLive stored)) (run : Run m₀ moves m)
    (move : Move m n) :
    Bridges layer m n id v ↔ Stranded layer m id ∧
      ∃ e, (keepings layer timeToLive moves).getLast? = some e ∧ e.value = v ∧
        e.installedAt ≤ m.world.now ∧
        m.world.now.nanos ≤ e.installedAt.nanos + timeToLive.nanos := by
  rw [bridges_iff (sound_of_build built run.reaches) move (kept_run built here run)]
  refine and_congr_right fun _ => exists_congr fun e => and_congr_right fun last =>
    and_congr_right fun _ => ?_
  obtain ⟨installed, expires⟩ := stamp_of_mem_keepings run (List.mem_of_getLast? last)
  rw [Instant.le_def, expires]
  exact ⟨fun valid => ⟨installed, valid⟩, And.right⟩

/-- What a chain without a cache hands out is an answer of the instant, or what its layer for
outages serves, which was an answer no longer ago than the time to live. -/
theorem answered_or_bridged {c : Config} {endedAt : Instant} (chain : c.build source = .ok m₀)
    (uncached : c.cached = false)
    (here : m₀.world.layers[layer]? = some (.outage timeToLive stored)) (run : Run m₀ moves m)
    (ended : m.ended? id = some (.fetched (.value v), endedAt)) :
    (v, endedAt) ∈ answers moves ∨ ∃ k l s, (k, l) ∈ moves ∧ Bridges layer k l id v ∧
      k.world.now = endedAt ∧ (v, s) ∈ answers moves ∧ s ≤ endedAt ∧
      endedAt.nanos ≤ s.nanos + timeToLive.nanos := by
  obtain ⟨fresh, -, hkinds⟩ := Config.planned_of_build chain
  obtain ⟨bound, built⟩ := Config.exists_build chain
  obtain ⟨t, task, control⟩ := task_of_ended? ended
  have obtaining := obtained_run fresh (by rw [hkinds]; exact Config.uncached_kinds uncached) run
  rcases (obtaining id t task).returned v endedAt control with answered |
    ⟨i, k, l, hmem, bridges, now⟩
  · exact Or.inl answered
  right
  obtain ⟨before, after, rfl, run', move⟩ := run.before_of_mem hmem
  -- the layer that serves is the one of the chain
  obtain ⟨timeToLive', stored', here'⟩ :=
    bridges.exists_layer (sound_reaches fresh.sound run'.reaches) move
  obtain rfl : i = layer :=
    Config.outage_unique (kind_of_layer chain run' here') (kind_of_layer chain .start here)
  obtain ⟨-, e, last, value, installed, valid⟩ := (bridges_run built here run' move).1 bridges
  have answered := answered_of_kept chain run' (last ▸ kept_run built here run')
  rw [value] at answered
  rw [now] at installed valid
  exact ⟨k, l, e.installedAt, hmem, bridges, now, answers_subset _ _ answered, installed, valid⟩

/-- **A layer for outages serves the last value that has come back through it** for the time to
live, and only that, to the fetches that are not forced and find the source unavailable. So it
serves no value after its own expiry if the time to live ends no later; otherwise it serves the
expired value for the rest of the time to live. What a chain without a cache hands out is an answer
of the instant, or what this layer serves. -/
theorem outage_serves_for_time_to_live (built : build name source others plans = .ok (bound, m₀))
    (here : m₀.world.layers[layer]? = some (.outage timeToLive stored)) (run : Run m₀ moves m) :
    (∀ n id v, Move m n → (Bridges layer m n id v ↔ Stranded layer m id ∧
      ∃ e, (keepings layer timeToLive moves).getLast? = some e ∧ e.value = v ∧
        e.installedAt ≤ m.world.now ∧
        m.world.now.nanos ≤ e.installedAt.nanos + timeToLive.nanos)) ∧
    (∀ n id v own, Move m n → Bridges layer m n id v → Perishable.ownExpiry v = some own →
      (∀ e, (keepings layer timeToLive moves).getLast? = some e →
        e.installedAt.nanos + timeToLive.nanos ≤ own.nanos) → m.world.now ≤ own) ∧
    ∀ c : Config, c.build source = .ok m₀ → c.cached = false → ∀ id v endedAt,
      m.ended? id = some (.fetched (.value v), endedAt) →
      (v, endedAt) ∈ answers moves ∨ ∃ k l s, (k, l) ∈ moves ∧ Bridges layer k l id v ∧
        k.world.now = endedAt ∧ (v, s) ∈ answers moves ∧ s ≤ endedAt ∧
        endedAt.nanos ≤ s.nanos + timeToLive.nanos := by
  refine ⟨fun n id v move => bridges_run built here run move, ?_, ?_⟩
  · intro n id v own move bridges expires lasts
    obtain ⟨-, e, last, -, -, valid⟩ := (bridges_run built here run move).1 bridges
    exact Int.le_trans valid (lasts e last)
  · intro c chain uncached id v endedAt ended
    exact answered_or_bridged chain uncached here run ended

end Layer

end Runs

/-- A source that is unavailable after its first value, which expires in a second. -/
def briefSource : Script (Dated Nat) :=
  ⟨[⟨0, .value fun now => ⟨1, some ⟨now.nanos + 1000000000⟩⟩⟩,
    ⟨0, .failure (.unavailable "down")⟩], 0, false, false, 0⟩

/-- A chain without a cache, whose value is kept for an hour of outages. -/
def briefConfig : Config :=
  { Config.withName "chain" with
    cached := false, retrying := false,
    outageCached := true, outageTimeToLive := Span.ofSeconds 3600 }

/-- The chain with that configuration over that source. -/
def briefChain : Machine (Dated Nat) (Script (Dated Nat)) (ScriptReply (Dated Nat)) :=
  match briefConfig.build briefSource with
  | .ok m => m
  | .error _ => bare "chain" briefSource []

/-- The chain two seconds after a fetch. -/
def expiredChain : Machine (Dated Nat) (Script (Dated Nat)) (ScriptReply (Dated Nat)) :=
  (requested (.fetch false) 7 briefChain).2.passTo ⟨2000000000⟩

/-- The first moves of another fetch, after those that led to it, and where they lead. -/
def expiredFetch (k : Nat) :
    List (Machine (Dated Nat) (Script (Dated Nat)) (ScriptReply (Dated Nat)) ×
      Machine (Dated Nat) (Script (Dated Nat)) (ScriptReply (Dated Nat))) ×
    Machine (Dated Nat) (Script (Dated Nat)) (ScriptReply (Dated Nat)) :=
  ((requested (.fetch false) 7 briefChain).1 ++
      [((requested (.fetch false) 7 briefChain).2, expiredChain)] ++
      (requested (.fetch false) k expiredChain).1,
    (requested (.fetch false) k expiredChain).2)

theorem run_expiredFetch (k : Nat) : Run briefChain (expiredFetch k).1 (expiredFetch k).2 :=
  ((run_requested 7 rfl rfl).move (.pass ⟨2000000000⟩ rfl)).append (run_requested k rfl rfl)

/-- The other fetch is stranded, and served the value a second after that has expired. -/
theorem expired_value_is_served :
    Bridges 0 (expiredFetch 5).2 ((expiredFetch 5).2.advance .job 1) 1 ⟨1, some ⟨1000000000⟩⟩ ∧
      (expiredFetch 5).2.world.now = ⟨2000000000⟩ ∧
      (expiredFetch 7).2.ended? 1 =
        some (.fetched (.value ⟨1, some ⟨1000000000⟩⟩), ⟨2000000000⟩) ∧
      (⟨1, some ⟨1000000000⟩⟩, Instant.origin) ∈ answers (expiredFetch 7).1 := by
  have built : build briefConfig.name briefSource [] briefConfig.plans =
      .ok ([], briefChain) := rfl
  have chain : briefConfig.build briefSource = .ok briefChain := rfl
  have here : briefChain.world.layers[0]? = some (.outage (Span.ofSeconds 3600) none) := rfl
  have move : Move (expiredFetch 5).2 ((expiredFetch 5).2.advance .job 1) := .advance .job rfl
  let entry : Entry (Dated Nat) :=
    ⟨⟨1, some ⟨1000000000⟩⟩, Instant.origin, ⟨3600000000000⟩⟩
  have last : (keepings 0 (Span.ofSeconds 3600) (expiredFetch 5).1).getLast? = some entry := rfl
  have ended : (expiredFetch 7).2.ended? 1 =
      some (.fetched (.value ⟨1, some ⟨1000000000⟩⟩), ⟨2000000000⟩) := rfl
  have answered : answers (expiredFetch 7).1 =
      [(⟨1, some ⟨1000000000⟩⟩, Instant.origin)] := rfl
  have stranded : Stranded 0 (expiredFetch 5).2 1 :=
    ⟨⟨1, .fetch false, .deliver (.failed (.unavailable "down")), [.outage 0 false]⟩,
      .unavailable "down", [], rfl, rfl, rfl, rfl, rfl⟩
  have now : (expiredFetch 5).2.world.now = ⟨2000000000⟩ := rfl
  obtain ⟨serves, -, -⟩ := outage_serves_for_time_to_live built here (run_expiredFetch 5)
  obtain ⟨-, -, hands⟩ := outage_serves_for_time_to_live built here (run_expiredFetch 7)
  refine ⟨(serves _ 1 _ move).2 ⟨stranded, entry, last, rfl, ?_⟩, now, ended, ?_⟩
  · rw [now]
    exact ⟨by decide, by decide⟩
  · rcases hands briefConfig chain rfl 1 _ _ ended with new | ⟨k, l, s, -, -, -, stems, -, -⟩
    · rw [answered] at new
      cases List.mem_singleton.1 new
    · rw [answered] at stems ⊢
      cases List.mem_singleton.1 stems
      exact List.mem_cons_self

end Machine

end CredentialSupply
