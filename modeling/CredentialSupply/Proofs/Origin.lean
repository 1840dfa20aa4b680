import CredentialSupply.Proofs.Chain
import CredentialSupply.Proofs.Travel

set_option autoImplicit false

/-!
# Where values come from

Every value that a fetch returns was the answer of a call of the source. The layers that it has
passed or lain in bound how long ago: each adds at most the time for which it keeps a value
(`Kind.keeps`), once, however often the value goes through it (`Traced`). So the age of a value is
bounded by the sum over the layers (`traced_run`), although an outer layer stamps what an inner one
serves again and again.
-/

namespace CredentialSupply

variable {V σ C : Type}

/-! ## How long layers keep a value -/

/-- Nanoseconds for which a layer keeps a value. -/
def Kind.keeps : Kind → Nat
  | .outage timeToLive => timeToLive.nanos
  | .cache settings _ => settings.lifetime.timeToLive.nanos
  | .retry | .rateLimit | .health _ => 0

/-- Nanoseconds for which the layers below a level keep a value, one after the other. -/
def delay (kinds : List Kind) : Nat → Nat
  | 0 => 0
  | level + 1 => delay kinds level + ((kinds[level]?).map Kind.keeps).getD 0

theorem delay_succ {kinds : List Kind} {i : Nat} {kind : Kind} (h : kinds[i]? = some kind) :
    delay kinds (i + 1) = delay kinds i + kind.keeps := by
  rw [delay, h]
  rfl

theorem delay_mono (kinds : List Kind) {i j : Nat} (h : i ≤ j) : delay kinds i ≤ delay kinds j := by
  induction h with
  | refl => exact Nat.le_refl _
  | step _ ih => exact Nat.le_trans ih (Nat.le_add_right _ _)

theorem delay_eq_zero {kinds : List Kind} {i : Nat} (h : ∀ kind ∈ kinds.take i, kind.keeps = 0) :
    delay kinds i = 0 := by
  induction i with
  | zero => rfl
  | succ i ih =>
      rw [delay, ih fun kind hmem => h kind (List.take_subset_take_left kinds (Nat.le_succ i) hmem)]
      cases hkind : kinds[i]? with
      | none => rfl
      | some kind =>
          have hmem : kind ∈ kinds.take (i + 1) := by
            rw [List.take_add_one, hkind]
            exact List.mem_append_right _ List.mem_cons_self
          rw [Option.map_some, Option.getD_some, h kind hmem]

/-- There is no layer that keeps a value above the outermost one. -/
theorem delay_le_length (kinds : List Kind) (level : Nat) :
    delay kinds level ≤ delay kinds kinds.length := by
  induction level with
  | zero => exact Nat.zero_le _
  | succ level ih =>
      rcases Nat.lt_or_ge level kinds.length with hlt | hge
      · exact delay_mono kinds hlt
      · rw [delay, List.getElem?_eq_none hge]
        exact ih

/-! ## Answers of the source -/

/-- Whether a task with this control is in a call of the stack's own source. -/
def Control.isUpstream (x : Control V C) : Bool := x.source? = some none

/-- The value that a task with this control passes on. -/
def Control.value? : Control V C → Option V
  | .deliver (.value v) => some v
  | _ => none

/-- The value was an answer, at most so many nanoseconds before the instant. -/
def Stems (answers : List (V × Instant)) (v : V) (instant : Instant) (age : Nat) : Prop :=
  ∃ s, (v, s) ∈ answers ∧ s ≤ instant ∧ instant.nanos ≤ s.nanos + age

theorem Stems.mono {answers answers' : List (V × Instant)} {v : V} {instant : Instant}
    {age age' : Nat} (h : Stems answers v instant age) (sub : answers ⊆ answers')
    (hage : age ≤ age') : Stems answers' v instant age' := by
  obtain ⟨s, hs, hle, hlt⟩ := h
  exact ⟨s, sub hs, hle, by omega⟩

namespace Machine

/-- The value with which the move from `m` to `n` ends a call of the source, and the instant. -/
def answer? (m n : Machine V σ C) : Option (V × Instant) :=
  m.running.bind fun id => (m.tasks[id]?).bind fun t => (n.tasks[id]?).bind fun t' =>
    if t.control.isUpstream then t'.control.value?.map (·, m.world.now) else none

/-- The values with which calls of the source end in a list of moves, oldest first. -/
def answers (moves : List (Machine V σ C × Machine V σ C)) : List (V × Instant) :=
  moves.filterMap fun move => answer? move.1 move.2

theorem answers_append (before after : List (Machine V σ C × Machine V σ C)) :
    answers (before ++ after) = answers before ++ answers after := List.filterMap_append

theorem answers_subset (moves later : List (Machine V σ C × Machine V σ C)) :
    answers moves ⊆ answers (moves ++ later) := by
  rw [answers_append]
  exact List.subset_append_left _ _

/-- A call of the source that ends with a value has answered it. -/
theorem mem_answers {m n : Machine V σ C} {id : TaskId} {t t' : Task V C} {v : V}
    (moves : List (Machine V σ C × Machine V σ C)) (running : m.running = some id)
    (task : m.tasks[id]? = some t) (task' : n.tasks[id]? = some t')
    (upstream : t.control.isUpstream = true) (control' : t'.control = .deliver (.value v)) :
    (v, m.world.now) ∈ answers (moves ++ [(m, n)]) := by
  have hanswer : answer? m n = some (v, m.world.now) := by
    simp [answer?, running, task, task', upstream, control', Control.value?]
  rw [answers_append]
  exact List.mem_append_right _ (by simp [answers, hanswer])

end Machine

/-! ## What a stride keeps -/

/-- What is known of the origin of the values that a task passes on or has returned. -/
structure Task.Traced (kinds : List Kind) (answers : List (V × Instant)) (now : Instant)
    (t : Task V C) : Prop where
  /-- A value on its way has gone through the layers that the frames have passed. -/
  delivered : ∀ v, t.control = .deliver (.value v) →
    (∃ layer seen, t.frames = [.query layer seen]) ∨
      ∃ depth, Nested t.request depth t.frames ∧
        Stems answers v now (delay kinds ((depth + 1) / 2))
  returned : ∀ v instant, t.control = .ended (.fetched (.value v)) instant →
    Stems answers v instant (delay kinds kinds.length)

/-- What is known of the origin of the values that layers keep. -/
structure Content.Traced (kinds : List Kind) (answers : List (V × Instant)) (k : Content V) :
    Prop where
  kept : ∀ (i : Nat) (l : Layer V) (e : Entry V), k.layers[i]? = some l → l.kept? = some e →
    e.installedAt ≤ k.now ∧ ∃ s, (e.value, s) ∈ answers ∧ s ≤ e.installedAt ∧
      e.expiresAt.nanos ≤ s.nanos + delay kinds (i + 1)
  /-- What is kept for outages is kept for the time to live. -/
  stamped : ∀ (i : Nat) (timeToLive : Span) (e : Entry V),
    k.layers[i]? = some (.outage timeToLive (some e)) →
      e.expiresAt.nanos = e.installedAt.nanos + timeToLive.nanos

section Stride

variable {kinds : List Kind} {answers answers' : List (V × Instant)}

/-- A valid entry of a layer stems from an answer. -/
theorem Content.Traced.stems {k : Content V} {i : Nat} {l : Layer V} {e : Entry V}
    (h : k.Traced kinds answers) (here : k.layers[i]? = some l) (kept : l.kept? = some e)
    (valid : e.isValid k.now = true) : Stems answers e.value k.now (delay kinds (i + 1)) := by
  obtain ⟨hinstalled, s, hs, hle, hexpires⟩ := h.kept i l e here kept
  refine ⟨s, hs, Instant.le_trans hle hinstalled, ?_⟩
  rw [Entry.isValid_iff, Instant.le_def] at valid
  omega

theorem Content.Traced.mono {k : Content V} (h : k.Traced kinds answers)
    (sub : answers ⊆ answers') : k.Traced kinds answers' := by
  refine ⟨?_, h.stamped⟩
  intro i l e here kept
  obtain ⟨hinstalled, s, hs, hfacts⟩ := h.kept i l e here kept
  exact ⟨hinstalled, s, sub hs, hfacts⟩

/-- Layers that have not changed keep what they kept. -/
theorem Content.Traced.later {k k' : Content V} (h : k.Traced kinds answers)
    (layers : k'.layers = k.layers) (now : k.now ≤ k'.now) : k'.Traced kinds answers := by
  refine ⟨?_, ?_⟩
  · intro i l e here kept
    rw [layers] at here
    obtain ⟨hinstalled, hs⟩ := h.kept i l e here kept
    exact ⟨Instant.le_trans hinstalled now, hs⟩
  · intro i timeToLive e here
    rw [layers] at here
    exact h.stamped i timeToLive e here

/-- A layer is replaced by one that keeps nothing or an entry that stems from an answer. -/
theorem Content.Traced.setLayer {k : Content V} {i : Nat} {l : Layer V}
    (h : k.Traced kinds answers)
    (kept : ∀ e, l.kept? = some e → e.installedAt ≤ k.now ∧ ∃ s, (e.value, s) ∈ answers ∧
      s ≤ e.installedAt ∧ e.expiresAt.nanos ≤ s.nanos + delay kinds (i + 1))
    (stamped : ∀ timeToLive e, l = .outage timeToLive (some e) →
      e.expiresAt.nanos = e.installedAt.nanos + timeToLive.nanos) :
    (k.setLayer i l).Traced kinds answers := by
  refine ⟨?_, ?_⟩
  · intro j x e here hkept
    rcases Content.getElem?_setLayer here with ⟨rfl, rfl⟩ | ⟨-, here⟩
    · exact kept e hkept
    · exact h.kept j x e here hkept
  · intro j timeToLive e here
    rcases Content.getElem?_setLayer here with ⟨rfl, hl⟩ | ⟨-, here⟩
    · exact stamped timeToLive e hl.symm
    · exact h.stamped j timeToLive e here

theorem Task.Traced.mono {now : Instant} {t : Task V C} (h : t.Traced kinds answers now)
    (sub : answers ⊆ answers') : t.Traced kinds answers' now := by
  refine ⟨?_, ?_⟩
  · intro v control
    rcases h.delivered v control with hquery | ⟨depth, hn, hstems⟩
    · exact Or.inl hquery
    · exact Or.inr ⟨depth, hn, hstems.mono sub (Nat.le_refl _)⟩
  · intro v instant control
    exact (h.returned v instant control).mono sub (Nat.le_refl _)

/-- Nothing is said of a task that has no value. -/
theorem Task.traced_of_no_value {now : Instant} {t : Task V C}
    (delivered : ∀ v, t.control ≠ .deliver (.value v))
    (returned : t.control.isAnswer = false) : t.Traced kinds answers now := by
  refine ⟨?_, ?_⟩
  · intro v control
    exact absurd control (delivered v)
  · intro v instant control
    rw [control] at returned
    cases returned

variable {t t' : Task V C} {k k' : Content V}

/-- A frame of a layer is around something further in, and lies within what is further out. -/
theorem Nested.pop {request : Request} {depth : Nat} {f : Frame} {frames : List Frame}
    (h : Nested request depth (f :: frames)) (layer : f.isLayer = true) :
    ∃ depth', Nested request depth' frames ∧ depth ≤ depth' := by
  cases f with
  | retry l force | outage l force | health l => exact ⟨_, h.2, Nat.le_add_right_of_le h.1⟩
  | load l startedAt | query l seen | job l job retryAfter | timer l job firedAt => cases layer

/-- A value that reaches a frame has gone through no layer further out. -/
theorem Task.Traced.stems {now : Instant} {v : V} {f : Frame} {frames : List Frame}
    (h : t.Traced kinds answers now) (control : t.control = .deliver (.value v))
    (head : t.frames = f :: frames) (other : ∀ layer seen, f ≠ .query layer seen) :
    ∃ depth, Nested t.request depth (f :: frames) ∧
      Stems answers v now (delay kinds ((depth + 1) / 2)) := by
  rcases h.delivered v control with ⟨layer, seen, hquery⟩ | ⟨depth, hn, hstems⟩
  · rw [head] at hquery
    cases hquery
    exact absurd rfl (other layer seen)
  · rw [head] at hn
    exact ⟨depth, hn, hstems⟩

variable [Perishable V]

/-- What layers keep stems from answers, after every step. -/
theorem Stride.traced_content (h : Stride t k t' k') (hkinds : k.kinds = kinds)
    (content : k.Traced kinds answers) (task : t.Traced kinds answers k.now) :
    k'.Traced kinds answers := by
  -- the kind of a layer tells how long it keeps a value
  have hsucc : ∀ {i : Nat} {l : Layer V}, k.layers[i]? = some l →
      delay kinds (i + 1) = delay kinds i + l.kind.keeps := by
    intro i l here
    rw [← hkinds]
    exact delay_succ (Content.kinds_getElem? here)
  have hcount : ∀ {k : Content V} {meter : Nat} {event : Event}, k.Traced kinds answers →
      (k.count meter event).Traced kinds answers := fun h => ⟨h.kept, h.stamped⟩
  cases h with
  | grant control here => exact content.setLayer (by simp [Layer.kept?]) (by simp)
  | reject control here => exact hcount (content.setLayer (by simp [Layer.kept?]) (by simp))
  | observe control head here => exact content.setLayer (by simp [Layer.kept?]) (by simp)
  | hit | miss | retry | serve | fail => exact hcount content
  | call control => exact content.later rfl (Instant.le_refl _)
  | @store layer force frames v timeToLive stored expiresAt control head here later =>
      -- only a value that came from further in is kept: what this layer serves never gets here
      obtain ⟨depth, hn, s, hs, hle, hage⟩ := task.stems control head (by simp)
      have hnanos := Instant.later?_eq_some later
      have hdepth : delay kinds ((depth + 1) / 2) ≤ delay kinds layer := by
        have := hn.1
        exact delay_mono kinds (by omega)
      have hlayer := hsucc here
      simp only [Layer.kind, Kind.keeps] at hlayer
      refine content.setLayer ?_ ?_
      · intro e he
        cases he
        refine ⟨Instant.le_refl _, s, hs, hle, ?_⟩
        show expiresAt.nanos ≤ _
        omega
      · intro timeToLive' e he
        cases he
        exact hnanos
  | @install layer startedAt frames v c e control head here entry =>
      -- the cache adds its own time to live to the age that the value has come with
      obtain ⟨depth, hn, s, hs, hle, hage⟩ := task.stems control head (by simp)
      have hexpires := (Lifetime.le_of_entry? entry).1
      have hdepth : delay kinds ((depth + 1) / 2) ≤ delay kinds layer := by
        have := hn.1
        exact delay_mono kinds (by omega)
      have hlayer := hsucc here
      simp only [Layer.kind, Kind.keeps] at hlayer
      refine hcount (content.setLayer ?_ (by simp))
      intro e' he
      cases he
      rw [Lifetime.value_of_entry? entry, Lifetime.installedAt_of_entry? entry]
      exact ⟨Instant.le_refl _, s, hs, hle, by omega⟩
  | _ => exact content

/-- What a task passes on or returns stems from answers, after every step. -/
theorem Stride.traced_task (shaped : t.Shaped) (strays : t.StraysInQuery) (h : Stride t k t' k')
    (same : t.Same t') (content : k.Traced kinds answers) (task : t.Traced kinds answers k.now)
    (upstream : t.control.isUpstream = true → ∀ v, t'.control = .deliver (.value v) →
      (v, k.now) ∈ answers) :
    t'.Traced kinds answers k.now := by
  refine ⟨?_, ?_⟩
  · intro v control'
    rw [same.2]
    -- a value that a task delivers is an answer, or comes out of a layer that kept it
    cases h.handover control' with
    | stay unmoved =>
        subst unmoved
        exact task.delivered v control'
    | @answer source control frames =>
        rw [frames]
        cases source with
        | some index => exact Or.inl (strays index control)
        | none =>
            have hanswer := upstream (by simp [Control.isUpstream, control]) v control'
            refine Or.inr ⟨0, shaped.of_source? control, k.now, hanswer, Instant.le_refl _, ?_⟩
            exact Int.le_add_of_nonneg_right (Int.natCast_nonneg _)
    | hit control here entry valid value frames =>
        rw [frames, ← value]
        refine Or.inr ⟨_, shaped.of_enter control, ?_⟩
        exact (content.stems here entry valid).mono (fun _ h => h) (delay_mono kinds (by omega))
    | adopt control here newer valid value frames =>
        rw [frames, ← value]
        refine Or.inr ⟨_, shaped.of_locked control, ?_⟩
        exact (content.stems here (Cache.of_replacement? newer).2 valid).mono (fun _ h => h)
          (delay_mono kinds (by omega))
    | serve control head here valid value =>
        obtain ⟨depth, hn⟩ := shaped.of_deliver control head
        rw [← value]
        refine Or.inr ⟨_, hn.2, ?_⟩
        exact (content.stems here rfl valid).mono (fun _ h => h) (delay_mono kinds (by omega))
    | pass control head layer =>
        obtain ⟨depth, hn, hstems⟩ := task.stems control head (by
          rintro l seen rfl
          cases layer)
        obtain ⟨depth', hn', hle⟩ := hn.pop layer
        exact Or.inr ⟨depth', hn', hstems.mono (fun _ h => h) (delay_mono kinds (by omega))⟩
    | install control head here =>
        obtain ⟨depth, hn, hstems⟩ := task.stems control head (by simp)
        have hle := hn.1
        exact Or.inr ⟨_, hn.2, hstems.mono (fun _ h => h) (delay_mono kinds (by omega))⟩
  · intro v instant control'
    rcases h.answer_cases control' with rfl | ⟨control, head, rfl⟩
    · exact task.returned v instant control'
    · -- the value has come out of all layers
      rcases task.delivered v control with ⟨layer, seen, hquery⟩ | ⟨depth, -, hstems⟩
      · rw [head] at hquery
        cases hquery
      · exact hstems.mono (fun _ h => h) (delay_le_length kinds _)

end Stride

namespace Machine

/-! ## Runs -/

/-- What is known of the origin of the values in a machine. -/
structure Traced (kinds : List Kind) (answers : List (V × Instant)) (m : Machine V σ C) : Prop where
  content : m.world.content.Traced kinds answers
  tasks : ∀ (i : Nat) (t : Task V C), m.tasks[i]? = some t → t.Traced kinds answers m.world.now

section Moves

variable [Perishable V] {kinds : List Kind} {m n : Machine V σ C}
  {moves : List (Machine V σ C × Machine V σ C)}

/-- Every move keeps track of where values come from. -/
theorem Traced.move (sound : m.Sound)
    (strays : ∀ (i : Nat) (t : Task V C), m.tasks[i]? = some t → t.StraysInQuery)
    (h : Traced kinds (answers moves) m) (hkinds : m.world.content.kinds = kinds)
    (move : StackMove m n) :
    Traced kinds (answers (moves ++ [(m, n)])) n := by
  have hsub := answers_subset moves [(m, n)]
  cases move with
  | @turn id t t' running task stride same tasks =>
      have task' : n.tasks[id]? = some t' := by
        rw [tasks]
        exact getElem?_set_some t' task
      have hnow : n.world.now = m.world.now := stride.now
      have content := h.content.mono hsub
      have ht := (h.tasks id t task).mono hsub
      refine ⟨stride.traced_content hkinds content ht, ?_⟩
      intro i x hx
      rw [hnow]
      rw [tasks] at hx
      rcases getElem?_set_cases hx with ⟨rfl, rfl⟩ | ⟨-, hx⟩
      · exact stride.traced_task (sound.shaped _ t task) (strays _ t task) same content ht
          fun upstream v control' => mem_answers moves running task task' upstream control'
      · exact (h.tasks i x hx).mono hsub
  | arrive idle foreground tasks content =>
      have hnow : n.world.now = m.world.now := congrArg Content.now content
      refine ⟨?_, ?_⟩
      · rw [content]
        exact h.content.mono hsub
      · intro i x hx
        rw [hnow]
        rw [tasks] at hx
        rcases getElem?_snoc hx with hx | ⟨-, rfl⟩
        · exact (h.tasks i x hx).mono hsub
        · exact Task.traced_of_no_value (by simp [Task.fresh]) rfl
  | rest active tasks content now =>
      refine ⟨?_, ?_⟩
      · rw [content]
        exact (h.content.mono hsub).later rfl now
      · intro i x hx
        rw [tasks] at hx
        refine ⟨?_, ((h.tasks i x hx).mono hsub).returned⟩
        -- no time passes while a task has an outcome to pass on
        intro v control
        obtain ⟨hrunning, -⟩ := sound.parked i x hx (by rw [control]; rfl)
        rw [active?_of_running hrunning hx] at active
        cases active

end Moves

section Runs

variable [Source σ V C] [Perishable V] {m₀ m : Machine V σ C}
  {moves : List (Machine V σ C × Machine V σ C)}

/-- Over a run of a stack that held nothing, every value stems from an answer of the source. -/
theorem traced_run {name : String} (fresh : m₀.Fresh) (blank : m₀.world.content.Blank name)
    (run : Run m₀ moves m) : Traced m₀.world.content.kinds (answers moves) m := by
  -- by induction on the run: all that is kept or handed on stems from the answers so far
  induction run with
  | start =>
      refine ⟨⟨?_, ?_⟩, ?_⟩
      · intro i l e here kept
        rw [blank.kept i l here] at kept
        cases kept
      · intro i timeToLive e here
        cases blank.kept i _ here
      · intro i t task
        obtain ⟨layer, c, r, rfl, -⟩ := fresh.tasks i t task
        exact Task.traced_of_no_value (by simp [Task.fresh]) rfl
  | @move moves m n run step ih =>
      have sound : m.Sound := sound_reaches fresh.sound run.reaches
      exact ih.move sound (straysInQuery_run fresh run) (kinds_run fresh.sound run)
        (stackMove sound step)

/-! ## Chains -/

omit [Source σ V C] [Perishable V] in
/-- A chain keeps a value for outages, and then in its cache. -/
theorem delay_of_chain (c : Config) (cached : c.cached = true) :
    delay c.kinds c.kinds.length =
      (if c.outageCached then c.outageTimeToLive.nanos else 0) + c.timeToLive.nanos := by
  rw [Config.kinds, Config.plans_eq]
  simp only [Config.lower, Config.middle, Config.topmost, cached, if_true]
  cases c.retrying <;> cases c.outageCached <;> cases c.health <;> cases c.rateLimited <;>
    simp [delay, LayerPlan.kind, Kind.keeps, Config.cacheSettings]

omit [Source σ V C] [Perishable V] in
/-- No layer below the value for outages keeps one. -/
theorem delay_of_outage {c : Config} {i : Nat} {timeToLive : Span}
    (h : c.kinds[i]? = some (.outage timeToLive)) : delay c.kinds i = 0 := by
  apply delay_eq_zero
  intro kind hmem
  rw [(Config.outage_kind h).2.2 kind hmem]
  rfl

/-- A value that a fetch returns was an answer of the source no longer ago than the time to live,
and the time for which values are kept for outages, if they are. An entry for outages lives for that
time from the answer that it stems from, however often it is served. -/
theorem returned_value_is_recent {c : Config} {source : σ} (built : c.build source = .ok m₀)
    (cached : c.cached = true) (run : Run m₀ moves m) :
    (∀ (id : TaskId) (v : V) (endedAt : Instant), m.ended? id = some (.fetched (.value v), endedAt) →
      ∃ s, (v, s) ∈ answers moves ∧ s ≤ endedAt ∧
        endedAt.nanos ≤ s.nanos + (if c.outageCached then c.outageTimeToLive.nanos else 0) +
          c.timeToLive.nanos) ∧
    (∀ (layer : Nat) (timeToLive : Span) (e : Entry V),
      m.world.layers[layer]? = some (.outage timeToLive (some e)) →
      timeToLive = c.outageTimeToLive ∧ (e.value, e.installedAt) ∈ answers moves ∧
        e.expiresAt.nanos = e.installedAt.nanos + timeToLive.nanos) := by
  obtain ⟨fresh, blank, hkinds⟩ := Config.planned_of_build built
  have htraced := traced_run fresh blank run
  have hkinds' := (kinds_run fresh.sound run).trans hkinds
  rw [hkinds] at htraced
  constructor
  · intro id v endedAt hended
    obtain ⟨t, task, control⟩ := task_of_ended? hended
    obtain ⟨s, hs, hle, hage⟩ := (htraced.tasks id t task).returned v endedAt control
    rw [delay_of_chain c cached] at hage
    refine ⟨s, hs, hle, ?_⟩
    cases houtage : c.outageCached <;>
      simp only [houtage, if_true, if_false, Bool.false_eq_true] at hage ⊢ <;> omega
  · intro layer timeToLive e here
    have hl := World.layers_content here
    have hkind : c.kinds[layer]? = some (.outage timeToLive) := by
      rw [← hkinds']
      exact Content.kinds_getElem? hl
    obtain ⟨-, htime, -⟩ := Config.outage_kind hkind
    have hstamped := htraced.content.stamped layer timeToLive e hl
    obtain ⟨-, s, hs, hle, hexpires⟩ := htraced.content.kept layer _ e hl rfl
    -- nothing below keeps a value, so the answer came at the instant of the stamp
    rw [delay_succ hkind, delay_of_outage hkind] at hexpires
    have hsame : e.installedAt = s := by
      rw [Instant.le_def] at hle
      simp only [Kind.keeps] at hexpires
      exact Instant.ext (by omega)
    rw [hsame]
    exact ⟨htime, hs, by rw [← hsame]; exact hstamped⟩

end Runs

/-- A value that is served in an outage is no older than the two layers allow. -/
theorem returned_value_is_recent_in_outage :
    bridgedOutage.2.ended? 1 = some (.fetched (.value ⟨1, none⟩), ⟨12000000000⟩) ∧
      ∃ s, (⟨1, none⟩, s) ∈ answers bridgedOutage.1 ∧ s.nanos ≤ 12000000000 ∧
        12000000000 ≤ s.nanos + 3600000000000 + 10000000000 := by
  have hended : bridgedOutage.2.ended? 1 =
      some (.fetched (.value ⟨1, none⟩), ⟨12000000000⟩) := rfl
  obtain ⟨s, hs, hle, hage⟩ :=
    (returned_value_is_recent built_bridgedChain rfl run_bridgedOutage).1 1 _ _ hended
  exact ⟨hended, s, hs, hle, hage⟩

end Machine

end CredentialSupply
