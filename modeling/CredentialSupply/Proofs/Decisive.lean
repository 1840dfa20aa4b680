import CredentialSupply.Proofs.Attempts

set_option autoImplicit false

/-!
# Outcomes that no layer turns

The layers above a call of the source look at how it ended: a failure that may pass by itself is
retried, or bridged with a value that was kept. Any other outcome is decisive. It goes up past one
frame at each step, and no frame but that of a cache that finds the value expired makes another
outcome of it (`Task.deliver_settles`). So the fetch calls the source no more, and returns at the
same instant (`settled_of_decisive_call`). That the caches on its way are there holds of every task
(`housed_run`).
-/

namespace CredentialSupply

variable {V σ C : Type}

/-- Whether nothing but the outcome itself can come of a call that ends so: it does not end with a
failure that may pass by itself. -/
def Outcome.isDecisive : Outcome V → Bool
  | .failed f => !f.isUnavailable
  | .value _ | .crashed => true

/-- How long a layer of this kind keeps what it is given, at most. -/
def Kind.timeToLive? : Kind → Option Span
  | .outage timeToLive => some timeToLive
  | .cache settings _ => some settings.lifetime.timeToLive
  | .retry | .rateLimit | .health _ => none

/-- The clock represents the end of whatever a layer may be given to keep. -/
def HasRoom (kinds : List Kind) (now : Instant) : Prop :=
  ∀ kind ∈ kinds, ∀ timeToLive ∈ kind.timeToLive?, (now.later? timeToLive).isSome = true

instance (kinds : List Kind) (now : Instant) : Decidable (HasRoom kinds now) :=
  inferInstanceAs (Decidable (∀ kind ∈ kinds, ∀ timeToLive ∈ kind.timeToLive?, _))

/-- A fetch left the frame at a layer, or at a cache. -/
def Frame.IsLeft (kinds : List Kind) : Frame → Prop
  | .load layer _ => CacheAt kinds layer
  | f => f.isLayer = true

section Settled

variable [Perishable V]

/-- Whether the frame is that of a cache that finds a value expired which is new at an instant. -/
def Frame.findsExpired (kinds : List Kind) (now : Instant) (v : V) : Frame → Bool
  | .load layer _ =>
      match kinds[layer]? with
      | some (.cache settings _) => (settings.lifetime.entry? v now).any fun e => !e.isValid now
      | _ => false
  | _ => false

/-- The outcome of a fetch with these frames around a call that has ended with a decisive outcome:
the same, unless a cache finds the value expired. -/
def Outcome.past (kinds : List Kind) (now : Instant) (frames : List Frame) : Outcome V → Outcome V
  | .value v =>
      if frames.any (Frame.findsExpired kinds now v) then .failed .refreshFailed else .value v
  | outcome => outcome

variable {kinds : List Kind} {now : Instant} {f : Frame} {frames : List Frame} {outcome : Outcome V}

theorem Outcome.past_nil : outcome.past kinds now [] = outcome := by
  cases outcome <;> rfl

/-- A frame that finds nothing expired makes no difference. -/
theorem Outcome.past_cons (h : ∀ v, outcome = .value v → f.findsExpired kinds now v = false) :
    outcome.past kinds now (f :: frames) = outcome.past kinds now frames := by
  cases outcome with
  | value v => simp [past, h v rfl]
  | failed failure => rfl
  | crashed => rfl

end Settled

/-! ## One step -/

theorem World.kinds_getElem? (w : World V σ) (i : Nat) :
    w.content.kinds[i]? = (w.layers[i]?).map Layer.kind := by
  simp [Content.kinds, World.content, List.getElem?_map, Function.comp_def]

theorem World.kind_of_cache? {w : World V σ} {i : Nat} {c : Cache V} (h : w.cache? i = some c) :
    w.content.kinds[i]? = some (.cache c.settings c.meter) := by
  rw [kinds_getElem?, (cache?_eq_some_iff w i c).1 h]
  rfl

section Stride

variable [Perishable V] {t t' : Task V C} {k k' : Content V}

/-- A task asks for the locks of caches only, and hands its values to caches only. -/
structure Task.Housed (kinds : List Kind) (t : Task V C) : Prop where
  control : ∀ layer seen, t.control.snapshot? = some (layer, seen) → CacheAt kinds layer
  frames : ∀ layer startedAt, Frame.load layer startedAt ∈ t.frames → CacheAt kinds layer

/-- A fetch asks for the locks of caches only, and goes back up only to layers and caches. -/
structure Task.Keeps (kinds : List Kind) (t : Task V C) : Prop where
  control : ∀ layer seen, t.control.snapshot? = some (layer, seen) → CacheAt kinds layer
  frames : ∀ f ∈ t.frames, f.IsLeft kinds

omit [Perishable V] in
theorem Layer.isLeft_of_frame? {kinds : List Kind} {l : Layer V} {layer : Nat} {force : Bool}
    {f : Frame} (h : l.frame? layer force = some f) : f.IsLeft kinds := by
  cases l <;> cases h <;> rfl

/-- Only a call of the source is recorded. -/
theorem Stride.calls_eq (control : t.control.source? ≠ some none) (h : Stride t k t' k') :
    k'.calls = k.calls := by
  cases h with
  | @call source force progress control' =>
      cases source with
      | none => exact absurd (by rw [control']; rfl) control
      | some index => rfl
  | _ => rfl

omit [Perishable V] in
theorem Task.housed_fresh (kinds : List Kind) (id : TaskId) (request : Request) :
    (Task.fresh id request : Task V C).Housed kinds :=
  ⟨by simp [Task.fresh, Control.snapshot?], by simp [Task.fresh]⟩

/-- Every step keeps a task so, given that a worker works for a cache. -/
theorem Stride.housed (post : ∀ layer, t.request = .work layer → CacheAt k.kinds layer)
    (housed : t.Housed k.kinds) (h : Stride t k t' k') : t'.Housed k.kinds := by
  constructor
  · intro layer seen snapshot
    rcases h.snapshot_cases snapshot with before | ⟨c, here, -⟩ | request
    · exact housed.control layer seen before
    · exact .of_layer rfl here
    · exact post layer request
  · intro layer startedAt member
    rcases h.frame_cases member with before | ⟨i, force, l, -, -, frame⟩ |
      ⟨i, seen, force, control, frame⟩ | ⟨i, seen, frame⟩ | duty
    · exact housed.frames layer startedAt before
    · exact (Layer.isLeft_of_frame? frame : Frame.IsLeft k.kinds (.load layer startedAt))
    · -- whoever holds the lock of a cache makes its inner call
      cases frame
      exact housed.control layer seen (by rw [control]; rfl)
    · cases frame
    · cases duty

omit [Perishable V] in
/-- The frames of a fetch are those of layers and caches. -/
theorem Nested.isLeft {kinds : List Kind} {force : Bool} {depth : Nat} {frames : List Frame}
    (h : Nested (.fetch force) depth frames)
    (housed : ∀ layer startedAt, Frame.load layer startedAt ∈ frames → CacheAt kinds layer) :
    ∀ f ∈ frames, f.IsLeft kinds := by
  induction frames generalizing depth with
  | nil => simp
  | cons g frames ih =>
      have hrest : ∀ layer startedAt, Frame.load layer startedAt ∈ frames → CacheAt kinds layer :=
        fun layer startedAt hf => housed layer startedAt (List.mem_cons_of_mem _ hf)
      rw [List.forall_mem_cons]
      cases g with
      | retry | outage | health => exact ⟨rfl, ih h.2 hrest⟩
      | load layer startedAt => exact ⟨housed layer startedAt List.mem_cons_self, ih h.2 hrest⟩
      | query => cases h.1.choose_spec
      | job | timer => cases h.2.1

omit [Perishable V] in
/-- So a fetch keeps to layers and caches. -/
theorem Task.Housed.keeps {kinds : List Kind} {force : Bool} (housed : t.Housed kinds)
    (shaped : t.Shaped) (request : t.request = .fetch force) : t.Keeps kinds := by
  refine ⟨housed.control, ?_⟩
  rcases shaped.nested_or_nil with ⟨depth, nested⟩ | hnil
  · rw [request] at nested
    exact nested.isLeft housed.frames
  · simp [hnil]

end Stride

namespace Task

variable [Perishable V] {t : Task V C} {w : World V σ} {f : Frame} {frames : List Frame}
  {outcome : Outcome V}

/-- A task with the outcome passed on past a frame, and no more to come of it than before. -/
def Settles (w : World V σ) (t t' : Task V C) (f : Frame) (frames : List Frame)
    (outcome : Outcome V) : Prop :=
  ∃ outcome', t' = pass { t with frames } outcome' ∧ outcome'.isDecisive = true ∧
    outcome'.past w.content.kinds w.now frames = outcome.past w.content.kinds w.now (f :: frames)

theorem settles_pass (decisive : outcome.isDecisive = true)
    (h : ∀ v, outcome = .value v → f.findsExpired w.content.kinds w.now v = false) :
    Settles w t (pass { t with frames } outcome) f frames outcome :=
  ⟨outcome, rfl, decisive, (Outcome.past_cons h).symm⟩

/-- A decisive outcome goes up past one frame. -/
theorem deliver_settles (head : t.frames = f :: frames) (left : f.IsLeft w.content.kinds)
    (room : HasRoom w.content.kinds w.now) (decisive : outcome.isDecisive = true) :
    Settles w t (t.deliver w outcome).2 f frames outcome := by
  rw [deliver, head]
  cases f with
  | retry layer force =>
      simp only [retried]
      split
      next failure =>
        rw [if_neg (by simpa [Outcome.isDecisive] using decisive)]
        exact settles_pass decisive fun _ _ => rfl
      next => exact settles_pass decisive fun _ _ => rfl
  | outage layer force =>
      simp only [bridged]
      split
      next timeToLive stored v hl =>
        -- the layer keeps the value, for which the clock has room
        have hkind : Kind.outage timeToLive ∈ w.content.kinds := by
          apply List.mem_of_getElem? (i := layer)
          rw [World.kinds_getElem?, hl]
          rfl
        obtain ⟨expiresAt, hlater⟩ := Option.isSome_iff_exists.1 (room _ hkind timeToLive rfl)
        simp only [hlater]
        exact settles_pass decisive fun _ _ => rfl
      next timeToLive e failure hl =>
        have hnot : failure.isUnavailable = false := by
          simpa [Outcome.isDecisive] using decisive
        simp only [hnot, Bool.false_and, Bool.false_eq_true, if_false]
        exact settles_pass decisive fun _ _ => rfl
      next => exact settles_pass decisive fun _ _ => rfl
  | health layer =>
      simp only [observed]
      split <;> exact settles_pass decisive fun _ _ => rfl
  | load layer startedAt =>
      obtain ⟨c, hc⟩ := World.exists_cache_of_kind left
      have hkind := World.kind_of_cache? hc
      cases outcome with
      | failed failure => exact settles_pass decisive fun _ h => by cases h
      | crashed => exact settles_pass decisive fun _ h => by cases h
      | value v =>
          obtain ⟨e, he⟩ := Lifetime.entry?_isSome c.settings.lifetime v
            (room _ (List.mem_of_getElem? hkind) _ rfl)
          have hfinds : Frame.findsExpired w.content.kinds w.now v (.load layer startedAt) =
              !e.isValid w.now := by
            simp [Frame.findsExpired, hkind, he]
          simp only [refreshed, install, hc, he, settle]
          cases hvalid : e.isValid w.now with
          | true =>
              have hvalue := Lifetime.value_of_entry? he
              rw [hvalid] at hfinds
              refine ⟨.value v, by simp [hvalid, hvalue], rfl, ?_⟩
              exact (Outcome.past_cons fun _ h => by cases h; exact hfinds).symm
          | false =>
              rw [hvalid] at hfinds
              refine ⟨.failed .refreshFailed, ?_, rfl, ?_⟩
              · simp [hvalid]
              · simp [Outcome.past, hfinds]
  | query | job | timer => cases left

end Task

/-! ## The run -/

/-- Only a worker may be told to end. -/
theorem Task.step_of_foreground [Source σ V C] [Perishable V] {t : Task V C} {w : World V σ}
    (favoured : Signal) (foreground : t.request.isWork = false) :
    t.step w favoured = t.advance w favoured := by
  rw [step]
  split
  next layer request _ =>
    rw [request] at foreground
    cases foreground
  next => rfl

/-- A task that has ended makes no step. -/
theorem Task.step_of_ended [Source σ V C] [Perishable V] {t : Task V C} {w : World V σ}
    {favoured : Signal} {answer : Answer V} {endedAt : Instant}
    (foreground : t.request.isWork = false) (control : t.control = .ended answer endedAt) :
    t.step w favoured = (w, t) := by
  rw [step_of_foreground favoured foreground, advance, control]

theorem Task.step_of_deliver [Source σ V C] [Perishable V] {t : Task V C} {w : World V σ}
    {favoured : Signal} {outcome : Outcome V} (foreground : t.request.isWork = false)
    (control : t.control = .deliver outcome) : t.step w favoured = t.deliver w outcome := by
  rw [step_of_foreground favoured foreground, advance, control]

namespace Machine

variable {m n k : Machine V σ C} {id : TaskId} {force : Bool}
  {moves : List (Machine V σ C × Machine V σ C)}

/-- With the move from `m` to `n` a call of the stack's own source ends, made by a task. -/
def EndsCall (m n : Machine V σ C) (id : TaskId) (outcome : Outcome V) : Prop :=
  ∃ t t', m.running = some id ∧ m.tasks[id]? = some t ∧ t.control.source? = some none ∧
    n.tasks[id]? = some t' ∧ t'.control = .deliver outcome

/-- What has become, after some moves, of a fetch one of whose calls had ended with a decisive
outcome and these frames around it. -/
inductive Settling [Perishable V] (force : Bool) (kinds : List Kind) (now : Instant)
    (frames : List Frame) (outcome : Outcome V) (id : TaskId) (moves : Nat) (m : Machine V σ C) :
    Prop where
  /-- The outcome goes up past the frames. -/
  | rising {t : Task V C} {outcome' : Outcome V} (running : m.running = some id)
      (task : m.tasks[id]? = some t) (request : t.request = .fetch force)
      (control : t.control = .deliver outcome') (decisive : outcome'.isDecisive = true)
      (past : outcome'.past kinds now t.frames = outcome.past kinds now frames)
      (count : moves + t.frames.length = frames.length) (keeps : t.Keeps kinds)
      (kinds' : m.world.content.kinds = kinds) (now' : m.world.now = now)
  /-- The fetch has returned. -/
  | returned {t : Task V C} (task : m.tasks[id]? = some t) (request : t.request = .fetch force)
      (control : t.control = .ended (.fetched (outcome.past kinds now frames)) now)
      (late : frames.length < moves)

section Moves

variable [Source σ V C] [Perishable V] {kinds : List Kind} {now : Instant} {frames : List Frame}
  {outcome : Outcome V} {count : Nat}

/-- A fetch or a query that has returned stays as it is. -/
theorem task_of_returned {t : Task V C} {answer : Answer V} {endedAt : Instant} (move : Move m n)
    (task : m.tasks[id]? = some t) (foreground : t.request.isWork = false)
    (control : t.control = .ended answer endedAt) : n.tasks[id]? = some t := by
  cases move with
  | @advance i favoured running =>
      cases hi : m.tasks[i]? with
      | none => simpa [Machine.advance, hi] using task
      | some u =>
          rw [(advanced favoured hi).tasks]
          by_cases heq : i = id
          · subst heq
            rw [task] at hi
            cases hi
            rw [Task.step_of_ended foreground control]
            exact getElem?_set_some t task
          · rw [List.getElem?_set_ne heq]
            exact task
  | resume | pass => exact task
  | arrive => exact getElem?_append_some _ task
  | drop => rwa [drop, tasks_reclaim]

/-- While a task runs no time passes. -/
theorem now_of_running {t : Task V C} (sound : m.Sound) (move : Move m n)
    (running : m.running = some id) (task : m.tasks[id]? = some t) : n.world.now = m.world.now := by
  cases stackMove sound move with
  | turn running' task' stride => exact stride.now
  | arrive idle => simp [running] at idle
  | rest active => simp [active?_of_running running task] at active

/-- A step of the fetch takes its outcome past one frame, or is its return. -/
theorem Settling.move (sound : m.Sound) (room : HasRoom kinds now)
    (h : Settling force kinds now frames outcome id count m) (move : Move m n) :
    Settling force kinds now frames outcome id (count + 1) n := by
  cases h with
  | @returned t task request control late =>
      have foreground : t.request.isWork = false := by
        rw [request]
        rfl
      exact .returned (task_of_returned move task foreground control) request control (by omega)
  | @rising t outcome' running task request control decisive past hcount keeps kinds' now' =>
      have hnow := now_of_running sound move running task
      have hkinds := (stackMove sound move).kinds
      cases move with
      | resume idle | arrive idle | pass _ idle | drop idle => simp [running] at idle
      | @advance i favoured running' =>
          rw [running] at running'
          cases running'
          have hadvanced := advanced favoured task
          have hstep : t.step m.world favoured = t.deliver m.world outcome' :=
            Task.step_of_deliver (by rw [request]; rfl) control
          have task' := hadvanced.tasks ▸ getElem?_set_some (t.step m.world favoured).2 task
          rw [hstep] at task'
          cases hf : t.frames with
          | nil =>
              -- no frame is left, so that the step is the return
              have hdeliver : (t.deliver m.world outcome').2 =
                  t.goto (.ended (.fetched outcome') m.world.now) := by
                rw [Task.deliver, hf]
                rfl
              rw [hf, Outcome.past_nil] at past
              rw [hdeliver, past, now'] at task'
              rw [hf, List.length_nil] at hcount
              exact .returned task' request rfl (by omega)
          | cons f rest =>
              subst kinds' now'
              obtain ⟨outcome'', hdeliver, hdecisive, hpast⟩ :=
                Task.deliver_settles hf (keeps.frames f (by simp [hf])) room decisive
              -- a task that hands on an outcome is not parked, so that nobody else runs
              have hnext := hadvanced.parked
              rw [hstep, hdeliver] at hnext
              have hrunning : (m.advance favoured id).running = some id :=
                Decidable.byContradiction fun hne => by cases hnext hne
              rw [hdeliver] at task'
              rw [hf, List.length_cons] at hcount
              refine .rising hrunning task' request rfl hdecisive ?_ ?_ ?_ hkinds hnow
              · rw [← past, hf]
                exact hpast
              · show count + 1 + rest.length = _
                omega
              · exact ⟨by simp [Task.pass, Task.goto, Control.snapshot?],
                  fun g hg => keeps.frames g (by rw [hf]; exact List.mem_cons_of_mem _ hg)⟩

/-- Such a fetch calls the source no more. -/
theorem Settling.callsBy_eq (sound : m.Sound)
    (h : Settling force kinds now frames outcome id count m) (move : Move m n) :
    callsBy id (moves ++ [(m, n)]) = callsBy id moves := by
  obtain ⟨u, task, control⟩ :
      ∃ u, m.tasks[id]? = some u ∧ u.control.source? ≠ some none := by
    cases h with
    | rising _ task _ control => exact ⟨_, task, by simp [control, Control.source?]⟩
    | returned task _ control => exact ⟨_, task, by simp [control, Control.source?]⟩
  have hcalls : ∃ made, n.world.calls = m.world.calls ++ made ∧ ∀ call ∈ made, call.task ≠ id := by
    cases stackMove sound move with
    | @turn i t t' running task' stride same tasks =>
        by_cases hi : i = id
        · subst hi
          rw [task] at task'
          cases task'
          exact ⟨[], (stride.calls_eq control).trans (List.append_nil _).symm, by simp⟩
        · obtain ⟨made, hmade, hown⟩ := stride.own_calls
          refine ⟨made, hmade, fun call hcall => ?_⟩
          rw [hown call hcall, sound.ids i t task']
          exact hi
    | arrive idle foreground tasks content | rest active tasks content now =>
        exact ⟨[], (congrArg Content.calls content).trans (List.append_nil _).symm, by simp⟩
  obtain ⟨made, hmade, hother⟩ := hcalls
  rw [callsBy_snoc hmade, List.filter_eq_nil_iff.2 (by simpa using hother), List.append_nil]

omit [Source σ V C] [Perishable V] in
/-- A worker works for a cache. -/
theorem Sound.cacheAt {id : TaskId} {t : Task V C} {layer : Nat} (sound : m.Sound)
    (task : m.tasks[id]? = some t) (request : t.request = .work layer) :
    CacheAt m.world.content.kinds layer := by
  obtain ⟨c, r, cache, -⟩ := sound.posted id t layer task request
  exact ⟨c.settings, c.meter, World.kind_of_cache? cache⟩

theorem housed_run {id : TaskId} (sound : m.Sound) (run : Run m moves n)
    (start : ∀ t, m.tasks[id]? = some t → t.Housed m.world.content.kinds) :
    ∀ t, n.tasks[id]? = some t → t.Housed n.world.content.kinds := by
  refine run.invariant (P := fun _ n => ∀ t, n.tasks[id]? = some t →
    t.Housed n.world.content.kinds) sound start ?_
  rintro - m n hm - move h x hx
  rw [move.kinds]
  cases move with
  | @turn i t t' running task stride same tasks =>
      rw [tasks] at hx
      rcases getElem?_set_cases hx with ⟨rfl, rfl⟩ | ⟨-, hx⟩
      · exact stride.housed (fun layer request => hm.cacheAt task request) (h t task)
      · exact h x hx
  | arrive idle foreground tasks content =>
      rw [tasks] at hx
      rcases getElem?_snoc hx with hx | ⟨-, rfl⟩
      · exact h x hx
      · exact Task.housed_fresh _ _ _
  | rest active tasks content now =>
      rw [tasks] at hx
      exact h x hx

/-- A fetch keeps to layers and caches. -/
theorem keeps_run (sound : m.Sound) (idle : m.running = none)
    (run : Run (m.spawn (.fetch force)).2 moves n) :
    n.world.content.kinds = m.world.content.kinds ∧
      ∃ t, n.tasks[m.tasks.length]? = some t ∧ t.request = .fetch force ∧
        t.Keeps m.world.content.kinds := by
  have hsound : (m.spawn (.fetch force)).2.Sound := sound_move sound (.arrive idle rfl)
  have hkinds : n.world.content.kinds = m.world.content.kinds :=
    (kinds_run hsound run).trans (congrArg Content.kinds (World.content_wake _ _))
  have hfresh : (m.spawn (.fetch force)).2.tasks[m.tasks.length]? =
      some (Task.fresh m.tasks.length (.fetch force)) := by
    simp [spawn]
  obtain ⟨t, task, same⟩ := run.stays hfresh
  have housed : t.Housed n.world.content.kinds := by
    refine housed_run hsound run ?_ t task
    intro u hu
    rw [hfresh] at hu
    cases hu
    exact Task.housed_fresh _ _ _
  refine ⟨hkinds, t, task, same.2, ?_⟩
  rw [← hkinds]
  exact housed.keeps ((sound_reaches hsound run.reaches).shaped _ t task) same.2

end Moves

section Theorem

variable [Source σ V C] [Perishable V] {m₀ : Machine V σ C} {outcome : Outcome V}
  {later : List (Machine V σ C × Machine V σ C)}

/-- When a call of the source that a fetch makes ends with anything but a failure that may pass by
itself, then whatever the layers hold and whoever else is at work, the fetch makes no other call, no
other task runs before it has returned, and it returns at the same instant. Its outcome is that of
the call, or the failure of a refresh if a cache on the way finds the value expired. -/
theorem settled_of_decisive_call (sound : m₀.Sound) (idle : m₀.running = none)
    (run : Run (m₀.spawn (.fetch force)).2 moves m) (move : Move m n)
    (ends : EndsCall m n m₀.tasks.length outcome) (decisive : outcome.isDecisive = true)
    (room : HasRoom n.world.content.kinds n.world.now) (run' : Run n later k) :
    ∃ t, n.tasks[m₀.tasks.length]? = some t ∧ callsBy m₀.tasks.length later = [] ∧
      (later.length ≤ t.frames.length → k.running = some m₀.tasks.length) ∧
      (t.frames.length < later.length →
        k.ended? m₀.tasks.length = some
          (.fetched (outcome.past n.world.content.kinds n.world.now t.frames), n.world.now)) := by
  have hsound : m.Sound := sound_reaches (sound_move sound (.arrive idle rfl)) run.reaches
  have hsound' : n.Sound := sound_move hsound move
  obtain ⟨hkinds, t, task, request, keeps⟩ := keeps_run sound idle (run.move move)
  obtain ⟨-, t', -, -, -, task', control⟩ := ends
  rw [task] at task'
  cases task'
  have running : n.running = some m₀.tasks.length :=
    (hsound'.parked _ t task (by rw [control]; rfl)).1
  rw [← hkinds] at keeps
  have hrun : Settling force n.world.content.kinds n.world.now t.frames outcome m₀.tasks.length
      later.length k ∧ callsBy m₀.tasks.length later = [] := by
    induction run' with
    | start =>
        exact ⟨.rising running task request control decisive rfl (by simp) keeps rfl rfl, rfl⟩
    | @move later k l run' move' ih =>
        obtain ⟨hsettling, hcalls⟩ := ih
        have hk : k.Sound := sound_reaches hsound' run'.reaches
        rw [List.length_append]
        exact ⟨hsettling.move hk room move', (hsettling.callsBy_eq hk move').trans hcalls⟩
  refine ⟨t, task, hrun.2, ?_, ?_⟩
  · intro hle
    cases hrun.1 with
    | rising running' => exact running'
    | returned _ _ _ late => omega
  · intro hlt
    cases hrun.1 with
    | rising _ _ _ _ _ _ count => omega
    | returned task'' _ control' _ => simp [ended?, task'', Task.ended?, control']

end Theorem

/-- A source that fails after a while, in a way that does not pass by itself. -/
def brokenSource : Script (Dated Nat) := ⟨[⟨100, .failure (.service "broken")⟩], 0, true, false, 0⟩

/-- Layers over that source that would retry, or serve a value that was kept, if it were
unavailable. -/
def brokenStack : Machine (Dated Nat) (Script (Dated Nat)) (ScriptReply (Dated Nat)) :=
  let settings : CacheSettings := ⟨⟨Span.ofSeconds 60, Span.ofSeconds 5⟩, Span.ofSeconds 1⟩
  let layers : List (Layer (Dated Nat)) :=
    [.retry, .outage (Span.ofSeconds 3600) (some ⟨⟨1, none⟩, ⟨0⟩, ⟨3600000000000⟩⟩),
      .health HealthRecord.blank, .cache (Cache.empty settings 0 none), .retry]
  layers.foldl addLayer (bare "chain" brokenSource [])

/-- A fetch at that stack whose call is about to end. -/
def brokenCall : Machine (Dated Nat) (Script (Dated Nat)) (ScriptReply (Dated Nat)) :=
  (scheduled 13 (brokenStack.spawn (.fetch false)).2).2

/-- The failure of the call is that of the fetch, past five layers, and no other call is made. -/
theorem broken_call_settles_fetch :
    callsBy 0 (scheduled 6 (brokenCall.advance .job 0)).1 = [] ∧
      (scheduled 6 (brokenCall.advance .job 0)).2.ended? 0 =
        some (.fetched (.failed (.service "broken")), ⟨100000000⟩) := by
  have sound : brokenStack.Sound := sound_of_no_tasks rfl (by decide)
  have run : Run (brokenStack.spawn (.fetch false)).2
      (scheduled 13 (brokenStack.spawn (.fetch false)).2).1 brokenCall := run_scheduled 13 _
  have move : Move brokenCall (brokenCall.advance .job 0) := .advance .job rfl
  have ends : EndsCall brokenCall (brokenCall.advance .job 0) 0 (.failed (.service "broken")) :=
    ⟨_, _, rfl, rfl, rfl, rfl, rfl⟩
  have room : HasRoom (brokenCall.advance .job 0).world.content.kinds
      (brokenCall.advance .job 0).world.now := by decide
  obtain ⟨t, task, calls, -, returned⟩ :=
    settled_of_decisive_call sound rfl run move ends rfl room (run_scheduled 6 _)
  cases task
  exact ⟨calls, returned (by decide)⟩

end Machine

end CredentialSupply
