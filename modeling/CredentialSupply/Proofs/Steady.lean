import CredentialSupply.Proofs.Contact
import CredentialSupply.Proofs.Decisive
import CredentialSupply.Proofs.Peace

set_option autoImplicit false

/-!
# Nothing crashes while the clock has room

A step crashes only where a cache is missing or an addition to the clock has no room
(`Task.Crashes`). Caches are there, since a task asks for the locks of caches only and hands its
values to caches only (`housed_run`). What is added to the clock is how long a cache or the layer
for outages keeps a value, the window of a worker, which is shorter, and the pause of a worker. So
no task of a stack crashes in a run that ends while the clock has room for these, and no worker ends
unless it is told to (`steady_run`).
-/

namespace CredentialSupply

variable {V σ C : Type}

/-- A source whose calls do not end in a crash. -/
def Source.IsSturdy (σ : Type) {V C : Type} [Source σ V C] : Prop :=
  (∀ force now (s : σ), (Source.start force now s).2 ≠ .answer .crashed) ∧
    ∀ call now (s : σ), (Source.resume call now s).2 ≠ .answer .crashed

theorem ScriptReply.outcome_ne_crashed (now : Instant) (reply : ScriptReply V) :
    reply.outcome now ≠ .crashed := by
  cases reply <;> simp [outcome]

theorem isSturdy_script : Source.IsSturdy (Script V) := by
  constructor
  · intro force now s
    show (s.start now).2 ≠ _
    unfold Script.start
    simp only
    split
    · simp
    next item _ =>
      split
      · have h := item.reply.outcome_ne_crashed now
        simp [h]
      · simp
  · intro reply now s
    have h := ScriptReply.outcome_ne_crashed now reply
    show Progress.answer (reply.outcome now) ≠ _
    simp [h]

/-! ## What tells a worker to end stays told -/

namespace Machine

section Told

variable [Perishable V] {m n : Machine V σ C} {layer : Nat} {c c' : Cache V} {r : EarlyRefresh}

/-- Whether a worker has been told to end is kept from being undone. -/
theorem LayerMove.told (h : LayerMove layer m c n c') (early : c.early = some r)
    (stopped : r.stopped = true) : ∃ r', c'.early = some r' ∧ r'.stopped = true := by
  have htold : ∀ {d : Cache V}, (∃ x, d.early = some x ∧ x.stopped = true) →
      ∃ x, d.told.early = some x ∧ x.stopped = true := by
    rintro d ⟨x, hx, -⟩
    exact ⟨_, by rw [Cache.early_told, hx]; rfl, rfl⟩
  cases h with
  | @turn id t t' c₁ running task turn same tasks running' parked told now =>
      have hturn : ∃ x, c₁.early = some x ∧ x.stopped = true := by
        rcases turn.post_cases with hpost | ⟨-, -, rfl⟩
        · rw [early, Option.map_some, Option.map_eq_some_iff] at hpost
          obtain ⟨x, hx, heq⟩ := hpost
          exact ⟨x, hx, (congrArg Prod.snd heq).trans stopped⟩
        · exact htold ⟨r, early, stopped⟩
      rcases told with rfl | ⟨-, rfl⟩
      · exact hturn
      · exact htold hturn
  | arrive idle foreground tasks cache now =>
      subst cache
      exact ⟨r, early, stopped⟩
  | rest active tasks cache now =>
      rcases cache with rfl | rfl
      · exact ⟨r, early, stopped⟩
      · exact htold ⟨r, early, stopped⟩

theorem isStopped_move [Source σ V C] (sound : m.Sound) (move : Move m n) {t t' : Task V C}
    (request : t'.request = t.request) (h : t.isStopped m.world = true) :
    t'.isStopped n.world = true := by
  unfold Task.isStopped at h ⊢
  rw [request]
  split at h
  next layer hwork =>
    obtain ⟨r, hr, stopped⟩ := (Option.any_eq_true _ _).1 h
    obtain ⟨c, hc, early⟩ := Option.bind_eq_some_iff.1 hr
    obtain ⟨c', hc', next⟩ := layerMove sound move hc
    obtain ⟨r', hr', stopped'⟩ := next.told early stopped
    rw [World.early?_eq n.world hc', hr']
    exact stopped'
  next => cases h

end Told

end Machine

/-! ## Room on the clock -/

theorem HasRoom.of_le {kinds : List Kind} {now later : Instant} (room : HasRoom kinds later)
    (clock : Instant.origin ≤ now) (le : now ≤ later) : HasRoom kinds now :=
  fun kind hkind timeToLive hspan =>
    Instant.later?_isSome_before clock le (room kind hkind timeToLive hspan)

/-- A task that has not crashed, whose timers have fired before now. A worker rests at its post
only, and has ended only if `dismissed`. -/
structure Task.Steady (now : Instant) (dismissed : Prop) (t : Task V C) : Prop where
  fine : t.control.isCrash = false
  timers : ∀ f ∈ t.frames, ∀ firedAt ∈ f.firedAt?, Instant.origin ≤ firedAt ∧ firedAt ≤ now
  post : t.request.isWork = true →
    (∀ due, t.control ≠ .resting due) ∧ ∀ task, t.control ≠ .joining task
  dismissed : t.request.isWork = true → t.hasEnded = true → dismissed

namespace Task

theorem Steady.mono {t : Task V C} {now later : Instant} {dismissed dismissed' : Prop}
    (h : t.Steady now dismissed) (le : now ≤ later) (imp : dismissed → dismissed') :
    t.Steady later dismissed' where
  fine := h.fine
  timers f hf firedAt hfired :=
    ⟨(h.timers f hf firedAt hfired).1, Instant.le_trans (h.timers f hf firedAt hfired).2 le⟩
  post := h.post
  dismissed work ended := imp (h.dismissed work ended)

theorem steady_fresh (now : Instant) (dismissed : Prop) (id : TaskId) (request : Request) :
    (Task.fresh id request : Task V C).Steady now dismissed where
  fine := rfl
  timers := by simp [fresh]
  post _ := by simp [fresh]
  dismissed _ ended := by cases ended

/-- A task that is plain is steady, if its timers are. -/
theorem steady_of_isPlain {t : Task V C} {now : Instant} {dismissed : Prop}
    (plain : t.isPlain = true)
    (timers : ∀ f ∈ t.frames, ∀ firedAt ∈ f.firedAt?, Instant.origin ≤ firedAt ∧ firedAt ≤ now) :
    t.Steady now dismissed where
  fine := by
    cases control : t.control with
    | deliver outcome => cases outcome <;> simp_all [isPlain, Control.isCrash]
    | ended answer endedAt => simp [isPlain, control] at plain
    | _ => rfl
  timers := timers
  post work := by
    constructor <;>
    · intro _ control
      simp [isPlain, control, work] at plain
  dismissed _ ended := by
    cases control : t.control <;> simp_all [isPlain, hasEnded, ended?]

section Contact

variable {t : Task V C} {w : World V σ} {next : World V σ × Task V C} {dismissed : Prop}

/-- A call that does not end in a crash leaves the task steady. -/
theorem Steady.await (h : t.Steady w.now dismissed) {source : Option Nat} {progress : Progress V C}
    (sturdy : progress ≠ .answer .crashed) : (t.await source progress).Steady w.now dismissed := by
  have hframes := t.frames_await source progress
  cases progress with
  | answer outcome =>
      refine steady_of_isPlain ?_ h.timers
      cases outcome <;> first | rfl | exact absurd rfl sturdy
  | wait due call =>
      refine ⟨rfl, h.timers, fun _ => ?_, fun _ ended => by cases ended⟩
      simp [Task.await, goto]

/-- A step keeps a task steady, if it does not crash it, and does not end a worker that is not
dismissed. -/
theorem Contact.steady [Source σ V C] (h : t.Contact w next)
    (sturdy : ∀ source progress, t.Calls w source next progress → progress ≠ .answer .crashed)
    (clock : Instant.origin ≤ w.now) (crashes : ¬ t.Crashes w) (retires : t.Retires w → dismissed)
    (shaped : next.2.Shaped) (request : next.2.request = t.request)
    (steady : t.Steady w.now dismissed) : next.2.Steady w.now dismissed := by
  -- a task that rests or has ended has no frames
  have hidle : next.2.control.isIdle = true → ∀ f ∈ next.2.frames, ∀ firedAt ∈ f.firedAt?,
      Instant.origin ≤ firedAt ∧ firedAt ≤ w.now := by
    intro idle f hf
    rw [shaped.frames_of_isIdle idle] at hf
    cases hf
  have hforeground : t.request.isWork = false → next.2.control.isCrash = false →
      next.2.control.isIdle = true → next.2.Steady w.now dismissed := by
    intro foreground fine idle
    have hwork : next.2.request.isWork ≠ true := by simp [request, foreground]
    exact ⟨fine, hidle idle, fun work => absurd work hwork, fun work => absurd work hwork⟩
  cases h with
  | plain sources plain timers =>
      refine steady_of_isPlain plain fun f hf firedAt hfired => ?_
      rcases timers f hf with hf | hnow
      · exact steady.timers f hf firedAt hfired
      · rw [hnow firedAt hfired]
        exact ⟨clock, Instant.le_refl _⟩
  | stay => exact steady
  | finish sources foreground control' fine =>
      have hwork : t.request.isWork = false := by
        cases hwork : t.request.isWork with
        | false => rfl
        | true =>
            obtain ⟨hresting, hjoining⟩ := steady.post hwork
            rcases foreground with h | ⟨due, control⟩ | ⟨task, control⟩
            · exact hwork.symm.trans h
            · exact absurd control (hresting due)
            · exact absurd control (hjoining task)
      exact hforeground hwork fine (by rw [control']; rfl)
  | retire sources cause control' =>
      exact ⟨by rw [control']; rfl, hidle (by rw [control']; rfl), fun _ => by simp [control'],
        fun _ _ => retires cause⟩
  | crash sources cause control' => exact absurd cause crashes
  | start control here sources => exact steady.await (sturdy _ _ (.start control here sources))
  | resume control here reached sources =>
      exact steady.await (sturdy _ _ (.resume control here sources))
  | close control close sources control' =>
      refine hforeground (by rw [close]; rfl) ?_ ?_ <;>
        rcases control' with ⟨due, control'⟩ | control' <;> rw [control'] <;> rfl

end Contact

end Task

/-- The clock has room for whatever the stack may add to it. -/
structure World.HasRoom (w : World V σ) : Prop where
  kept : CredentialSupply.HasRoom w.content.kinds w.now
  pause : (w.now.later? EarlyRefresh.retryPause).isSome = true

namespace Machine

section Steady

variable [Source σ V C] [Perishable V] {m n m₀ : Machine V σ C}
  {moves : List (Machine V σ C × Machine V σ C)}

/-- A cache was there at the start of the run, with the same settings and the same worker. -/
theorem Run.cache_before (sound : m₀.Sound) (run : Run m₀ moves m) {layer : Nat} {c : Cache V}
    (cache : m.world.cache? layer = some c) :
    ∃ c₀, m₀.world.cache? layer = some c₀ ∧ c₀.Kept c := by
  have hat : CacheAt m₀.world.content.kinds layer := by
    rw [← kinds_run sound run]
    exact ⟨c.settings, c.meter, World.kind_of_cache? cache⟩
  obtain ⟨c₀, cache₀⟩ := World.exists_cache_of_kind hat
  obtain ⟨d, hd, kept, -⟩ := reaches_cache sound run.reaches cache₀
  rw [cache] at hd
  cases hd
  exact ⟨c₀, cache₀, kept⟩

/-- The window of a worker is shorter than the time to live of its cache. -/
theorem window_run (fresh : m₀.Fresh) (run : Run m₀ moves m) {layer : Nat} {c : Cache V}
    {r : EarlyRefresh} (cache : m.world.cache? layer = some c) (early : c.early = some r) :
    r.window.nanos < c.settings.lifetime.timeToLive.nanos := by
  obtain ⟨c₀, cache₀, kept⟩ := run.cache_before fresh.sound cache
  rw [kept.settings]
  exact window_lt fresh cache₀ kept early

/-- Where the clock has room, no step crashes. -/
theorem not_crashes {id : TaskId} {t : Task V C} (fresh : m₀.Fresh) (run : Run m₀ moves m)
    (room : m.world.HasRoom) (task : m.tasks[id]? = some t) (fine : t.control.isCrash = false) :
    ¬ t.Crashes m.world := by
  have housed : t.Housed m.world.content.kinds := by
    refine housed_run fresh.sound run ?_ t task
    intro u hu
    obtain ⟨layer, c, r, rfl, -⟩ := fresh.tasks id u hu
    exact Task.housed_fresh _ _ _
  have clock := (sound_reaches fresh.sound run.reaches).clock
  have hcache : ∀ layer, CacheAt m.world.content.kinds layer → m.world.cache? layer ≠ none := by
    intro layer hat
    obtain ⟨c, hc⟩ := World.exists_cache_of_kind hat
    simp [hc]
  have hstay : ∀ {layer : Nat} {c : Cache V}, m.world.cache? layer = some c →
      (m.world.now.later? c.settings.lifetime.timeToLive).isSome = true := by
    intro layer c hc
    exact room.kept _ (List.mem_of_getElem? (World.kind_of_cache? hc)) _ rfl
  intro cause
  cases cause with
  | passed control =>
      rw [control] at fine
      cases fine
  | @unlocked layer seen force control missing =>
      refine hcache layer (housed.control layer seen ?_) missing
      rcases control with control | ⟨deadline, control⟩ <;> rw [control] <;> rfl
  | @unloaded layer startedAt frames head missing =>
      refine hcache layer (housed.frames layer startedAt ?_) missing
      rw [head]
      exact List.mem_cons_self
  | @window layer c r cache early beyond =>
      -- what has room for the time to live has room for the window
      have hwindow := window_run fresh run cache early
      have hroom : (m.world.now.later? r.window).isSome = true :=
        Instant.later?_isSome_of_le clock (by omega) (hstay cache)
      rw [beyond] at hroom
      cases hroom
  | stay cache beyond =>
      have hroom := hstay cache
      rw [beyond] at hroom
      cases hroom
  | @outage layer timeToLive stored here beyond =>
      have hkind : m.world.content.kinds[layer]? = some (.outage timeToLive) := by
        rw [World.kinds_getElem?, here]
        rfl
      have hroom := room.kept _ (List.mem_of_getElem? hkind) timeToLive rfl
      rw [beyond] at hroom
      cases hroom

omit [Source σ V C] [Perishable V] in
/-- Where the clock has room, a worker ends only because it has been told to. -/
theorem told_of_retires {id : TaskId} {t : Task V C} {dismissed : Prop} (sound : m.Sound)
    (room : m.world.HasRoom) (task : m.tasks[id]? = some t)
    (steady : t.Steady m.world.now dismissed) (cause : t.Retires m.world) :
    t.isStopped m.world = true := by
  cases cause with
  | told stopped => exact stopped
  | crashed control =>
      have fine := steady.fine
      rw [control] at fine
      cases fine
  | @homeless layer control missing =>
      have request : t.request = .work layer := by
        have shaped := sound.shaped id t task
        rcases control with ⟨retryAfter, control⟩ | ⟨retryAfter, deadline, control⟩ <;>
          · rw [Task.Shaped, control] at shaped
            exact shaped.1
      obtain ⟨c, r, cache, early, -⟩ := sound.posted id t layer task request
      rw [World.early?_eq m.world cache, early] at missing
      cases missing
  | @pause firedAt fired beyond =>
      have hfired : Instant.origin ≤ firedAt ∧ firedAt ≤ m.world.now := by
        rcases fired with rfl | ⟨layer, job, frames, head⟩
        · exact ⟨sound.clock, Instant.le_refl _⟩
        · exact steady.timers _ (by rw [head]; exact List.mem_cons_self) firedAt rfl
      have hroom : (firedAt.later? EarlyRefresh.retryPause).isSome = true :=
        Instant.later?_isSome_before hfired.1 hfired.2 room.pause
      rw [beyond] at hroom
      cases hroom

theorem steady_move (fresh : m₀.Fresh)
    (sturdy : ∀ id source progress, CallMove m n id source progress → progress ≠ .answer .crashed)
    (run : Run m₀ moves m) (move : Move m n) (room : m.world.HasRoom)
    (steady : ∀ (i : Nat) (t : Task V C), m.tasks[i]? = some t →
      t.Steady m.world.now (t.isStopped m.world = true)) :
    ∀ (i : Nat) (t : Task V C), n.tasks[i]? = some t →
      t.Steady n.world.now (t.isStopped n.world = true) := by
  have sound := sound_reaches fresh.sound run.reaches
  have le := move.now_le
  -- a task that is as it was
  have hsame : ∀ (i : Nat) (x : Task V C), m.tasks[i]? = some x →
      x.Steady n.world.now (x.isStopped n.world = true) := fun i x hx =>
    (steady i x hx).mono le (isStopped_move sound move rfl)
  intro i x hx
  cases contactMove sound move with
  | @turn id t next running task contact sources tasks =>
      rw [tasks] at hx
      rcases getElem?_set_cases hx with ⟨rfl, rfl⟩ | ⟨-, hx⟩
      · have hx' : n.tasks[i]? = some next.2 := by
          rw [tasks]
          exact getElem?_set_some _ task
        obtain ⟨t', task', same⟩ := move.stays task
        rw [hx'] at task'
        cases task'
        have hcalls : ∀ source progress, t.Calls m.world source next progress →
            progress ≠ .answer .crashed := fun source progress calls =>
          sturdy i source progress ⟨t, next, running, task, calls, sources, tasks⟩
        have hnext := contact.steady hcalls sound.clock
          (not_crashes fresh run room task (steady i t task).fine)
          (told_of_retires sound room task (steady i t task))
          ((sound_move sound move).shaped i _ hx') same.2 (steady i t task)
        exact hnext.mono le (isStopped_move sound move same.2)
      · exact hsame i x hx
  | rest sources tasks =>
      rcases tasks i x hx with hx | ⟨request, -, rfl⟩
      · exact hsame i x hx
      · exact Task.steady_fresh _ _ _ _

/-- Where the clock has room and no call of a source ends in a crash, no task of a stack crashes,
and no worker ends unless it has been told to. -/
theorem steady_run_of_calls (fresh : m₀.Fresh) (run : Run m₀ moves m)
    (sturdy : ∀ k l, (k, l) ∈ moves → ∀ id source progress, CallMove k l id source progress →
      progress ≠ .answer .crashed)
    (room : m.world.HasRoom) (i : Nat) (t : Task V C) (task : m.tasks[i]? = some t) :
    t.Steady m.world.now (t.isStopped m.world = true) := by
  -- by induction on the run: the task at its end was there before the last move, or is new
  induction run generalizing i t with
  | start =>
      obtain ⟨layer, c, r, rfl, -⟩ := fresh.tasks i t task
      exact Task.steady_fresh _ _ _ _
  | @move moves m n run move ih =>
      have sound := sound_reaches fresh.sound run.reaches
      have hroom : m.world.HasRoom := by
        constructor
        · have hkept := room.kept.of_le sound.clock move.now_le
          rwa [(stackMove sound move).kinds] at hkept
        · exact Instant.later?_isSome_before sound.clock move.now_le room.pause
      have before := ih (fun k l h => sturdy k l (List.mem_append_left _ h)) hroom
      exact steady_move fresh (sturdy m n (List.mem_append_right _ (List.mem_singleton.2 rfl))) run
        move hroom before i t task

/-- Where the clock has room, no task of a stack over a sturdy source crashes, and no worker ends
unless it has been told to. -/
theorem steady_run (sturdy : Source.IsSturdy σ (V := V) (C := C)) (fresh : m₀.Fresh)
    (run : Run m₀ moves m) (room : m.world.HasRoom) (i : Nat) (t : Task V C)
    (task : m.tasks[i]? = some t) : t.Steady m.world.now (t.isStopped m.world = true) := by
  refine steady_run_of_calls fresh run ?_ room i t task
  rintro k l - id source progress ⟨t, next, -, -, calls, -, -⟩
  cases calls with
  | start => exact sturdy.1 _ _ _
  | resume => exact sturdy.2 _ _ _

end Steady

end Machine

/-! ## Chains -/

namespace Config

variable {c : Config}

/-- The clock has room for what a chain keeps, once it has room for the times to live of the layers
that are selected. -/
theorem hasRoom_kinds {now : Instant}
    (cached : c.cached = true → (now.later? c.timeToLive).isSome = true)
    (outageCached : c.outageCached = true → (now.later? c.outageTimeToLive).isSome = true) :
    HasRoom c.kinds now := by
  intro kind hkind timeToLive hspan
  obtain ⟨i, hi⟩ := List.mem_iff_getElem?.1 hkind
  cases kind with
  | outage span =>
      cases hspan
      obtain ⟨selected, rfl, -⟩ := outage_kind hi
      exact outageCached selected
  | cache settings meter =>
      cases hspan
      obtain ⟨selected, -, rfl, -⟩ := cache_kind hi
      exact cached selected
  | retry | rateLimit | health target => cases hspan

/-- In a run of a chain up to an instant from which the clock still reaches the times to live of the
layers that are selected, and the pause of a worker, no call crashes, and a worker ends only once it
has been told to. Nothing is asked of the window, of the buffer and of the time for a refresh. -/
theorem steady_while_clock_reaches [Perishable V] {source : Script V}
    {m₀ m : Machine V (Script V) (ScriptReply V)}
    {moves : List (Machine V (Script V) (ScriptReply V) × Machine V (Script V) (ScriptReply V))}
    (built : c.build source = .ok m₀) (run : Machine.Run m₀ moves m)
    (cached : c.cached = true → (m.world.now.later? c.timeToLive).isSome = true)
    (outageCached : c.outageCached = true →
      (m.world.now.later? c.outageTimeToLive).isSome = true)
    (pause : (m.world.now.later? EarlyRefresh.retryPause).isSome = true) :
    ∀ t ∈ m.tasks, t.control.isCrash = false ∧
      (t.request.isWork = true → t.hasEnded = true → t.isStopped m.world = true) := by
  obtain ⟨fresh, -, hkinds⟩ := planned_of_build built
  have room : m.world.HasRoom := by
    refine ⟨?_, pause⟩
    rw [Machine.kinds_run fresh.sound run, hkinds]
    exact hasRoom_kinds cached outageCached
  intro t ht
  obtain ⟨i, task⟩ := List.mem_iff_getElem?.1 ht
  have steady := Machine.steady_run isSturdy_script fresh run room i t task
  exact ⟨steady.fine, steady.dismissed⟩

/-- A cache with an early refresh over a value that is kept for outages. -/
def eagerConfig : Config :=
  { withName "chain" with
    timeToLive := Span.ofSeconds 60, preemptive := true, window := Span.ofSeconds 10,
    mode := .eager, outageCached := true, outageTimeToLive := Span.ofSeconds 3600 }

/-- A cache that keeps its values for as many seconds as 64 bits count. -/
def overlongConfig : Config :=
  { withName "chain" with timeToLive := Span.ofSeconds 18446744073709551615 }

/-- A source that is unavailable after its first value. -/
def weakSource : Script (Dated Nat) :=
  ⟨[⟨0, .value fun _ => ⟨1, none⟩⟩, ⟨100, .failure (.unavailable "down")⟩], 0, false, false, 0⟩

/-- A chain over that source, before it has run. -/
def overWeakSource (c : Config) :
    Machine (Dated Nat) (Script (Dated Nat)) (ScriptReply (Dated Nat)) :=
  match c.build weakSource with
  | .ok m => m
  | .error _ => Machine.bare c.name weakSource []

/-- A fetch, an early refresh that is served in an outage, and the next one. -/
def eagerRun : List (Machine (Dated Nat) (Script (Dated Nat)) (ScriptReply (Dated Nat)) ×
      Machine (Dated Nat) (Script (Dated Nat)) (ScriptReply (Dated Nat))) ×
    Machine (Dated Nat) (Script (Dated Nat)) (ScriptReply (Dated Nat)) :=
  Machine.requested (.fetch false) 48 (overWeakSource eagerConfig)

/-- The clock does not reach the end of an overlong time to live: what passes the checks crashes
with its first value. -/
theorem overlong_time_to_live_crashes :
    overlongConfig.validate = .ok () ∧
      (∃ t ∈ (Machine.requested (.fetch false) 9 (overWeakSource overlongConfig)).2.tasks,
        t.control.isCrash = true) ∧
      eagerRun.2.world.source.answered = 3 ∧ ∀ t ∈ eagerRun.2.tasks, t.control.isCrash = false ∧
        (t.request.isWork = true → t.hasEnded = true → t.isStopped eagerRun.2.world = true) := by
  have built : eagerConfig.build weakSource = .ok (overWeakSource eagerConfig) := rfl
  have run : Machine.Run (overWeakSource eagerConfig) eagerRun.1 eagerRun.2 :=
    Machine.run_requested 48 rfl rfl
  refine ⟨rfl, ⟨_, List.mem_cons_self, rfl⟩, rfl, ?_⟩
  exact steady_while_clock_reaches built run (fun _ => rfl) (fun _ => rfl) rfl

end Config

end CredentialSupply
