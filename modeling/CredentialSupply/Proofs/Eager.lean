import CredentialSupply.Proofs.Freshness
import CredentialSupply.Proofs.Watch

set_option autoImplicit false

/-!
# Entries that are never seen to expire

The inner calls of a cache in eager mode take less than the window and have values that last for
longer (`Obliging`). In peace and in time, the worker of the cache is always at its post
(`Guarded`), which every move keeps. From the first entry on, the cache then has a valid one at
every instant, and every fetch is served from it (`eager_entry_stays_valid`).
-/

namespace CredentialSupply

variable {V σ C : Type}

/-- The instant at which the inner call of the cache at a layer began that a frame belongs to. -/
def Frame.startedAt? (layer : Nat) : Frame → Option Instant
  | .load l startedAt => if l = layer then some startedAt else none
  | _ => none

/-! ## An entry stays -/

section Stays

variable [Perishable V] {layer : Nat}

/-- A cache with an entry keeps it or replaces it. -/
theorem Turn.entry_stays {now : Instant} {t t' : Task V C} {c c' : Cache V}
    (h : Turn layer now t c t' c') (held : c.entry.isSome = true) : c'.entry.isSome = true := by
  cases h with
  | install => rfl
  | hit control valid noticed =>
      rcases Cache.noticed?_cases noticed with rfl | ⟨r, -, -, -, rfl⟩ <;> exact held
  | _ => exact held

theorem Machine.entry_stays [Source σ V C] {m n : Machine V σ C} {c : Cache V} (sound : m.Sound)
    (hc : m.world.cache? layer = some c) (held : c.entry.isSome = true) (run : Reaches m n) :
    ∃ c', n.world.cache? layer = some c' ∧ c'.entry.isSome = true := by
  refine run.invariant (P := fun _ d => d.entry.isSome = true) ?_ sound hc held
  intro k l d d' _ _ _ next hd
  cases next with
  | turn running task turn same tasks running' parked told =>
      have hturn := turn.entry_stays hd
      rcases told with rfl | ⟨-, rfl⟩ <;> exact hturn
  | arrive _ _ _ cache => exact cache ▸ hd
  | rest _ _ cache =>
      rcases cache with rfl | rfl <;> exact hd

end Stays

namespace Machine

/-! ## The tasks at a cache in peace -/

/-- What is known of the tasks at the cache at a layer in peace. -/
structure Orderly (layer : Nat) (m : Machine V σ C) (c : Cache V) : Prop where
  sound : m.Sound
  peaceful : m.Peaceful
  undismissed : m.Undismissed
  unforced : ∀ (i : Nat) (t : Task V C), m.tasks[i]? = some t → t.Carries false
  queued : Queued layer m c.lock
  awake : Awake layer m c.lock
  remembering : Remembering layer m c

section Orderly

variable [Source σ V C] [Perishable V] {layer : Nat} {m₀ m n : Machine V σ C} {c₀ c c' : Cache V}
  {moves : List (Machine V σ C × Machine V σ C)}

/-- In every run in peace the tasks at a cache are in order. -/
theorem orderly_run (fresh : m₀.Fresh) (cache : m₀.world.cache? layer = some c₀)
    (run : Run m₀ moves m) (peaceful : m.Peaceful) :
    ∃ c, m.world.cache? layer = some c ∧ c₀.Kept c ∧ Orderly layer m c := by
  have sound := sound_reaches fresh.sound run.reaches
  have hundismissed := undismissed_run fresh run peaceful
  have hunforced := unforced_run fresh run peaceful
  induction run with
  | start =>
      refine ⟨c₀, cache, .refl c₀, sound, peaceful, hundismissed, hunforced, fresh.queued cache,
        ?_, fresh.remembering cache⟩
      intro i hi
      have hlock : c₀.lock = Lock.free := congrArg Cache.lock (fresh.caches layer c₀ cache).eq_empty
      rw [hlock] at hi
      cases hi
  | @move moves k n run step ih =>
      have before := peaceful.before step
      obtain ⟨c, hc, kept, h⟩ := ih before (sound_reaches fresh.sound run.reaches)
        (undismissed_run fresh run before) (unforced_run fresh run before)
      obtain ⟨c', hc', next⟩ := layerMove h.sound step hc
      have hgoing : ∀ t ∈ k.tasks, t.stage layer ≠ .away → t.isStopped k.world = false := by
        intro t ht _
        obtain ⟨i, task⟩ := List.mem_iff_getElem?.1 ht
        exact h.undismissed i t task
      exact ⟨c', hc', kept.trans next.kept, sound, peaceful, hundismissed, hunforced,
        h.queued.move h.sound next, awake_move h.awake h.sound h.queued hgoing hc step hc' next,
        (h.remembering.move next).1⟩

end Orderly

/-! ## The inner provider -/

/-- The inner provider of the cache at a layer obliges: its calls end in less than the window, with
values whose entries outlast the window. -/
structure Obliging [Perishable V] (layer : Nat) (l : Lifetime) (window : Span)
    (m : Machine V σ C) : Prop where
  soon : ∀ t ∈ m.tasks, ∀ f ∈ t.frames, ∀ startedAt ∈ f.startedAt? layer,
    m.world.now.nanos < startedAt.nanos + window.nanos
  lasting : ∀ x ∈ innerEnd? layer m, ∃ e ∈ x.entry? l, e.outlasts window = true ∧
    ∀ own ∈ Perishable.ownExpiry e.value, own.IsWhole

instance [Perishable V] (layer : Nat) (l : Lifetime) (window : Span) (m : Machine V σ C) :
    Decidable (Obliging layer l window m) :=
  decidable_of_iff (_ ∧ _) ⟨fun h => ⟨h.1, h.2⟩, fun h => ⟨h.soon, h.lasting⟩⟩

section Provider

variable [Perishable V] {layer : Nat} {l : Lifetime} {window : Span} {m : Machine V σ C}

theorem Obliging.within (h : Obliging layer l window m) {t : Task V C} (member : t ∈ m.tasks)
    {startedAt : Instant} (hload : Frame.load layer startedAt ∈ t.frames) :
    m.world.now.nanos < startedAt.nanos + window.nanos :=
  h.soon t member _ hload startedAt (if_pos rfl)

/-- The inner call that the running task is about to end leads to an entry that lasts. -/
theorem Obliging.lasts (h : Obliging layer l window m) (whole : l.IsWhole)
    (window' : window.IsWhole) (now : m.world.now.IsWhole) (sound : m.Sound) {id : TaskId}
    {t : Task V C} (running : m.running = some id) (task : m.tasks[id]? = some t)
    (outcome : Outcome V) (inner : t.innerOutcome? layer = some outcome) :
    ∃ v e, outcome = .value v ∧ l.entry? v m.world.now = some e ∧ e.Lasts window := by
  obtain ⟨e, he, outlasts, own⟩ := h.lasting ⟨t.id, outcome, m.world.now⟩ (by
    rw [innerEnd?, active?_of_running running task, Option.bind_some, inner]
    rfl)
  cases outcome with
  | value v =>
      have stamp : l.entry? v m.world.now = some e := he
      rw [Lifetime.value_of_entry? stamp] at own
      exact ⟨v, e, rfl, stamp,
        Lifetime.lasts_of_entry? whole window' now sound.clock own stamp outlasts⟩
  | failed f => cases he
  | crashed => cases he

end Provider

/-! ## The guard -/

/-- The worker of the cache at a layer is at its post. Other tasks are at the cache only before its
first entry, or at the instant of the last one, about to take it over. -/
structure Guarded (layer : Nat) (m : Machine V σ C) (c : Cache V) (r : EarlyRefresh) : Prop where
  early : c.early = some r
  jobs : r.jobs = []
  blank : c.entry = none → r.claimed = none
  lasts : ∀ e, c.entry = some e → e.Lasts r.window
  visitors : ∀ e, c.entry = some e → ∀ (i : Nat) (t : Task V C), m.tasks[i]? = some t →
    i ≠ r.worker → t.stage layer ≠ .away → m.world.now = e.installedAt ∧
      t.stage layer ≠ .loading ∧ ∀ s, (t.stage layer).seen? = some s → s < c.generation
  worker : ∃ u, m.tasks[r.worker]? = some u ∧ u.request = .work layer ∧
    u.AtPost layer m.world.now c r (r.worker ∈ m.world.ready ∨ m.running = some r.worker)

section Guard

variable {layer : Nat} {m n : Machine V σ C} {c c' : Cache V} {r r' : EarlyRefresh} {e : Entry V}

theorem Guarded.valid (h : Guarded layer m c r) (entry : c.entry = some e)
    (soon : ∀ t ∈ m.tasks, ∀ startedAt, Frame.load layer startedAt ∈ t.frames →
      m.world.now.nanos < startedAt.nanos + r.window.nanos) :
    e.isValid m.world.now = true := by
  rw [Entry.isValid_iff, Instant.le_def]
  obtain ⟨u, task, -, post⟩ := h.worker
  cases post with
  | rests early =>
      have hroom := (early e entry).1
      omega
  | refreshes entry' claimed begun refreshes =>
      rw [entry] at entry'
      cases entry'
      cases refreshes with
      | ask _ _ inTime | hold _ _ inTime => omega
      | @load job firedAt startedAt stage frames inTime =>
          have hmem : Frame.load layer startedAt ∈ u.callFrames layer := by
            rw [frames]
            exact List.mem_cons_self
          have hsoon := soon u (List.mem_of_getElem? task) startedAt (Task.mem_of_callFrames hmem)
          omega

/-- When the window has begun, the worker has the cache for itself. -/
theorem Guarded.alone (h : Guarded layer m c r) (entry : c.entry = some e)
    (begun : e.expiresAt.nanos ≤ m.world.now.nanos + r.window.nanos) (i : Nat) (t : Task V C)
    (task : m.tasks[i]? = some t) (other : i ≠ r.worker) : t.stage layer = .away := by
  refine Decidable.byContradiction fun inside => ?_
  obtain ⟨hnow, -⟩ := h.visitors e entry i t task other inside
  have houtlasts := (e.outlasts_iff r.window).1 (h.lasts e entry).outlasts
  rw [hnow] at begun
  omega

/-- Within the window, the worker has claimed the entry. -/
theorem Guarded.claimed (h : Guarded layer m c r) (entry : c.entry = some e)
    (begun : e.expiresAt.nanos < m.world.now.nanos + r.window.nanos) :
    r.claimed = some e.expiresAt := by
  obtain ⟨u, -, -, post⟩ := h.worker
  cases post with
  | rests early =>
      have hroom := (early e entry).1
      omega
  | refreshes entry' claimed =>
      rw [entry] at entry'
      cases entry'
      exact claimed

/-- Nobody has the lock then, unless the worker has it. -/
theorem Guarded.free (h : Guarded layer m c r) (queued : Queued layer m c.lock)
    (entry : c.entry = some e)
    (begun : e.expiresAt.nanos ≤ m.world.now.nanos + r.window.nanos) {u : Task V C}
    (worker : m.tasks[r.worker]? = some u) (apart : (u.stage layer).isEngaged = false) :
    c.lock = .free := by
  rw [← Lock.parties_eq_nil_iff queued.proper]
  apply List.eq_nil_iff_forall_not_mem.2
  intro i hi
  obtain ⟨t, task, hengaged⟩ := (queued.engaged i).1 hi
  by_cases hworker : i = r.worker
  · subst hworker
    rw [worker] at task
    cases task
    rw [apart] at hengaged
    cases hengaged
  · rw [h.alone entry begun i t task hworker] at hengaged
    cases hengaged

/-- A worker that rests is outside its cache. -/
theorem stage_of_rests {u : Task V C} {woken : Prop} (shaped : u.Shaped)
    (rests : u.Rests layer c r woken) : u.stage layer = .away := by
  cases rests with
  | begin control ready =>
      rw [Task.Shaped, control] at shaped
      exact Task.stage_eq_away_of_nil shaped (by simp [control])
  | attend control =>
      rw [Task.Shaped, control] at shaped
      exact Task.stage_eq_away_of_nil shaped.2 (by simp [control])
  | listen control =>
      rw [Task.Shaped, control] at shaped
      exact Task.stage_eq_away_of_nil shaped.2 (by simp [control])
  | finish control frames =>
      rw [Task.stage_eq_around layer (by simp [control])]
      exact Task.around_eq_away (by simp [frames, Frame.isLoad])

/-! ### Moves that leave the cache -/

/-- The guard outlasts moves that take no time and forget nobody. -/
theorem Guarded.joined (h : Guarded layer m c r) (joined : Joined m n)
    (now : n.world.now = m.world.now)
    (woken : r.worker ∈ m.world.ready ∨ m.running = some r.worker →
      r.worker ∈ n.world.ready ∨ n.running = some r.worker) : Guarded layer n c r := by
  refine ⟨h.early, h.jobs, h.blank, h.lasts, ?_, ?_⟩
  · intro e entry i t task other inside
    rcases joined.task_or_away task layer with hm | haway
    · rw [now]
      exact h.visitors e entry i t hm other inside
    · exact absurd haway inside
  · obtain ⟨u, task, request, post⟩ := h.worker
    refine ⟨u, joined.kept _ u task, request, ?_⟩
    rw [now]
    exact post.congr rfl rfl woken

/-- Nobody is at a cache with an entry, except for its worker, when nothing is left to do. -/
theorem Guarded.away_of_settled (h : Guarded layer m c r) (sound : m.Sound)
    (queued : Queued layer m c.lock) (awake : Awake layer m c.lock)
    (settled : m.isSettled = true) (entry : c.entry = some e) (i : Nat) (t : Task V C)
    (task : m.tasks[i]? = some t) (other : i ≠ r.worker) : t.stage layer = .away := by
  refine Decidable.byContradiction fun inside => ?_
  obtain ⟨hnow, hidle, -⟩ := h.visitors e entry i t task other inside
  have idle : m.running = none := by
    simp only [isSettled, Bool.and_eq_true, Option.isNone_iff_eq_none] at settled
    exact settled.1
  have hparked := sound.idle idle task
  rcases t.stage_cases layer with ⟨seen, force, control, -⟩ | ⟨seen, force, deadline, -, stage⟩ |
    ⟨seen, force, control, -⟩ | haway | hloading
  · rw [control] at hparked
    cases hparked
  · -- the first one in line is in its inner call, and must be the worker
    have hmem : i ∈ c.lock.parties := (queued.engaged i).2 ⟨t, task, by rw [stage]; rfl⟩
    have hline : line layer m c.lock ≠ [] := by
      rw [line]
      exact List.append_ne_nil_of_left_ne_nil (List.ne_nil_of_mem hmem) _
    obtain ⟨j, x, hx, hloading⟩ := loading_of_settled queued awake settled hline
    by_cases hworker : j = r.worker
    · subst hworker
      obtain ⟨u, hu, -, post⟩ := h.worker
      rw [hx] at hu
      cases hu
      cases post with
      | rests early rests =>
          rw [stage_of_rests (sound.shaped _ x hx) rests] at hloading
          cases hloading
      | refreshes entry' claimed begun =>
          exact inside (h.alone entry' begun i t task other)
    · have hx' := h.visitors e entry j x hx hworker (by rw [hloading]; exact Stage.noConfusion)
      exact hx'.2.1 hloading
  · rw [control] at hparked
    cases hparked
  · exact inside haway
  · exact hidle hloading

/-- Time does not pass beyond the beginning of the window while the worker rests. -/
theorem Guarded.passes (h : Guarded layer m c r) (orderly : Orderly layer m c)
    (eager : r.mode = .eager) (settled : m.isSettled = true) {instant : Instant}
    (due : ∀ d ∈ m.dueInstants, (m.passTo instant).world.now ≤ d) :
    Guarded layer (m.passTo instant) c r := by
  have ⟨idle, ready⟩ : m.running = none ∧ m.world.ready = [] := by
    simpa [isSettled] using settled
  obtain ⟨u, task, request, post⟩ := h.worker
  have hparked := orderly.sound.idle idle task
  have hwoken : ¬ (r.worker ∈ m.world.ready ∨ m.running = some r.worker) := by
    simp [idle, ready]
  have hle : m.world.now ≤ (m.passTo instant).world.now := by
    rw [now_passTo]
    exact Instant.le_latest_left _ _
  rw [Instant.le_def] at hle
  refine ⟨h.early, h.jobs, h.blank, h.lasts, ?_, u, task, request, ?_⟩
  · intro e entry i t htask other inside
    exact absurd (h.away_of_settled orderly.sound orderly.queued orderly.awake settled entry i t
      htask other) inside
  · cases post with
    | rests early rests =>
        cases rests with
        | begin control ready' => exact absurd ready' hwoken
        | attend control =>
            rw [control] at hparked
            cases hparked
        | finish control =>
            rw [control] at hparked
            cases hparked
        | @listen deadline control listening called timer =>
            have hcalm : r.refreshed = false := by
              cases hrefreshed : r.refreshed with
              | false => rfl
              | true => exact absurd (called hrefreshed) hwoken
            refine .rests (fun e entry => ⟨?_, (early e entry).2⟩)
              (.listen control listening (fun h => absurd (called h) hwoken) timer)
            -- the timer is set to the beginning of the window
            have hlasts := h.lasts e entry
            have hdeadline : deadline = some (e.windowStart r.window) := by
              rw [timer hcalm, entry]
              simp [EarlyRefresh.deadline?, eager, hlasts.outlasts]
            have hmem : e.windowStart r.window ∈ m.dueInstants := by
              refine List.mem_filterMap.2 ⟨u, List.mem_of_getElem? task, ?_⟩
              rw [control, Control.due?, hdeadline, Option.map_some,
                Instant.ceilMilli_of_isWhole hlasts.whole]
            have hdue := due _ hmem
            rw [hlasts.start, Instant.le_def] at hdue
            simp only at hdue
            omega
    | @refreshes e entry claimed begun refreshes =>
        refine .refreshes entry claimed (by omega) ?_
        cases refreshes with
        | ask control =>
            rw [control] at hparked
            cases hparked
        | hold control =>
            rw [control] at hparked
            cases hparked
        | load stage frames inTime => exact .load stage frames inTime

end Guard

/-! ### Steps -/

section Steps

variable [Source σ V C] [Perishable V] {layer : Nat} {m n : Machine V σ C} {c c' : Cache V}
  {r : EarlyRefresh} {id : TaskId} {t : Task V C}

/-- A step of another task forgets neither the worker nor its post. -/
theorem Guarded.beside (h : Guarded layer m c r) (favoured : Signal)
    (running : m.running = some id) (task : m.tasks[id]? = some t) (other : id ≠ r.worker) :
    ∃ u, (m.advance favoured id).tasks[r.worker]? = some u ∧ u.request = .work layer ∧
      u.AtPost layer m.world.now c r (r.worker ∈ (m.advance favoured id).world.ready ∨
        (m.advance favoured id).running = some r.worker) := by
  have facts := advanced favoured task
  have leads : World.Leads t.id m.world (m.advance favoured id).world :=
    Task.leads_step.trans facts.leads
  obtain ⟨u, hu, hwork, post⟩ := h.worker
  refine ⟨u, ?_, hwork, post.congr rfl rfl ?_⟩
  · rw [facts.tasks, List.getElem?_set_ne other]
    exact hu
  · rintro (hready | hrunning)
    · exact Or.inl (leads.ready _ hready)
    · rw [running] at hrunning
      exact absurd (Option.some.inj hrunning) other

/-- The first entry finds the worker at rest and calls it. -/
theorem Guarded.install (h : Guarded layer m c r) (orderly : Orderly layer m c)
    (favoured : Signal) (hc : m.world.cache? layer = some c) (running : m.running = some id)
    (task : m.tasks[id]? = some t) (other : id ≠ r.worker) (blank : c.entry = none)
    {startedAt : Instant} {frames : List Frame} {v : V} {e : Entry V}
    (control : t.control = .deliver (.value v)) (head : t.frames = .load layer startedAt :: frames)
    (stamp : c.settings.lifetime.entry? v m.world.now = some e) (lasts : e.Lasts r.window)
    (away : (t.step m.world favoured).2.stage layer = .away) :
    Guarded layer (m.advance favoured id) { c.install e with lock := c.lock.release }
      { r with refreshed := true } := by
  have facts := advanced favoured task
  have now := now_advance favoured task
  have hinstalled := Lifetime.installedAt_of_entry? stamp
  obtain ⟨u, hu, hwork, post⟩ := h.beside favoured running task other
  refine ⟨by simp [Cache.install, h.early], h.jobs, fun hnone => (by cases hnone), ?_, ?_, u, hu,
    hwork, ?_⟩
  · rintro x ⟨⟩
    exact lasts
  · rintro x ⟨⟩ i s hs - inside
    rw [facts.tasks] at hs
    rcases getElem?_set_cases hs with ⟨rfl, rfl⟩ | ⟨hne, hs⟩
    · exact absurd away inside
    · refine ⟨now.trans hinstalled.symm, ?_, ?_⟩
      · -- the lock has one holder
        intro hloading
        have hi := orderly.queued.owner i s hs (by rw [hloading]; rfl)
        have hid := orderly.queued.owner id t task (by rw [Task.stage_of_load control head]; rfl)
        rw [hi] at hid
        exact hne (Option.some.inj hid)
      · intro seen hseen
        exact Nat.lt_succ_of_le (orderly.remembering.tasks i s seen hs hseen)
  · rw [now]
    have hlater := (e.outlasts_iff r.window).1 lasts.outlasts
    rw [hinstalled] at hlater
    cases post with
    | refreshes entry =>
        rw [blank] at entry
        cases entry
    | rests early rests =>
        -- the worker has a notice to take, which it does not miss while it listens
        refine .rests ?_ ?_
        · rintro x ⟨⟩
          refine ⟨Int.le_of_lt hlater, fun hclaimed => ?_⟩
          have hsome : r.claimed = some e.expiresAt := hclaimed
          rw [h.blank blank] at hsome
          cases hsome
        · cases rests with
          | begin control ready => exact .begin control ready
          | attend control => exact .attend control
          | finish control frames => exact .finish control frames
          | listen control' listening =>
              have hstep : t.step m.world favoured =
                  Task.install { t with frames } m.world layer startedAt v := by
                rw [Task.step_of_not_stopped (orderly.undismissed id t task)]
                simp only [Task.advance, control, Task.deliver, head, Task.refreshed]
              have hcalled : r.worker ∈ (t.step m.world favoured).1.ready := by
                rw [hstep]
                exact Task.install_calls hc h.early listening stamp
              exact .listen control' listening (fun _ => Or.inl (facts.leads.ready _ hcalled))
                fun h => (by cases h)

/-- A step of a task that is not the worker leaves the worker at its post. -/
theorem Guarded.visitor (h : Guarded layer m c r) (orderly : Orderly layer m c)
    (favoured : Signal) (hc : m.world.cache? layer = some c) (running : m.running = some id)
    (task : m.tasks[id]? = some t) (other : id ≠ r.worker)
    (valid : ∀ e, c.entry = some e → e.isValid m.world.now = true)
    (lasting : ∀ outcome, t.innerOutcome? layer = some outcome → ∃ v e, outcome = .value v ∧
      c.settings.lifetime.entry? v m.world.now = some e ∧ e.Lasts r.window) :
    ∃ c' r', (m.advance favoured id).world.cache? layer = some c' ∧
      Guarded layer (m.advance favoured id) c' r' := by
  have facts := advanced favoured task
  have now := now_advance favoured task
  obtain ⟨c', hc', turn⟩ := orderly.sound.turns task hc favoured
  have hn := (cache?_advance favoured orderly.peaceful.held task layer).trans hc'
  have shaped := orderly.sound.shaped id t task
  have gentle := (orderly.peaceful.gentle t (List.mem_of_getElem? task)).2
  have request : t.request ≠ .work layer := by
    intro hwork
    obtain ⟨c₁, r₁, hc₁, hr₁, hid⟩ := orderly.sound.posted id t layer task hwork
    rw [hc] at hc₁
    cases hc₁
    rw [h.early] at hr₁
    cases hr₁
    exact other hid.symm
  cases entry : c.entry with
  | none =>
      -- before the first entry the task may be the one that brings it
      rcases turn.visitor_of_blank shaped request gentle entry with
        ⟨entry', generation, early⟩ | ⟨startedAt, frames, v, e, control, head, stamp, away, rfl⟩
      · obtain ⟨u, hu, hwork, post⟩ := h.beside favoured running task other
        refine ⟨c', r, hn, early.trans h.early, h.jobs, fun _ => h.blank entry, ?_, ?_, u, hu,
          hwork, ?_⟩
        · intro e he
          rw [entry'] at he
          cases he
        · intro e he
          rw [entry'] at he
          cases he
        · rw [now]
          exact post.congr (entry'.trans entry.symm) generation fun woken => woken
      · obtain ⟨v', e', ⟨rfl⟩, stamp', lasts⟩ :=
          lasting _ (Task.innerOutcome?_of_load control head)
        rw [stamp] at stamp'
        cases stamp'
        exact ⟨_, _, hn, h.install orderly favoured hc running task other entry control head stamp
          lasts away⟩
  | some e =>
      -- afterwards it can only be about to take over an entry
      have hvisitor := h.visitors e entry id t task other
      have hseen : ∀ s, (t.stage layer).seen? = some s → s < c.generation := by
        intro s hs
        refine (hvisitor ?_).2.2 s hs
        intro haway
        rw [haway] at hs
        cases hs
      have hidle : t.stage layer ≠ .loading := by
        intro hloading
        exact (hvisitor (by rw [hloading]; exact Stage.noConfusion)).2.1 hloading
      obtain ⟨⟨entry', generation, early⟩, stage⟩ := turn.visitor_of_entry shaped request gentle
        (orderly.unforced id t task) h.early entry (valid e entry) (h.claimed entry) hidle hseen
      obtain ⟨u, hu, hwork, post⟩ := h.beside favoured running task other
      refine ⟨c', r, hn, early.trans h.early, h.jobs, ?_, ?_, ?_, u, hu, hwork, ?_⟩
      · intro hnone
        rw [entry', entry] at hnone
        cases hnone
      · rw [entry']
        exact h.lasts
      · intro x hx i s hs hi inside
        rw [entry'] at hx
        rw [now, generation]
        rw [facts.tasks] at hs
        rcases getElem?_set_cases hs with ⟨rfl, rfl⟩ | ⟨-, hs⟩
        · rcases stage with haway | ⟨inside', hidle', hsame⟩
          · exact absurd haway inside
          · obtain ⟨hnow, -, -⟩ := h.visitors x hx i t task hi inside'
            refine ⟨hnow, hidle', fun s hs => hseen s ?_⟩
            rw [← hsame]
            exact hs
        · exact h.visitors x hx i s hs hi inside
      · rw [now]
        exact post.congr entry' generation fun woken => woken

/-- A step of the worker leads it to its post again. -/
theorem Guarded.patrols (h : Guarded layer m c r) (orderly : Orderly layer m c)
    (favoured : Signal) (hc : m.world.cache? layer = some c) (task : m.tasks[r.worker]? = some t)
    (lasting : ∀ outcome, t.innerOutcome? layer = some outcome → ∃ v e, outcome = .value v ∧
      c.settings.lifetime.entry? v m.world.now = some e ∧ e.Lasts r.window) :
    ∃ c' r', (m.advance favoured r.worker).world.cache? layer = some c' ∧
      Guarded layer (m.advance favoured r.worker) c' r' := by
  have facts := advanced favoured task
  have now := now_advance favoured task
  have same : t.Same (t.step m.world favoured).2 := Task.same_step
  obtain ⟨u, hu, hwork, post⟩ := h.worker
  rw [task] at hu
  cases hu
  obtain ⟨c', r', patrols⟩ := post.step favoured (orderly.sound.shaped _ t task) hwork
    (orderly.undismissed _ t task) hc h.early h.jobs
    (fun e entry begun apart => h.free orderly.queued entry begun task apart) lasting
  -- the entry is the same, or a new one that the worker brings while it is alone
  obtain ⟨window, -, worker, -⟩ := patrols.worker
  refine ⟨c', r', (cache?_advance favoured orderly.peaceful.held task layer).trans patrols.cache,
    patrols.early, patrols.jobs, ?_, ?_, ?_, _, ?_, same.2.trans hwork, ?_⟩
  · intro hnone
    rcases patrols.entry with ⟨entry', -, claimed⟩ | ⟨e, e', -, -, entry', -⟩
    · rw [entry'] at hnone
      rw [claimed hnone]
      exact h.blank hnone
    · rw [entry'] at hnone
      cases hnone
  · intro x hx
    rw [window]
    rcases patrols.entry with ⟨entry', -, -⟩ | ⟨e, e', -, -, entry', lasts⟩
    · exact h.lasts x (entry'.symm.trans hx)
    · rw [entry'] at hx
      cases hx
      exact lasts
  · intro x hx i s hs hi inside
    rw [worker] at hi
    rw [facts.tasks, List.getElem?_set_ne (Ne.symm hi)] at hs
    rw [now]
    rcases patrols.entry with ⟨entry', generation, -⟩ | ⟨e, e', entry, begun, -, -⟩
    · rw [generation]
      exact h.visitors x (entry'.symm.trans hx) i s hs hi inside
    · exact absurd (h.alone entry begun i s hs hi) inside
  · rw [worker, facts.tasks]
    exact getElem?_set_some _ task
  · rw [now]
    exact patrols.post.congr rfl rfl False.elim

/-- Every move keeps the guard, while there is peace and the inner provider obliges. -/
theorem Guarded.move (h : Guarded layer m c r) (orderly : Orderly layer m c)
    (hc : m.world.cache? layer = some c) (eager : r.mode = .eager)
    (lifetime : c.settings.lifetime.IsWhole) (window : r.window.IsWhole)
    (now : m.world.now.IsWhole)
    (obliging : Obliging layer c.settings.lifetime r.window m) (move : Move m n)
    (peaceful : n.Peaceful) (punctual : Punctual [(m, n)]) :
    ∃ c' r', n.world.cache? layer = some c' ∧ Guarded layer n c' r' := by
  obtain ⟨u, hu, -⟩ := h.worker
  cases move with
  | @advance id favoured running =>
      cases task : m.tasks[id]? with
      | none =>
          have hstays : m.advance favoured id = { m with running := none } := by
            simp [Machine.advance, task]
          rw [hstays]
          refine ⟨c, r, hc, h.joined (joined_of_same rfl) rfl ?_⟩
          rintro (hready | hrunning)
          · exact Or.inl hready
          · -- the worker is a task
            rw [running] at hrunning
            cases hrunning
            rw [hu] at task
            cases task
      | some t =>
          have lasting := obliging.lasts lifetime window now orderly.sound running task
          by_cases hworker : id = r.worker
          · subst hworker
            exact h.patrols orderly favoured hc task lasting
          · exact h.visitor orderly favoured hc running task hworker
              (fun e entry => h.valid entry fun t ht s hs => obliging.within ht hs) lasting
  | @resume id idle ready =>
      refine ⟨c, r, hc, h.joined (joined_of_same rfl) rfl ?_⟩
      rintro (hready | hrunning)
      · by_cases hworker : r.worker = id
        · exact Or.inr (congrArg some hworker.symm)
        · exact Or.inl ((List.mem_erase_of_ne hworker).2 hready)
      · rw [idle] at hrunning
        cases hrunning
  | @arrive request idle foreground =>
      have leads : World.Leads 0 m.world (m.world.wake m.tasks.length) := World.leads_wake _
      refine ⟨c, r, (World.cache?_wake m.world _ layer).trans hc,
        h.joined (joined_of_arrive rfl) (World.now_wake m.world _) ?_⟩
      rintro (hready | hrunning)
      · exact Or.inl (leads.ready _ hready)
      · exact Or.inr hrunning
  | pass instant idle =>
      -- time passes only when nothing is left to do, and to what is due next
      refine ⟨c, r, (cache?_passTo m instant layer).trans hc, ?_⟩
      by_cases hnow : m.world.now = (m.passTo instant).world.now
      · refine h.joined (joined_of_same rfl) hnow.symm ?_
        rintro (hready | hrunning)
        · exact Or.inl ((leads_foldl_wake 0 _ _).ready _ hready)
        · exact Or.inr hrunning
      · obtain ⟨settled, -, due⟩ := punctual _ List.mem_cons_self hnow
        exact h.passes orderly eager settled due
  | drop idle =>
      -- nobody gives the stack up
      have hheld := peaceful.held
      rw [dropped_drop] at hheld
      cases hheld

end Steps

/-! ## Runs -/

section Run

variable {layer : Nat} {m₀ m n : Machine V σ C} {c₀ c c' : Cache V} {r₀ : EarlyRefresh}
  {moves : List (Machine V σ C × Machine V σ C)}

theorem Fresh.guarded (fresh : m₀.Fresh) (manned : m₀.Manned)
    (cache : m₀.world.cache? layer = some c₀) (early : c₀.early = some r₀) :
    Guarded layer m₀ c₀ r₀ := by
  have hempty := fresh.caches layer c₀ cache
  have hentry : c₀.entry = none := by
    rw [hempty.eq_empty]
    rfl
  have hblank : ∀ e, c₀.entry ≠ some e := by
    intro e he
    rw [hentry] at he
    cases he
  obtain ⟨task, ready⟩ := manned layer c₀ r₀ cache early
  refine ⟨early, ?_, fun _ => ?_, fun e he => absurd he (hblank e),
    fun e he => absurd he (hblank e), _, task, rfl,
    .rests (fun e he => absurd he (hblank e)) (.begin rfl (Or.inl ready))⟩
  · rw [(hempty.early r₀ early).1]
    rfl
  · rw [(hempty.early r₀ early).1]
    rfl

variable [Source σ V C] [Perishable V]

/-- Every run keeps the guard, while there is peace and the inner provider obliges. -/
theorem guarded_run (fresh : m₀.Fresh) (manned : m₀.Manned)
    (cache : m₀.world.cache? layer = some c₀) (early : c₀.early = some r₀)
    (eager : r₀.mode = .eager) (lifetime : c₀.settings.lifetime.IsWhole)
    (window : r₀.window.IsWhole) (run : Run m₀ moves m) (peaceful : m.Peaceful)
    (punctual : Punctual moves)
    (obliging : ∀ move ∈ moves, Obliging layer c₀.settings.lifetime r₀.window move.1) :
    ∃ c r, m.world.cache? layer = some c ∧ Guarded layer m c r := by
  -- by induction on the run: the worker is at its post before and after every move
  induction run with
  | start => exact ⟨c₀, r₀, cache, fresh.guarded manned cache early⟩
  | @move moves k n run step ih =>
      have before := peaceful.before step
      obtain ⟨c, r, hc, h⟩ := ih before punctual.dropLast
        fun move hmove => obliging move (List.mem_append_left _ hmove)
      obtain ⟨d, hd, kept, orderly⟩ := orderly_run fresh cache run before
      rw [hc] at hd
      cases hd
      obtain ⟨r', hr', hwindow, hmode, -⟩ := kept.early early
      rw [h.early] at hr'
      cases hr'
      have hlast : (k, n) ∈ moves ++ [(k, n)] := List.mem_append_right _ List.mem_cons_self
      have hnow : k.world.now.IsWhole := by
        refine isWhole_run ?_ run punctual.dropLast
        rw [fresh.now]
        exact Instant.isWhole_origin
      refine h.move orderly hc (hmode.trans eager) ?_ ?_ hnow ?_ step peaceful ?_
      · rw [kept.settings]
        exact lifetime
      · rw [hwindow]
        exact window
      · rw [kept.settings, hwindow]
        exact obliging _ hlast
      · intro move hmove
        rw [List.mem_singleton] at hmove
        rw [hmove]
        exact punctual _ hlast

end Run

/-! ## The theorem -/

section Theorem

variable [Source σ V C] [Perishable V] {layer : Nat} {m₀ m n : Machine V σ C} {c₀ c : Cache V}
  {r₀ : EarlyRefresh}

/-- From its first entry on, a cache in eager mode has a valid entry at every instant, whoever comes
or does not come, and every lookup is a hit. Nothing is forced, no ready task is kept waiting while
time passes, and the inner calls take less than the window and lead to entries that outlast it. -/
theorem eager_entry_stays_valid {name : String} {source : σ} {others : List σ}
    {plans : List LayerPlan} {bound : List Bool}
    {first rest : List (Machine V σ C × Machine V σ C)}
    (built : build name source others plans = .ok (bound, m₀))
    (cache : m₀.world.cache? layer = some c₀) (early : c₀.early = some r₀)
    (eager : r₀.mode = .eager) (lifetime : c₀.settings.lifetime.IsWhole)
    (window : r₀.window.IsWhole) (before : Run m₀ first m)
    (hc : m.world.cache? layer = some c) (installed : c.entry.isSome = true)
    (after : Run m rest n) (peaceful : n.Peaceful) (punctual : Punctual (first ++ rest))
    (obliging : ∀ move ∈ first ++ rest, Obliging layer c₀.settings.lifetime r₀.window move.1)
    (obliging' : Obliging layer c₀.settings.lifetime r₀.window n) :
    ∃ d e, n.world.cache? layer = some d ∧ d.entry = some e ∧ e.isValid n.world.now = true ∧
      ∀ id t force favoured, n.running = some id → n.tasks[id]? = some t →
        t.control = .enter (layer + 1) force → (n.world.now.later? r₀.window).isSome = true →
          ∃ d', d.noticed? e n.world.now = some d' ∧ n.advance favoured id =
            { n with
              world := ((n.world.setLayer layer (.cache d')).rouse layer).count d'.meter .hit
              tasks := n.tasks.set id (t.pass (.value e.value)) } := by
  have fresh := fresh_of_build built
  have run := before.append after
  obtain ⟨d, r, hd, guarded⟩ := guarded_run fresh (manned_of_build built) cache early eager
    lifetime window run peaceful punctual obliging
  obtain ⟨d₁, hd₁, kept, orderly⟩ := orderly_run fresh cache run peaceful
  rw [hd] at hd₁
  cases hd₁
  obtain ⟨r', hr', hwindow, -⟩ := kept.early early
  rw [guarded.early] at hr'
  cases hr'
  obtain ⟨d₂, hd₂, held⟩ := entry_stays (sound_reaches fresh.sound before.reaches) hc installed
    after.reaches
  rw [hd] at hd₂
  cases hd₂
  obtain ⟨e, entry⟩ := Option.isSome_iff_exists.1 held
  rw [← hwindow] at obliging'
  have hvalid := guarded.valid entry fun t ht s hs => obliging'.within ht hs
  refine ⟨d, e, hd, entry, hvalid, ?_⟩
  intro id t force favoured running task control room
  -- nothing is forced
  have hforce := (orderly.unforced id t task).control force (by rw [control]; rfl)
  subst hforce
  have hroom : ∀ x, d.early = some x → (n.world.now.later? x.window).isSome = true := by
    intro x hx
    rw [guarded.early] at hx
    cases hx
    rw [hwindow]
    exact room
  obtain ⟨d', noticed⟩ := Cache.exists_noticed? e hroom
  have hfound : d.valid? n.world.now = some e := by
    rw [Cache.valid?, entry]
    simp [hvalid]
  exact ⟨d', noticed,
    advance_of_valid orderly.sound running task control hd hfound noticed favoured⟩

end Theorem

/-- A source whose first call takes a second and the later ones half a second more. Its later values
expire three seconds after they were made. -/
def eagerSource : Script (Dated Nat) :=
  ⟨[⟨1000, .value fun _ => ⟨1, none⟩⟩,
    ⟨1500, .value fun now => ⟨2, now.later? (Span.ofSeconds 3)⟩⟩], 0, false, false, 0⟩

/-- A cache in eager mode over that source. -/
def eagerPlans : List LayerPlan :=
  [.cache ⟨⟨Span.ofSeconds 4, Span.zero⟩, Span.ofSeconds 5⟩ false
    (some ⟨Span.ofSeconds 2, .eager⟩)]

/-- The stack of the cache and the source. -/
def eagerStack : Machine (Dated Nat) (Script (Dated Nat)) (ScriptReply (Dated Nat)) :=
  match build "chain" eagerSource [] eagerPlans with
  | .ok (_, m) => m
  | .error _ => bare "chain" eagerSource []

/-- A fetch, until its value is installed. -/
def eagerFirst :
    List (Machine (Dated Nat) (Script (Dated Nat)) (ScriptReply (Dated Nat)) ×
      Machine (Dated Nat) (Script (Dated Nat)) (ScriptReply (Dated Nat))) ×
      Machine (Dated Nat) (Script (Dated Nat)) (ScriptReply (Dated Nat)) :=
  requested (.fetch false) 14 eagerStack

/-- The worker refreshes the entry, and after the expiry of the first one a fetch is about to look
up. -/
def eagerRest :
    List (Machine (Dated Nat) (Script (Dated Nat)) (ScriptReply (Dated Nat)) ×
      Machine (Dated Nat) (Script (Dated Nat)) (ScriptReply (Dated Nat))) ×
      Machine (Dated Nat) (Script (Dated Nat)) (ScriptReply (Dated Nat)) :=
  let refreshed := scheduled 18 eagerFirst.2
  let later := refreshed.2.passTo ⟨5400000000⟩
  let fetch := requested (.fetch false) 2 later
  (refreshed.1 ++ [(refreshed.2, later)] ++ fetch.1, fetch.2)

/-- That fetch. -/
def eagerLookup : Task (Dated Nat) (ScriptReply (Dated Nat)) := ⟨2, .fetch false, .enter 1 false, []⟩

/-- The first entry expires after five seconds. Later a fetch is served from the second one, at once
and without a call of the source. -/
theorem eager_entry_stays_valid_past_expiry :
    ∃ m n n' c, Run eagerStack eagerFirst.1 m ∧ Run m eagerRest.1 n ∧ Move n n' ∧
      m.world.cache? 0 = some c ∧ c.entry.map Entry.expiresAt = some ⟨5000000000⟩ ∧
      n.world.now = ⟨5400000000⟩ ∧ n.running = some 2 ∧
      Returns 0 n n' 2 (.value ⟨2, some ⟨7500000000⟩⟩) ∧ n'.world.calls = n.world.calls := by
  have built : build "chain" eagerSource [] eagerPlans = .ok ([], eagerStack) := rfl
  have cache : eagerStack.world.cache? 0 = some (Cache.empty
      ⟨⟨Span.ofSeconds 4, Span.zero⟩, Span.ofSeconds 5⟩ 0
      (some (.fresh (Span.ofSeconds 2) .eager 0))) := rfl
  have before : Run eagerStack eagerFirst.1 eagerFirst.2 := run_requested 14 rfl rfl
  have after : Run eagerFirst.2 eagerRest.1 eagerRest.2 :=
    ((run_scheduled 18 eagerFirst.2).move (.pass _ rfl)).append (run_requested 2 rfl rfl)
  have peaceful : eagerRest.2.Peaceful := ⟨rfl, by decide⟩
  have obliging : ∀ move ∈ eagerFirst.1 ++ eagerRest.1,
      Obliging 0 ⟨Span.ofSeconds 4, Span.zero⟩ (Span.ofSeconds 2) move.1 := by decide
  -- between the schedule and the fetch time passes to an instant before the next refresh
  have wait : Punctual [((scheduled 18 eagerFirst.2).2,
      (scheduled 18 eagerFirst.2).2.passTo ⟨5400000000⟩)] := by decide
  have punctual : Punctual (eagerFirst.1 ++ eagerRest.1) :=
    (punctual_requested (.fetch false) 14 eagerStack).append
      (((punctual_scheduled 18 eagerFirst.2).append wait).append (punctual_requested _ 2 _))
  obtain ⟨d, e, hd, entry, valid, hits⟩ := eager_entry_stays_valid built cache rfl rfl
    ⟨by decide, by decide⟩ (by decide) before rfl rfl after peaceful punctual obliging
    (by decide)
  have task : eagerRest.2.tasks[2]? = some eagerLookup := rfl
  obtain ⟨d', -, hit⟩ := hits 2 _ false .job rfl task rfl rfl
  have hvalue : e.value = ⟨2, some ⟨7500000000⟩⟩ := by
    cases hd
    cases entry
    rfl
  obtain ⟨ready, hrouse⟩ := World.exists_rouse_eq (eagerRest.2.world.setLayer 0 (.cache d')) 0
  rw [hvalue] at hit
  have move : Move eagerRest.2 (eagerRest.2.advance .job 2) := .advance .job rfl
  refine ⟨_, _, _, _, before, after, move, rfl, rfl, rfl, rfl,
    ⟨eagerLookup, eagerLookup.pass _, rfl, task, Or.inl ⟨false, rfl⟩, ?_, rfl, rfl⟩, ?_⟩
  · rw [hit]
    exact getElem?_set_some _ task
  · rw [hit, hrouse]
    rfl

end Machine

end CredentialSupply
