import CredentialSupply.Proofs.Background

set_option autoImplicit false

/-!
# Inner calls in the background are due

A worker makes an inner call for a job that it took from its queue or that its timer set. Between
that and the call others may install a new entry. The worker then finds an entry that its snapshot
does not know and takes it over (`Turn.begins_load`), so that the job is one for the entry that is
installed at the call (`background_call_is_due`). That the entry was the same when the job was set
is read off the history of the run (`scheduled_of_pending`).
-/

namespace CredentialSupply

variable {V σ C : Type}

/-- Whether the lookup at this stage was forced. -/
def Stage.force? : Stage → Option Bool
  | .asking _ force | .waiting _ force _ | .holding _ force => some force
  | .away | .loading => none

/-! ## Workers -/

/-- What a worker is in the middle of lies inside its cache and is for a job. -/
theorem Nested.of_work {layer depth : Nat} {frames : List Frame}
    (h : Nested (.work layer) depth frames) :
    depth ≤ 2 * layer + 1 ∧ ∃ job, frames.findSome? (Frame.duty? layer) = some job := by
  induction frames generalizing depth with
  | nil =>
      obtain ⟨force, hforce⟩ := h
      cases hforce
  | cons f frames ih =>
      -- a frame that is no job is around something that lies further in
      have houter : ∀ inner, inner ≤ 2 * layer + 1 → depth ≤ inner → f.duty? layer = none →
          (∃ job, frames.findSome? (Frame.duty? layer) = some job) →
          depth ≤ 2 * layer + 1 ∧
            ∃ job, (f :: frames).findSome? (Frame.duty? layer) = some job := by
        intro inner hinner hdepth hduty hjob
        refine ⟨Nat.le_trans hdepth hinner, ?_⟩
        simpa [List.findSome?_cons, hduty] using hjob
      cases f with
      | retry l force | outage l force | health l =>
          obtain ⟨hle, hjob⟩ := ih h.2
          exact houter _ hle (Nat.le_add_right_of_le h.1) rfl hjob
      | load l startedAt =>
          obtain ⟨hle, hjob⟩ := ih h.2
          exact houter _ hle (Nat.le_add_right_of_le h.1) rfl hjob
      | query l seen =>
          obtain ⟨refresh, hrefresh⟩ := h.1
          cases hrefresh
      | job l job retryAfter =>
          obtain ⟨hdepth, hrequest, -⟩ := h
          cases hrequest
          exact ⟨Nat.le_of_eq hdepth, job, by simp [Frame.duty?]⟩
      | timer l job firedAt =>
          obtain ⟨hdepth, hrequest, -⟩ := h
          cases hrequest
          exact ⟨Nat.le_of_eq hdepth, job, by simp [Frame.duty?]⟩

section Turn

variable [Perishable V] {layer : Nat} {now : Instant} {t t' : Task V C} {c c' : Cache V}

/-- An inner call begins when the holder of the lock finds the generation that it saw. -/
theorem Turn.begins_load (shaped : t.Shaped) (h : Turn layer now t c t' c')
    (before : t.stage layer ≠ .loading) (after : t'.stage layer = .loading) :
    ∃ seen force, t.control = .locked layer seen force ∧ c.replacement? seen = none ∧
      t' = t.push (.load layer now) (.enter layer force) ∧ c' = c := by
  have haway : t'.stage layer ≠ .away := by
    intro haway
    rw [haway] at after
    cases after
  cases h with
  | elsewhere acts stage duty => exact absurd (stage.symm.trans after) before
  | hit control => exact absurd (Task.around_of_enter shaped control) haway
  | overrun control => exact absurd (Task.around_of_enter shaped control) haway
  | miss | seize | queue | receive => simp at after
  | giveUp control => exact absurd (Task.around_of_snapshot shaped (by simp [control])) haway
  | adopt control => exact absurd (Task.around_of_snapshot shaped (by simp [control])) haway
  | @load seen force control same => exact ⟨seen, force, control, same, rfl, rfl⟩
  | install control head => exact absurd (Task.stage_of_load control head) before
  | fail control head => exact absurd (Task.stage_of_load control head) before
  | crash control head => exact absurd (Task.stage_of_load control head) before
  | takeJob | fire => simp [Task.stage, Task.push] at after
  | tend _ _ _ _ _ _ attends' => exact absurd (attends'.outside layer).1 haway
  | succeed _ _ _ attends' => exact absurd (attends'.outside layer).1 haway
  | forgo _ _ _ attends' => exact absurd (attends'.outside layer).1 haway
  | retire request away early worker jobs accepting frames' ended =>
      exact absurd (Task.stage_of_hasEnded frames' ended) haway
  | abandon => exact absurd (Task.stage_of_hasEnded rfl rfl) haway
  | tell request frames control frames' idle =>
      exact absurd (Task.stage_of_resting frames' idle) haway

/-- A worker asks for the lock of its cache only for a job, and that is not forced. -/
theorem Turn.unforced (shaped : t.Shaped) (request : t.request = .work layer)
    (h : Turn layer now t c t' c') (unforced : (t.stage layer).force? ≠ some true) :
    (t'.stage layer).force? ≠ some true := by
  have haround : ∀ u : Task V C, (u.around layer).force? ≠ some true := by
    intro u
    unfold Task.around
    split <;> simp [Stage.force?]
  have haway : t'.stage layer = .away → (t'.stage layer).force? ≠ some true := by
    intro haway
    simp [haway, Stage.force?]
  cases h with
  | elsewhere acts stage duty =>
      rw [stage]
      exact unforced
  | miss control =>
      -- a worker does not look up its own cache
      simp only [Task.Shaped, control, request] at shaped
      have := shaped.of_work.1
      omega
  | seize control =>
      rw [Task.stage_of_acquire control] at unforced
      simpa [Stage.force?] using unforced
  | queue control =>
      rw [Task.stage_of_acquire control] at unforced
      simpa [Stage.force?] using unforced
  | receive control =>
      rw [Task.stage_of_queued control] at unforced
      simpa [Stage.force?] using unforced
  | hit | overrun | giveUp | adopt | install | fail | crash => exact haround _
  | load | takeJob | fire => simp [Task.stage, Task.push, Task.around, Frame.isLoad, Stage.force?]
  | tend _ _ _ _ _ _ attends' => exact haway (attends'.outside layer).1
  | succeed _ _ _ attends' => exact haway (attends'.outside layer).1
  | forgo _ _ _ attends' => exact haway (attends'.outside layer).1
  | retire request away early worker jobs accepting frames' ended =>
      exact haway (Task.stage_of_hasEnded frames' ended)
  | abandon => exact haway (Task.stage_of_hasEnded rfl rfl)
  | tell request frames control frames' idle => exact haway (Task.stage_of_resting frames' idle)

/-- The entry of a cache changes only with the generation. -/
theorem Turn.same_entry (h : Turn layer now t c t' c') (generation : c'.generation = c.generation) :
    c'.entry = c.entry := by
  cases h with
  | install => exact absurd generation (Nat.succ_ne_self _)
  | hit control valid noticed =>
      rcases Cache.noticed?_cases noticed with rfl | ⟨r, -, -, -, rfl⟩ <;> rfl
  | _ => rfl

end Turn

/-! ## Where a job comes from -/

/-- A refresh that becomes pending is one of the entry. -/
theorem ClaimStep.pending_cases {now : Instant} {c c' : Cache V} {r r' : EarlyRefresh}
    {duty duty' : Option RefreshJob} {job : RefreshJob} (step : ClaimStep now c c' r r' duty duty')
    (h : job ∈ r'.pending duty') :
    job ∈ r.pending duty ∨ ∃ e, c.entry = some e ∧ job = ⟨c.generation, e.expiresAt⟩ := by
  unfold EarlyRefresh.pending at h ⊢
  -- only a fetch that schedules and the timer add a refresh, both of them for the entry
  cases step with
  | keep entry generation claimed jobs => exact Or.inl (by rwa [← jobs])
  | @schedule e duty entry inWindow outlasts entry' generation early =>
      subst early
      rcases r.schedule_cases ⟨c.generation, e.expiresAt⟩ with ⟨-, hs⟩ | ⟨-, -, hs⟩ | ⟨-, -, hs⟩ <;>
        rw [hs] at h
      · exact Or.inl h
      · rcases List.mem_append.1 h with h | h
        · rcases List.mem_append.1 h with h | h
          · exact Or.inl (List.mem_append_left _ h)
          · exact Or.inr ⟨e, entry, List.mem_singleton.1 h⟩
        · exact Or.inl (List.mem_append_right _ h)
      · exact Or.inl h
  | install entry installed generation claimed jobs => exact Or.inl (by rwa [← jobs])
  | @take job' rest entry generation claimed jobs jobs' =>
      left
      rw [jobs'] at h
      rw [jobs]
      simpa [or_comm] using h
  | @fire e entry inWindow outlasts unclaimed entry' generation claimed jobs =>
      rw [jobs] at h
      rcases List.mem_append.1 h with h | h
      · exact Or.inl (List.mem_append_left _ h)
      · exact Or.inr ⟨e, entry, by simpa using h⟩
  | succeed gone entry generation claimed jobs =>
      rw [jobs] at h
      exact Or.inl (List.mem_append_left _ (by simpa using h))
  | @forgo job' entry generation early =>
      subst early
      have hjobs : (r.unclaim job'.expiresAt).jobs = r.jobs := by
        unfold EarlyRefresh.unclaim
        split <;> rfl
      rw [hjobs] at h
      exact Or.inl (List.mem_append_left _ (by simpa using h))

namespace Machine

variable {layer : Nat} {m₀ m n : Machine V σ C} {c c₀ : Cache V} {r : EarlyRefresh}

/-- The refreshes of the cache at a layer that wait for the worker or are carried out by it. -/
def pending (layer : Nat) (m : Machine V σ C) : List RefreshJob :=
  match m.world.early? layer with
  | none => []
  | some r => r.pending (m.duty? layer r.worker)

/-- With the move from `k` to `l` a refresh of the cache at a layer is scheduled. -/
def Schedules (layer : Nat) (k l : Machine V σ C) (job : RefreshJob) : Prop :=
  job ∉ k.pending layer ∧ job ∈ l.pending layer

/-- With the move from `m` to `n` the worker of the cache at a layer makes an inner call. -/
def CallsInBackground (layer : Nat) (m n : Machine V σ C) (id : TaskId) : Prop :=
  ∃ t t', m.running = some id ∧ m.tasks[id]? = some t ∧ t.request = .work layer ∧
    t.stage layer ≠ .loading ∧ n.tasks[id]? = some t' ∧ t'.stage layer = .loading

theorem pending_eq (hc : m.world.cache? layer = some c) (hr : c.early = some r) :
    m.pending layer = r.pending (m.duty? layer r.worker) := by
  simp only [pending, World.early?_eq m.world hc, hr]

theorem Fresh.pending_eq_nil (fresh : m.Fresh) (hc : m.world.cache? layer = some c) :
    m.pending layer = [] := by
  cases hr : c.early with
  | none => simp only [pending, World.early?_eq m.world hc, hr]
  | some r =>
      have hjobs : r.jobs = [] := by
        rw [((fresh.caches layer c hc).early r hr).1]
        rfl
      have hduty : m.duty? layer r.worker = none := by
        rw [duty?]
        cases ht : m.tasks[r.worker]? with
        | none => rfl
        | some t => exact (fresh.outside ht layer).2
      simp [pending_eq hc hr, EarlyRefresh.pending, hjobs, hduty]

variable [Source σ V C] [Perishable V]

omit [Source σ V C] in
/-- A refresh that a move makes pending is one of the entry, while the worker goes on. -/
theorem Scheduling.pending_cases {c' : Cache V} {r' : EarlyRefresh} {job : RefreshJob}
    (sound : m.Sound) (h : Scheduling layer m c) (hc : m.world.cache? layer = some c)
    (hc' : n.world.cache? layer = some c') (next : LayerMove layer m c n c')
    (hr' : c'.early = some r') (going : ∀ x : Task V C, n.tasks[r'.worker]? = some x →
      x.hasEnded = false) (pending : job ∈ n.pending layer) :
    job ∈ m.pending layer ∨ ∃ e, c.entry = some e ∧ job = ⟨c.generation, e.expiresAt⟩ := by
  rw [pending_eq hc' hr'] at pending
  -- without a turn the queue and the duty of the worker stay
  have hjoined : Joined m n → (c' = c ∨ c' = c.told) → job ∈ m.pending layer := by
    rintro joined (rfl | rfl)
    · rw [pending_eq hc hr', ← duty?_of_joined joined]
      exact pending
    · rw [Cache.early_told, Option.map_eq_some_iff] at hr'
      obtain ⟨r, hr, rfl⟩ := hr'
      rw [pending_eq hc hr, ← duty?_of_joined joined]
      exact pending
  cases next with
  | @turn id t t' c₁ running task turn same tasks running' parked told now =>
      have hturn : ∀ r₁, c₁.early = some r₁ → r₁.worker = r'.worker → r₁.jobs = r'.jobs →
          job ∈ m.pending layer ∨ ∃ e, c.entry = some e ∧ job = ⟨c.generation, e.expiresAt⟩ := by
        intro r₁ hr₁ hworker hjobs
        obtain ⟨r, hr, -, -, hkept⟩ := turn.kept.symm.early hr₁
        have hrr' : r.worker = r'.worker := hkept.trans hworker
        have step := h.claimStep sound hc task turn tasks hr hr₁ (by rw [hrr']; exact going)
        rw [pending_eq hc hr]
        apply step.pending_cases
        rw [hrr']
        simpa [EarlyRefresh.pending, hjobs] using pending
      rcases told with rfl | ⟨-, rfl⟩
      · exact hturn r' hr' rfl rfl
      · rw [Cache.early_told, Option.map_eq_some_iff] at hr'
        obtain ⟨r₁, hr₁, rfl⟩ := hr'
        exact hturn r₁ hr₁ rfl rfl
  | arrive idle foreground tasks cache now =>
      exact Or.inl (hjoined (joined_of_arrive tasks) (Or.inl cache))
  | rest active tasks cache now => exact Or.inl (hjoined (joined_of_same tasks) cache)

/-- A refresh that is pending while the worker goes on was scheduled by some move, when its
generation was installed. -/
theorem scheduled_of_pending {moves : List (Machine V σ C × Machine V σ C)} {job : RefreshJob}
    (fresh : m₀.Fresh) (cache : m₀.world.cache? layer = some c₀) (run : Run m₀ moves m)
    (hc : m.world.cache? layer = some c) (hr : c.early = some r)
    (going : ∀ x : Task V C, m.tasks[r.worker]? = some x → x.hasEnded = false)
    (pending : job ∈ m.pending layer) :
    ∃ k l d e, (k, l) ∈ moves ∧ Schedules layer k l job ∧ k.world.cache? layer = some d ∧
      d.entry = some e ∧ job = ⟨d.generation, e.expiresAt⟩ := by
  induction run generalizing c r with
  | start =>
      rw [fresh.pending_eq_nil cache] at pending
      cases pending
  | @move moves m n run step ih =>
      have sound : m.Sound := sound_reaches fresh.sound run.reaches
      obtain ⟨d, hd, scheduling⟩ := scheduling_reaches fresh.sound cache
        (fresh.remembering cache) (fresh.scheduling cache) run.reaches
      obtain ⟨c', hc', next⟩ := layerMove sound step hd
      rw [hc] at hc'
      cases hc'
      by_cases hbefore : job ∈ m.pending layer
      · obtain ⟨s, hs, -, -, hworker⟩ := next.kept.symm.early hr
        rw [← hworker] at going
        obtain ⟨k, l, d, e, hmem, hfacts⟩ := ih hd hs (going_of_move step going) hbefore
        exact ⟨k, l, d, e, List.mem_append_left _ hmem, hfacts⟩
      · rcases scheduling.pending_cases sound hd hc next hr going pending with h | ⟨e, he, hjob⟩
        · exact absurd h hbefore
        · exact ⟨m, n, d, e, List.mem_append_right _ List.mem_cons_self, ⟨hbefore, pending⟩, hd, he,
            hjob⟩

/-- The entry of a cache is the same as long as its generation is. -/
theorem entry_of_generation {d : Cache V} (sound : m.Sound) (run : Reaches m n)
    (hd : m.world.cache? layer = some d) (hc : n.world.cache? layer = some c)
    (generation : c.generation = d.generation) : c.entry = d.entry := by
  have hrun := run.invariant (P := fun _ c' => d.generation ≤ c'.generation ∧
    (c'.generation = d.generation → c'.entry = d.entry)) ?_ sound hd ⟨Nat.le_refl _, fun _ => rfl⟩
  · obtain ⟨c', hc', -, hentry⟩ := hrun
    rw [hc] at hc'
    cases hc'
    exact hentry generation
  · rintro k l c₁ c₂ - - - next ⟨hle, hentry⟩
    have hsame : c₂ = c₁ ∨ c₂ = c₁.told → d.generation ≤ c₂.generation ∧
        (c₂.generation = d.generation → c₂.entry = d.entry) := by
      rintro (rfl | rfl)
      · exact ⟨hle, hentry⟩
      · exact ⟨hle, hentry⟩
    cases next with
    | @turn id t t' c₃ running task turn same tasks running' parked told now =>
        have hgrows := turn.generation_le
        have hturn : d.generation ≤ c₃.generation ∧
            (c₃.generation = d.generation → c₃.entry = d.entry) := by
          refine ⟨Nat.le_trans hle hgrows, ?_⟩
          intro hgeneration
          rw [turn.same_entry (by omega)]
          exact hentry (by omega)
        rcases told with rfl | ⟨-, rfl⟩
        · exact hturn
        · exact hturn
    | arrive idle foreground tasks cache now => exact hsame (Or.inl cache)
    | rest active tasks cache now => exact hsame cache

/-- The workers of the cache at a layer do not force. -/
def Unforced (layer : Nat) (m : Machine V σ C) : Prop :=
  ∀ (i : Nat) (t : Task V C), m.tasks[i]? = some t → t.request = .work layer →
    (t.stage layer).force? ≠ some true

theorem unforced_reaches (sound : m.Sound) (hc : m.world.cache? layer = some c)
    (h : Unforced layer m) (run : Reaches m n) : Unforced layer n := by
  have hrun := run.invariant (P := fun k _ => Unforced layer k) ?_ sound hc h
  · obtain ⟨-, -, h'⟩ := hrun
    exact h'
  · rintro k l d d' soundk hd move next hk
    have hjoined : Joined k l → Unforced layer l := by
      intro joined i t task request
      rcases joined.task_or_away task layer with hold | haway
      · exact hk i t hold request
      · simp [haway, Stage.force?]
    cases next with
    | turn running task turn same tasks running' parked told now =>
        intro i x hx request
        rw [tasks] at hx
        rcases getElem?_set_cases hx with ⟨rfl, rfl⟩ | ⟨-, hx⟩
        · have hrequest := same.2.symm.trans request
          exact turn.unforced (soundk.shaped i _ task) hrequest (hk i _ task hrequest)
        · exact hk i x hx request
    | arrive idle foreground tasks cache now => exact hjoined (joined_of_arrive tasks)
    | rest active tasks cache now => exact hjoined (joined_of_same tasks)

/-! ## The theorem -/

/-- An inner call that a worker makes is not forced, and is for the entry that is installed then:
the entry outlasts the window, the window has begun, and the job was scheduled for that same
entry. -/
theorem background_call_is_due {name : String} {source : σ} {others : List σ}
    {plans : List LayerPlan} {bound : List Bool} {id : TaskId}
    {moves : List (Machine V σ C × Machine V σ C)}
    (built : build name source others plans = .ok (bound, m₀))
    (cache : m₀.world.cache? layer = some c₀) (run : Run m₀ moves m) (move : Move m n)
    (calls : CallsInBackground layer m n id) :
    ∃ c r e worker, m.world.cache? layer = some c ∧ c.early = some r ∧ r.worker = id ∧
      c.entry = some e ∧ n.tasks[id]? = some worker ∧ worker.control = .enter layer false ∧
      worker.duty? layer = some ⟨c.generation, e.expiresAt⟩ ∧ n.world.now = m.world.now ∧
      r.window.nanos < e.lifetime ∧
      e.expiresAt.nanos - r.window.nanos ≤ m.world.now.nanos ∧
      ∃ k l d, (k, l) ∈ moves ∧ Schedules layer k l ⟨c.generation, e.expiresAt⟩ ∧
        k.world.cache? layer = some d ∧ d.generation = c.generation ∧ d.entry = some e := by
  obtain ⟨t, t', running, task, request, before, task', after⟩ := calls
  have fresh := fresh_of_build built
  have sound : m.Sound := sound_reaches fresh.sound run.reaches
  have shaped := sound.shaped id t task
  obtain ⟨c, r, hc, hr, hworker⟩ := sound.posted id t layer task request
  obtain ⟨c', -, next⟩ := layerMove sound move hc
  obtain ⟨s, c₁, turn, -, hs, -, now⟩ := next.of_running running task
  rw [task'] at hs
  cases hs
  obtain ⟨seen, force, control, same, rfl, -⟩ := turn.begins_load shaped before after
  -- the job that the worker carries out, and the snapshot that it took with it
  obtain ⟨job, hduty⟩ : ∃ job, t.duty? layer = some job := by
    simp only [Task.Shaped, control, request] at shaped
    exact shaped.of_work.2
  have hstage := Task.stage_of_locked control
  obtain ⟨c₂, hc₂, remembering, -⟩ :=
    remembering_reaches fresh.sound cache (fresh.remembering cache) run.reaches
  rw [hc] at hc₂
  cases hc₂
  obtain ⟨c₂, hc₂, scheduling⟩ := scheduling_reaches fresh.sound cache (fresh.remembering cache)
    (fresh.scheduling cache) run.reaches
  rw [hc] at hc₂
  cases hc₂
  have hseen : seen = job.generation :=
    (scheduling.dutiful id t task).seen job seen hduty (by rw [hstage]; rfl)
  have hgeneration : job.generation = c.generation := by
    have hle := remembering.tasks id t seen task (by rw [hstage]; rfl)
    unfold Cache.replacement? at same
    split at same
    next heq => omega
    next hne =>
      -- without an entry no generation has been installed, and the worker saw none
      have := remembering.entry same
      omega
  -- the claims say that a job for the entry is due
  have going : ∀ x : Task V C, m.tasks[r.worker]? = some x → x.hasEnded = false := by
    intro x hx
    rw [hworker, task] at hx
    cases hx
    simp [Task.hasEnded, Task.ended?, control]
  have claims := scheduling.claims r hr going
  have hmem : job ∈ r.pending (m.duty? layer r.worker) := by
    rw [hworker, duty?_of_task task, hduty]
    exact List.mem_append_right _ List.mem_cons_self
  obtain ⟨e, entry, hexpires, outlasts⟩ := claims.current job hmem hgeneration
  obtain ⟨-, hbound⟩ := claims.bound job hmem
  have hjob : job = ⟨c.generation, e.expiresAt⟩ := by
    rw [← hgeneration, ← hexpires]
  have hforce : force = false := by
    have hunforced := unforced_reaches fresh.sound cache (fun i x hx _ => by
      rw [(fresh.outside hx layer).1]
      simp [Stage.force?]) run.reaches id t task request
    rw [hstage] at hunforced
    simpa [Stage.force?] using hunforced
  subst hforce
  refine ⟨c, r, e, _, hc, hr, hworker, entry, task', rfl, ?_, now, ?_, ?_, ?_⟩
  · rw [← hjob, ← hduty]
    simp [Task.duty?, Task.push, List.findSome?_cons, Frame.duty?]
  · simpa [Entry.outlasts] using outlasts
  · rw [hexpires] at hbound
    omega
  · have hpending : job ∈ m.pending layer := by
      rw [pending_eq hc hr]
      exact hmem
    obtain ⟨k, l, d, e', hin, schedules, hd, he', hjob'⟩ :=
      scheduled_of_pending fresh cache run hc hr going hpending
    obtain ⟨hbefore, hmove, hafter⟩ := run.of_mem hin
    have hsame : d.generation = c.generation := by
      rw [← hgeneration, hjob']
    have hentry := entry_of_generation (sound_reaches fresh.sound hbefore) (.step hmove hafter)
      hd hc hsame.symm
    rw [← hjob]
    exact ⟨k, l, d, hin, schedules, hd, hsame, hentry.symm.trans entry⟩

/-- The stack in which a fetch in the window has returned, and the worker has got the lock. -/
def belatedCall : Machine (Dated Nat) (Script (Dated Nat)) (ScriptReply (Dated Nat)) :=
  (requested (.fetch false) 7 belatedWindow).2

theorem run_belatedCall : ∃ moves, Run belatedStack moves belatedCall := by
  have run : Run belatedStack (requested (.fetch false) 15 belatedStack).1 _ :=
    run_requested 15 rfl rfl
  have passed := run.move (.pass ⟨35000000000⟩ rfl)
  exact ⟨_, passed.append (run_requested 7 rfl rfl)⟩

/-- The worker makes its call half a minute before the expiry, for the entry that the fetch had
found. -/
theorem background_call_is_due_in_window :
    CallsInBackground 0 belatedCall (belatedCall.advance .job 0) 0 ∧
      ∃ c e, belatedCall.world.cache? 0 = some c ∧ c.generation = 1 ∧ c.entry = some e ∧
        e.expiresAt.nanos - 30000000000 ≤ belatedCall.world.now.nanos := by
  have built : build "chain" belatedSource [] belatedPlans = .ok ([], belatedStack) := rfl
  have cache : (belatedStack.world.cache? 0).isSome = true := rfl
  obtain ⟨c₀, cache⟩ := Option.isSome_iff_exists.1 cache
  obtain ⟨moves, run⟩ := run_belatedCall
  have running : belatedCall.running = some 0 := rfl
  have before : (belatedCall.tasks[0]?).map (fun t => (t.request, t.stage 0)) =
      some (.work 0, .holding 1 false) := rfl
  have after : ((belatedCall.advance .job 0).tasks[0]?).map (·.stage 0) = some .loading := rfl
  obtain ⟨t, task, hbefore⟩ := Option.map_eq_some_iff.1 before
  obtain ⟨t', task', hafter⟩ := Option.map_eq_some_iff.1 after
  simp only [Prod.mk.injEq] at hbefore
  have calls : CallsInBackground 0 belatedCall (belatedCall.advance .job 0) 0 :=
    ⟨t, t', running, task, hbefore.1, by simp [hbefore.2], task', hafter⟩
  obtain ⟨c, r, e, worker, hc, hr, -, entry, -, -, -, -, -, due, -⟩ :=
    background_call_is_due built cache run (.advance .job running) calls
  have hfacts : (belatedCall.world.cache? 0).map (fun c =>
      (c.generation, c.early.map EarlyRefresh.window)) = some (1, some (Span.ofSeconds 30)) := rfl
  rw [hc] at hfacts
  simp only [Option.map_some, Option.some.injEq, Prod.mk.injEq, hr] at hfacts
  rw [hfacts.2] at due
  exact ⟨calls, c, e, hc, hfacts.1, entry, due⟩

end Machine

end CredentialSupply
