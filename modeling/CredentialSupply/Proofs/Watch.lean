import CredentialSupply.Proofs.Peace
import CredentialSupply.Proofs.Punctual

set_option autoImplicit false

/-!
# The worker at its post

The worker of a cache in eager mode rests until the window before the expiry of the entry begins
(`Task.Rests`), and then refreshes the entry (`Task.Refreshes`). `AtPost.step` says that it stays at
this post, as long as it gets the lock and its inner calls have values that last. Everybody else
leaves it alone: while the entry is valid, nobody but the worker makes an inner call, and nobody
but the worker schedules a refresh (`Turn.visitor_of_entry`).
-/

namespace CredentialSupply

variable {V σ C : Type}

/-! ## The frames of an inner call -/

/-- The frame of the inner call that a task has in flight for the cache at a layer, with the frames
around it. -/
def Task.callFrames (layer : Nat) (t : Task V C) : List Frame :=
  t.frames.dropWhile fun f => !f.isLoad layer

section CallFrames

variable {layer : Nat} {t t' : Task V C}

theorem Task.callFrames_of_load {startedAt : Instant} {frames : List Frame}
    (head : t.frames = .load layer startedAt :: frames) : t.callFrames layer = t.frames := by
  simp [callFrames, head, Frame.isLoad]

theorem Task.mem_of_callFrames {f : Frame} (h : f ∈ t.callFrames layer) : f ∈ t.frames :=
  (List.dropWhile_sublist _).subset h

theorem dropWhile_append_of_one {α : Type} {p : α → Bool} (front : List α) {rest : List α}
    (one : (front ++ rest).countP p ≤ 1) (any : rest.any p = true) :
    (front ++ rest).dropWhile (fun f => !p f) = rest.dropWhile fun f => !p f := by
  have hpos : 0 < rest.countP p := by
    rw [List.countP_pos_iff]
    exact List.any_eq_true.1 any
  rw [List.countP_append] at one
  have hfront : front.countP p = 0 := by omega
  rw [List.countP_eq_zero] at hfront
  apply List.dropWhile_append_of_pos
  intro f hf
  simpa using hfront f hf

variable [Perishable V] {k k' : Content V}

/-- While an inner call is in flight, its frames stay. -/
theorem Stride.callFrames_eq (shaped : t.Shaped) (shaped' : t'.Shaped) (h : Stride t k t' k')
    (loading : t.stage layer = .loading) (loading' : t'.stage layer = .loading) :
    t'.callFrames layer = t.callFrames layer := by
  rcases h.frames_cases with ⟨front, hframes⟩ | ⟨f, hframes⟩
  · have hone := Task.countP_isLoad_le_one shaped layer
    rw [← hframes] at hone
    rw [Task.callFrames, Task.callFrames, ← hframes]
    exact (dropWhile_append_of_one front hone (Task.isLoad_of_loading loading')).symm
  · have hone := Task.countP_isLoad_le_one shaped' layer
    rw [hframes] at hone
    rw [Task.callFrames, Task.callFrames, hframes]
    exact dropWhile_append_of_one [f] hone (Task.isLoad_of_loading loading)

end CallFrames

/-! ## Turns of visitors -/

section Turn

variable [Perishable V] {layer : Nat} {now : Instant} {t t' : Task V C} {c c' : Cache V}

omit [Perishable V] in
/-- Only the worker carries out refreshes in the background. -/
theorem Task.duty?_of_visitor {f : Frame} (shaped : t.Shaped) (request : t.request ≠ .work layer)
    (frames : t.frames = [f]) : f.duty? layer = none := by
  rw [← Task.duty?_of_single frames]
  cases hduty : t.duty? layer with
  | none => rfl
  | some job => exact absurd (Task.request_of_duty shaped hduty) request

/-- A task that is not the worker finds a cache without an entry. Nothing changes but the lock, or
the task installs an entry. -/
theorem Turn.visitor_of_blank (shaped : t.Shaped) (request : t.request ≠ .work layer)
    (gentle : t.request ≠ .close) (entry : c.entry = none) (h : Turn layer now t c t' c') :
    (c'.entry = none ∧ c'.generation = c.generation ∧ c'.early = c.early) ∨
      ∃ startedAt frames v e, t.control = .deliver (.value v) ∧
        t.frames = .load layer startedAt :: frames ∧ c.settings.lifetime.entry? v now = some e ∧
        t'.stage layer = .away ∧ c' = { c.install e with lock := c.lock.release } := by
  cases h with
  | @install startedAt frames v e control head stamp =>
      refine Or.inr ⟨startedAt, frames, v, e, control, head, stamp, ?_, rfl⟩
      rw [Task.stage_pass]
      exact Task.around_tail shaped control head
  | hit control valid =>
      rw [Cache.valid?, entry] at valid
      cases valid
  | elsewhere | overrun | miss | seize | queue | receive | giveUp | adopt | load | fail | crash =>
      exact Or.inl ⟨entry, rfl, rfl⟩
  | tend attends | takeJob attends | fire attends => exact absurd attends.1 request
  | succeed control frames duty =>
      rw [Task.duty?_of_visitor shaped request frames] at duty
      cases duty
  | forgo control frames duty =>
      rw [Task.duty?_of_visitor shaped request frames] at duty
      cases duty
  | retire request' => exact absurd request' request
  | @abandon l request' =>
      have hl : l ≠ layer := fun hl => request (hl ▸ request')
      exact Or.inl ⟨entry, rfl, if_neg hl⟩
  | tell request' => exact absurd request' gentle

/-- A task that is not the worker finds a valid entry. It leaves entry and worker as they are, and
does not begin an inner call, as long as it has seen no more than an earlier generation. -/
theorem Turn.visitor_of_entry {r : EarlyRefresh} {e : Entry V} (shaped : t.Shaped)
    (request : t.request ≠ .work layer) (gentle : t.request ≠ .close) (carries : t.Carries false)
    (early : c.early = some r) (entry : c.entry = some e) (valid : e.isValid now = true)
    (claimed : e.expiresAt.nanos < now.nanos + r.window.nanos → r.claimed = some e.expiresAt)
    (idle : t.stage layer ≠ .loading)
    (seen : ∀ s, (t.stage layer).seen? = some s → s < c.generation)
    (h : Turn layer now t c t' c') :
    (c'.entry = c.entry ∧ c'.generation = c.generation ∧ c'.early = c.early) ∧
      (t'.stage layer = .away ∨ t.stage layer ≠ .away ∧ t'.stage layer ≠ .loading ∧
        (t'.stage layer).seen? = (t.stage layer).seen?) := by
  have hvalid : c.valid? now = some e := by
    rw [Cache.valid?, entry]
    simp [valid]
  have outside : t.around layer = .away → ∀ outcome : Outcome V,
      (t.pass outcome).stage layer = .away :=
    fun h outcome => (Task.stage_pass outcome).trans h
  cases h with
  | elsewhere acts stage =>
      refine ⟨⟨rfl, rfl, rfl⟩, ?_⟩
      rw [stage]
      by_cases haway : t.stage layer = .away
      · exact Or.inl haway
      · exact Or.inr ⟨haway, idle, rfl⟩
  | hit control valid' noticed =>
      rw [hvalid] at valid'
      cases valid'
      refine ⟨?_, Or.inl (outside (Task.around_of_enter shaped control) _)⟩
      rcases Cache.noticed?_cases noticed with rfl | ⟨r', hr', inWindow, -, rfl⟩
      · exact ⟨rfl, rfl, rfl⟩
      · -- the refresh has been claimed, so that nothing is scheduled
        rw [early] at hr'
        cases hr'
        rw [EarlyRefresh.schedule_of_claimed (claimed inWindow), early]
        exact ⟨rfl, rfl, rfl⟩
  | overrun control =>
      exact ⟨⟨rfl, rfl, rfl⟩, Or.inl (outside (Task.around_of_enter shaped control) _)⟩
  | @miss force control stale =>
      rcases stale with rfl | stale
      · have hforce := carries.control true (by rw [control]; rfl)
        cases hforce
      · rw [hvalid] at stale
        cases stale
  | seize control =>
      refine ⟨⟨rfl, rfl, rfl⟩, Or.inr ?_⟩
      rw [Task.stage_of_acquire control, Task.stage_goto_locked]
      exact ⟨Stage.noConfusion, Stage.noConfusion, rfl⟩
  | queue control =>
      refine ⟨⟨rfl, rfl, rfl⟩, Or.inr ?_⟩
      rw [Task.stage_of_acquire control, Task.stage_goto_queued]
      exact ⟨Stage.noConfusion, Stage.noConfusion, rfl⟩
  | receive control =>
      refine ⟨⟨rfl, rfl, rfl⟩, Or.inr ?_⟩
      rw [Task.stage_of_queued control, Task.stage_goto_locked]
      exact ⟨Stage.noConfusion, Stage.noConfusion, rfl⟩
  | giveUp control | adopt control =>
      exact ⟨⟨rfl, rfl, rfl⟩,
        Or.inl (outside (Task.around_of_snapshot shaped (by simp [control])) _)⟩
  | @load s force control same =>
      -- there is a newer entry than the one that the holder saw
      have hlt := seen s (by rw [Task.stage_of_locked control]; rfl)
      rw [Cache.replacement?, if_neg (by omega), entry] at same
      cases same
  | install control head | fail control head | crash control head =>
      exact absurd (Task.stage_of_load control head) idle
  | tend attends | takeJob attends | fire attends => exact absurd attends.1 request
  | succeed control frames duty =>
      rw [Task.duty?_of_visitor shaped request frames] at duty
      cases duty
  | forgo control frames duty =>
      rw [Task.duty?_of_visitor shaped request frames] at duty
      cases duty
  | retire request' => exact absurd request' request
  | @abandon l request' =>
      have hl : l ≠ layer := fun hl => request (hl ▸ request')
      exact ⟨⟨rfl, rfl, if_neg hl⟩, Or.inl (Task.stage_eq_away_of_nil rfl rfl)⟩
  | tell request' => exact absurd request' gentle

/-- A task with an inner call in flight goes on with it, or the call ends. -/
theorem Turn.of_loading (shaped : t.Shaped) (loading : t.stage layer = .loading)
    (h : Turn layer now t c t' c') :
    (c' = c ∧ t'.stage layer = .loading) ∨
      (∃ startedAt frames outcome, t.control = .deliver outcome ∧
        t.frames = .load layer startedAt :: frames ∧
          ∀ v e, outcome = .value v → c.settings.lifetime.entry? v now = some e →
            t' = Task.pass { t with frames } (e.outcome now) ∧
              c' = { c.install e with lock := c.lock.release }) ∨
      (t.control.isParked = true ∧ t'.hasEnded = true) := by
  have hstage : ∀ {s : Stage}, t.stage layer = s → s ≠ .loading → False :=
    fun h hs => hs (h ▸ loading)
  cases h with
  | elsewhere acts stage => exact Or.inl ⟨rfl, stage ▸ loading⟩
  | @install startedAt frames v e control head stamp =>
      refine Or.inr (Or.inl ⟨startedAt, frames, _, control, head, ?_⟩)
      rintro v' e' ⟨rfl⟩ stamp'
      rw [stamp] at stamp'
      cases stamp'
      exact ⟨rfl, rfl⟩
  | @fail startedAt frames f control head =>
      refine Or.inr (Or.inl ⟨startedAt, frames, _, control, head, ?_⟩)
      rintro v e ⟨⟩
  | @crash startedAt frames outcome control head lost =>
      refine Or.inr (Or.inl ⟨startedAt, frames, _, control, head, ?_⟩)
      rintro v e rfl stamp
      rcases lost with lost | ⟨v', hv, lost⟩
      · cases lost
      · cases hv
        rw [stamp] at lost
        cases lost
  | abandon request parked => exact Or.inr (Or.inr ⟨parked, rfl⟩)
  -- in all other turns the task stands elsewhere
  | hit control | overrun control | miss control =>
      exact (hstage (Task.stage_of_enter shaped control) Stage.noConfusion).elim
  | seize control | queue control =>
      exact (hstage (Task.stage_of_acquire control) Stage.noConfusion).elim
  | receive control | giveUp control =>
      exact (hstage (Task.stage_of_queued control) Stage.noConfusion).elim
  | adopt control | load control =>
      exact (hstage (Task.stage_of_locked control) Stage.noConfusion).elim
  | tend attends | takeJob attends | fire attends =>
      exact (hstage (attends.outside layer).1 Stage.noConfusion).elim
  | succeed control frames duty =>
      exact (hstage (Task.stage_of_duty control frames duty) Stage.noConfusion).elim
  | forgo control frames duty =>
      exact (hstage (Task.stage_of_duty control frames (Option.isSome_of_mem duty))
        Stage.noConfusion).elim
  | retire request away => exact (hstage away Stage.noConfusion).elim
  | tell request frames control =>
      exact (hstage (Task.stage_eq_away_of_nil frames (by simp [control])) Stage.noConfusion).elim

end Turn

/-! ## The worker looks around -/

namespace Task

section Worker

variable {layer : Nat} {t : Task V C} {w : World V σ} {c : Cache V} {r : EarlyRefresh}

/-- A worker without jobs takes notice of a refresh, or its timer fires, or it waits. -/
theorem listen_cases (favoured : Signal) (retryAfter deadline : Option Instant)
    (hc : w.cache? layer = some c) (hr : c.early = some r) (jobs : r.jobs = []) :
    (r.refreshed = true ∧
        t.listen w favoured layer retryAfter deadline = t.takeNotice w layer) ∨
      t.listen w favoured layer retryAfter deadline = t.fireTimer w layer c r ∨
      (r.refreshed = false ∧ t.listen w favoured layer retryAfter deadline =
        (w.mapEarly layer ({ · with listening := true }),
          t.goto (.listening layer retryAfter deadline))) := by
  have hjob : t.follow? w layer retryAfter deadline c r .job = none := by
    simp only [follow?, jobs]
  have hnotice : t.follow? w layer retryAfter deadline c r .notice =
      if r.refreshed then some (t.takeNotice w layer) else none := rfl
  have htimer : t.follow? w layer retryAfter deadline c r .timer =
      if deadline.any fun d => decide (d.ceilMilli ≤ w.now) then some (t.fireTimer w layer c r)
      else none := rfl
  generalize (deadline.any fun d => decide (d.ceilMilli ≤ w.now)) = due at htimer
  cases hrefreshed : r.refreshed <;> cases due <;> cases favoured <;>
    simp [listen, hc, World.early?_eq w hc, hr, hjob, hnotice, htimer, hrefreshed]

/-- The timer fires. Where the entry is not claimed, the worker goes on waiting, or begins to
refresh the entry in the window before its expiry. -/
theorem fireTimer_cases (w : World V σ) (layer : Nat)
    (unclaimed : ∀ e, c.entry = some e → r.claimed ≠ some e.expiresAt) :
    t.fireTimer w layer c r =
        (w.mapEarly layer ({ · with listening := false }), t.goto (.attend layer none)) ∨
      ∃ e, c.entry = some e ∧ r.isDue e w.now = true ∧
        t.fireTimer w layer c r =
          ((w.mapEarly layer ({ · with listening := false })).mapEarly layer
              ({ · with claimed := some e.expiresAt }),
            t.push (.timer layer ⟨c.generation, e.expiresAt⟩ w.now)
              (.acquire layer c.generation false)) := by
  unfold fireTimer
  simp only [World.now_mapEarly]
  cases hdue : c.entry.filter fun e => r.isDue e w.now with
  | none => exact Or.inl rfl
  | some e =>
      obtain ⟨entry, due⟩ := Option.filter_eq_some_iff.1 hdue
      have hclaim : r.claim? e.expiresAt = some { r with claimed := some e.expiresAt } :=
        if_neg (unclaimed e entry)
      simp only [hclaim]
      exact Or.inr ⟨e, entry, due, rfl⟩

end Worker

/-! ## What the worker does -/

/-- The worker of a cache has no refresh to make. -/
inductive Rests (layer : Nat) (c : Cache V) (r : EarlyRefresh) (woken : Prop) (t : Task V C) :
    Prop where
  | begin (control : t.control = .begin) (ready : woken)
  | attend (control : t.control = .attend layer none)
  /-- It is called when somebody has refreshed, and otherwise waits for the window to begin. -/
  | listen {deadline : Option Instant} (control : t.control = .listening layer none deadline)
      (listening : r.listening = true) (called : r.refreshed = true → woken)
      (timer : r.refreshed = false → deadline = r.deadline? c.entry none)
  /-- It has just refreshed. -/
  | finish {v : V} {job : RefreshJob} {firedAt : Instant}
      (control : t.control = .deliver (.value v)) (frames : t.frames = [.timer layer job firedAt])

/-- The worker of a cache refreshes the entry `e`, having begun in time. -/
inductive Refreshes (layer : Nat) (now : Instant) (c : Cache V) (r : EarlyRefresh) (e : Entry V)
    (t : Task V C) : Prop where
  | ask {job : RefreshJob} {firedAt : Instant}
      (control : t.control = .acquire layer c.generation false)
      (frames : t.frames = [.timer layer job firedAt])
      (inTime : now.nanos + r.window.nanos ≤ e.expiresAt.nanos)
  | hold {job : RefreshJob} {firedAt : Instant}
      (control : t.control = .locked layer c.generation false)
      (frames : t.frames = [.timer layer job firedAt])
      (inTime : now.nanos + r.window.nanos ≤ e.expiresAt.nanos)
  | load {job : RefreshJob} {firedAt startedAt : Instant} (stage : t.stage layer = .loading)
      (frames : t.callFrames layer = [.load layer startedAt, .timer layer job firedAt])
      (inTime : startedAt.nanos + r.window.nanos ≤ e.expiresAt.nanos)

/-- The worker of a cache at its post: as long as the window before the expiry of the entry has not
begun it rests, and then it refreshes the entry, which it has claimed. -/
inductive AtPost (layer : Nat) (now : Instant) (c : Cache V) (r : EarlyRefresh) (woken : Prop)
    (t : Task V C) : Prop where
  | rests (early : ∀ e, c.entry = some e →
        now.nanos + r.window.nanos ≤ e.expiresAt.nanos ∧ r.claimed ≠ some e.expiresAt)
      (rests : t.Rests layer c r woken)
  | refreshes {e : Entry V} (entry : c.entry = some e) (claimed : r.claimed = some e.expiresAt)
      (begun : e.expiresAt.nanos ≤ now.nanos + r.window.nanos)
      (refreshes : t.Refreshes layer now c r e)

section Post

variable {layer : Nat} {now : Instant} {t : Task V C} {c c' : Cache V} {r : EarlyRefresh}
  {woken woken' : Prop}

/-- The post of the worker depends on the entry, and on nothing else of the cache. -/
theorem AtPost.congr (h : t.AtPost layer now c r woken) (entry : c'.entry = c.entry)
    (generation : c'.generation = c.generation) (mono : woken → woken') :
    t.AtPost layer now c' r woken' := by
  cases h with
  | rests early rests =>
      refine .rests (by rw [entry]; exact early) ?_
      cases rests with
      | begin control ready => exact .begin control (mono ready)
      | attend control => exact .attend control
      | listen control listening called timer =>
          exact .listen control listening (fun h => mono (called h)) (by rw [entry]; exact timer)
      | finish control frames => exact .finish control frames
  | refreshes entry' claimed begun refreshes =>
      refine .refreshes (entry.trans entry') claimed begun ?_
      cases refreshes with
      | ask control frames inTime => exact .ask (by rw [generation]; exact control) frames inTime
      | hold control frames inTime => exact .hold (by rw [generation]; exact control) frames inTime
      | load stage frames inTime => exact .load stage frames inTime

end Post

/-! ## The steps of the worker -/

section Step

variable {layer : Nat} {t : Task V C} {w : World V σ} {c : Cache V} {r : EarlyRefresh}
  {woken : Prop}

/-- Whoever installs an entry calls the worker that listens. -/
theorem install_calls [Perishable V] {v : V} {e : Entry V} {startedAt : Instant}
    (hc : w.cache? layer = some c) (hr : c.early = some r) (listening : r.listening = true)
    (stamp : c.settings.lifetime.entry? v w.now = some e) :
    r.worker ∈ (t.install w layer startedAt v).1.ready := by
  have hearly : (w.mapCache layer (·.install e)).early? layer =
      some { r with refreshed := true } := by
    rw [World.early?_eq (c := c.install e) _ (by simp [World.cache?_mapCache, hc])]
    simp [Cache.install, hr]
  have hrouse : (w.mapCache layer (·.install e)).rouse layer =
      (w.mapCache layer (·.install e)).wake r.worker := by
    simp [World.rouse, hearly, EarlyRefresh.isCalled, listening]
  simp only [install, hc, stamp, settle, hrouse]
  have hrelease : ∀ w' : World V σ, World.Leads t.id w' (w'.release layer) :=
    fun _ => World.leads_release layer
  exact (hrelease _).ready _ (World.mem_ready_wake _ _)

/-- What a step of the worker from its post leads to: it is at its post again, and the entry is the
same, or another one has replaced it in its window. -/
structure Patrols (layer : Nat) (now : Instant) (c : Cache V) (r : EarlyRefresh)
    (next : World V σ × Task V C) (c' : Cache V) (r' : EarlyRefresh) : Prop where
  cache : next.1.cache? layer = some c'
  early : c'.early = some r'
  worker : r.SameWorker r'
  jobs : r'.jobs = []
  post : next.2.AtPost layer now c' r' False
  entry : c'.entry = c.entry ∧ c'.generation = c.generation ∧
      (c.entry = none → r'.claimed = r.claimed) ∨
    ∃ e e', c.entry = some e ∧ e.expiresAt.nanos ≤ now.nanos + r.window.nanos ∧
      c'.entry = some e' ∧ e'.Lasts r.window

/-- A worker at rest that looks around goes on resting, or begins to refresh the entry as its window
begins. -/
theorem Rests.listen_patrols {deadline : Option Instant} (favoured : Signal)
    (hc : w.cache? layer = some c) (hr : c.early = some r) (jobs : r.jobs = [])
    (frames : t.frames = [])
    (early : ∀ e, c.entry = some e → w.now.nanos + r.window.nanos ≤ e.expiresAt.nanos ∧
      r.claimed ≠ some e.expiresAt)
    (timer : r.refreshed = false → deadline = r.deadline? c.entry none) :
    ∃ c' r', Patrols layer w.now c r (t.listen w favoured layer none deadline) c' r' := by
  -- a change of the signs between the worker and its cache
  have hsigns : ∀ (f : EarlyRefresh → EarlyRefresh) (x : Control V C),
      r.SameWorker (f r) → (f r).jobs = r.jobs → (f r).claimed = r.claimed →
      (t.goto x).Rests layer { c with early := some (f r) } (f r) False →
      ∃ c' r', Patrols layer w.now c r (w.mapEarly layer f, t.goto x) c' r' := by
    intro f x worker jobs' claimed rests
    refine ⟨{ c with early := some (f r) }, f r, World.cache?_mapEarly_of_some f hc hr, rfl, worker,
      jobs'.trans jobs, .rests ?_ rests, Or.inl ⟨rfl, rfl, fun _ => claimed⟩⟩
    rw [claimed, worker.1]
    exact early
  rcases listen_cases (t := t) favoured none deadline hc hr jobs with
    ⟨-, hnext⟩ | hnext | ⟨hrefreshed, hnext⟩
  · rw [hnext]
    exact hsigns _ _ ⟨rfl, rfl, rfl, rfl⟩ rfl rfl (.attend rfl)
  · rw [hnext]
    rcases fireTimer_cases (t := t) w layer fun e he => (early e he).2 with
      hnext | ⟨e, he, due, hnext⟩
    · rw [hnext]
      exact hsigns _ _ ⟨rfl, rfl, rfl, rfl⟩ rfl rfl (.attend rfl)
    · rw [hnext]
      simp only [EarlyRefresh.isDue, Bool.and_eq_true, decide_eq_true_iff] at due
      -- the window begins at this very instant
      have hbegun := Entry.le_of_windowStart_le due.2
      have hframes : .timer layer ⟨c.generation, e.expiresAt⟩ w.now :: t.frames =
          [.timer layer ⟨c.generation, e.expiresAt⟩ w.now] := by rw [frames]
      refine ⟨{ c with early := some { r with listening := false, claimed := some e.expiresAt } },
        { r with listening := false, claimed := some e.expiresAt }, ?_, rfl, ⟨rfl, rfl, rfl, rfl⟩,
        jobs, .refreshes he rfl hbegun (.ask rfl hframes (early e he).1), Or.inl ⟨rfl, rfl, ?_⟩⟩
      · have hlistening := World.cache?_mapEarly_of_some ({ · with listening := false }) hc hr
        exact World.cache?_mapEarly_of_some _ hlistening rfl
      · intro hnone
        rw [he] at hnone
        cases hnone
  · rw [hnext]
    refine hsigns _ _ ⟨rfl, rfl, rfl, rfl⟩ rfl rfl (.listen rfl rfl ?_ fun _ => timer hrefreshed)
    intro h
    rw [hrefreshed] at h
    cases h

/-- A step of a worker at rest. -/
theorem Rests.step [Source σ V C] [Perishable V] (rests : t.Rests layer c r woken)
    (favoured : Signal) (shaped : t.Shaped) (request : t.request = .work layer)
    (going : t.isStopped w = false) (hc : w.cache? layer = some c) (hr : c.early = some r)
    (jobs : r.jobs = [])
    (early : ∀ e, c.entry = some e → w.now.nanos + r.window.nanos ≤ e.expiresAt.nanos ∧
      r.claimed ≠ some e.expiresAt) :
    ∃ c' r', Patrols layer w.now c r (t.step w favoured) c' r' := by
  -- a worker that has nothing to do but to look around next
  have hattend : ∀ u : Task V C, u.control = .attend layer none →
      ∃ c' r', Patrols layer w.now c r (w, u) c' r' := fun u control =>
    ⟨c, r, hc, hr, ⟨rfl, rfl, rfl, rfl⟩, jobs, .rests early (.attend control),
      Or.inl ⟨rfl, rfl, fun _ => rfl⟩⟩
  rw [step_of_not_stopped going]
  cases rests with
  | begin control =>
      have hnext : t.advance w favoured = (w, t.goto (.attend layer none)) := by
        simp only [advance, control, start, request]
      rw [hnext]
      exact hattend _ rfl
  | attend control =>
      have hframes : t.frames = [] := by
        rw [Shaped, control] at shaped
        exact shaped.2
      have hnext : t.advance w favoured =
          t.listen w favoured layer none (r.deadline? c.entry none) := by
        simp only [advance, control, Task.attend, World.early?_eq w hc, hr, hc, Option.bind_some]
      rw [hnext]
      exact listen_patrols favoured hc hr jobs hframes early fun _ => rfl
  | @listen deadline control listening called timer =>
      have hframes : t.frames = [] := by
        rw [Shaped, control] at shaped
        exact shaped.2
      have hnext : t.advance w favoured = t.listen w favoured layer none deadline := by
        simp only [advance, control]
      rw [hnext]
      exact listen_patrols favoured hc hr jobs hframes early timer
  | finish control frames =>
      have hnext : t.advance w favoured =
          (w, Task.goto { t with frames := [] } (.attend layer none)) := by
        simp only [advance, control, deliver, frames, timerDone]
      rw [hnext]
      exact hattend _ rfl

/-- The worker has refreshed. The expiry moves on: the old one was in the window, and the new one is
after it. -/
theorem Refreshes.finish {e e' : Entry V} {next : World V σ × Task V C} {v : V} {job : RefreshJob}
    {firedAt : Instant} (entry : c.entry = some e) (claimed : r.claimed = some e.expiresAt)
    (begun : e.expiresAt.nanos ≤ w.now.nanos + r.window.nanos) (hr : c.early = some r)
    (jobs : r.jobs = []) (installed : e'.installedAt = w.now) (lasts : e'.Lasts r.window)
    (cache : next.1.cache? layer = some { c.install e' with lock := c.lock.release })
    (control : next.2.control = .deliver (.value v))
    (frames : next.2.frames = [.timer layer job firedAt]) :
    Patrols layer w.now c r next { c.install e' with lock := c.lock.release }
      { r with refreshed := true } := by
  have hlater := (e'.outlasts_iff r.window).1 lasts.outlasts
  rw [installed] at hlater
  refine ⟨cache, by simp [Cache.install, hr], ⟨rfl, rfl, rfl, rfl⟩, jobs,
    .rests ?_ (.finish control frames), Or.inr ⟨e, e', entry, begun, rfl, lasts⟩⟩
  rintro x ⟨⟩
  refine ⟨by simp only; omega, fun h => ?_⟩
  have hsame : some e.expiresAt = some e'.expiresAt := claimed.symm.trans h
  have heq := Option.some.inj hsame
  rw [heq] at begun
  omega

/-- A step of a worker that refreshes the entry. -/
theorem Refreshes.step [Source σ V C] [Perishable V] {e : Entry V}
    (refreshes : t.Refreshes layer w.now c r e) (favoured : Signal) (shaped : t.Shaped)
    (going : t.isStopped w = false) (hc : w.cache? layer = some c) (hr : c.early = some r)
    (jobs : r.jobs = []) (entry : c.entry = some e) (claimed : r.claimed = some e.expiresAt)
    (begun : e.expiresAt.nanos ≤ w.now.nanos + r.window.nanos)
    (free : (t.stage layer).isEngaged = false → c.lock = .free)
    (lasting : ∀ outcome, t.innerOutcome? layer = some outcome → ∃ v e, outcome = .value v ∧
      c.settings.lifetime.entry? v w.now = some e ∧ e.Lasts r.window) :
    ∃ c' r', Patrols layer w.now c r (t.step w favoured) c' r' := by
  have hsame : r.SameWorker r := ⟨rfl, rfl, rfl, rfl⟩
  cases refreshes with
  | ask control frames inTime =>
      -- nobody else is at the cache, so that the worker gets the lock at once
      have hfree : c.lock = .free := free (by
        rw [stage_of_acquire control]
        rfl)
      have hheld : (Lock.free.ask t.id).isHeldBy t.id = true :=
        (Lock.isHeldBy_iff _ _).2 rfl
      rw [step_of_not_stopped going]
      simp only [advance, control, acquire, hc, hfree, hheld, if_true]
      refine ⟨{ c with lock := Lock.free.ask t.id }, r, ?_, hr, hsame, jobs,
        .refreshes entry claimed begun (.hold rfl frames inTime),
        Or.inl ⟨rfl, rfl, fun _ => rfl⟩⟩
      simp [World.cache?_mapCache, hc]
  | hold control frames inTime =>
      -- nobody has replaced the entry either
      have hnone : (w.cache? layer).bind (·.replacement? c.generation) = none := by
        simp [hc, Cache.replacement?]
      rw [step_of_not_stopped going]
      simp only [advance, control, refresh, hnone]
      have hframes := (callFrames_of_load (t := t.push (.load layer w.now)
        (.enter layer false)) rfl).trans (congrArg (Frame.load layer w.now :: ·) frames)
      exact ⟨c, r, hc, hr, hsame, jobs,
        .refreshes entry claimed begun (.load (stage_push_load _ _) hframes inTime),
        Or.inl ⟨rfl, rfl, fun _ => rfl⟩⟩
  | @load job firedAt startedAt stage frames inTime =>
      have hparked : t.isStopped w = true → t.control.isParked = true := by
        rw [going]
        exact Bool.noConfusion
      have hturns : Turns layer t w c (t.step w favoured) :=
        turns_step shaped hc (fun _ => ⟨r, hr⟩) hparked
      obtain ⟨c₁, hc₁, turn⟩ := hturns
      rcases turn.of_loading shaped stage with ⟨rfl, stage'⟩ |
        ⟨startedAt', frames', outcome, control, head, hinstall⟩ | ⟨hpark, hended⟩
      · -- the inner call goes on
        have stride : Stride t w.content (t.step w favoured).2 _ :=
          strides_step shaped hparked
        have hframes := stride.callFrames_eq shaped (shaped_step shaped) stage stage'
        exact ⟨c₁, r, hc₁, hr, hsame, jobs, .refreshes entry claimed begun
          (.load stage' (hframes.trans frames) inTime), Or.inl ⟨rfl, rfl, fun _ => rfl⟩⟩
      · -- it ends with a value that lasts
        obtain ⟨v, e', rfl, stamp, lasts⟩ :=
          lasting outcome (innerOutcome?_of_load control head)
        obtain ⟨hnext, rfl⟩ := hinstall v e' rfl stamp
        have hinstalled := Lifetime.installedAt_of_entry? stamp
        have hvalid : e'.outcome w.now = .value e'.value := by
          have hlater := (e'.outlasts_iff r.window).1 lasts.outlasts
          rw [hinstalled] at hlater
          rw [Entry.outcome, if_pos ((e'.isValid_iff _).2 (by rw [Instant.le_def]; omega))]
        have hcontrol : (t.step w favoured).2.control = .deliver (.value e'.value) := by
          rw [hnext, hvalid]
          rfl
        have hframes : (t.step w favoured).2.frames = [.timer layer job firedAt] := by
          rw [callFrames_of_load head, head] at frames
          rw [hnext]
          exact (List.cons.inj frames).2
        exact ⟨_, _, finish entry claimed begun hr jobs hinstalled lasts hc₁ hcontrol hframes⟩
      · have hinside : t.frames ≠ [] := by
          intro hnil
          have hany := isLoad_of_loading stage
          rw [hnil] at hany
          cases hany
        rw [going_of_parked shaped hinside hpark going] at hended
        cases hended

/-- The worker goes about its work, as long as it gets the lock and inner calls have a value that
lasts. -/
theorem AtPost.step [Source σ V C] [Perishable V] (post : t.AtPost layer w.now c r woken)
    (favoured : Signal) (shaped : t.Shaped) (request : t.request = .work layer)
    (going : t.isStopped w = false) (hc : w.cache? layer = some c) (hr : c.early = some r)
    (jobs : r.jobs = [])
    (free : ∀ e, c.entry = some e → e.expiresAt.nanos ≤ w.now.nanos + r.window.nanos →
      (t.stage layer).isEngaged = false → c.lock = .free)
    (lasting : ∀ outcome, t.innerOutcome? layer = some outcome → ∃ v e, outcome = .value v ∧
      c.settings.lifetime.entry? v w.now = some e ∧ e.Lasts r.window) :
    ∃ c' r', Patrols layer w.now c r (t.step w favoured) c' r' := by
  cases post with
  | rests early rests => exact rests.step favoured shaped request going hc hr jobs early
  | refreshes entry claimed begun refreshes =>
      exact refreshes.step favoured shaped going hc hr jobs entry claimed begun
        (free _ entry begun) lasting

end Step

end Task

end CredentialSupply
