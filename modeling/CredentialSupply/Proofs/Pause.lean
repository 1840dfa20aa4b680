import CredentialSupply.Proofs.Due
import CredentialSupply.Proofs.Watch

set_option autoImplicit false

/-!
# The pause between refreshes by the timer

The timer of a worker starts a refresh of the entry in its window (`Machine.Fires`). When the
refresh fails (`Machine.Falters`), the worker puts its timer off (`Task.PutOff`) until a pause after
the refresh *started*. Jobs from the queue leave the timer put off, and only a notice of a refresh
by somebody else (`Machine.Notices`) sets it again at once. So two refreshes by the timer for one
generation start a pause apart (`refreshes_by_timer_pause`), and a refresh that fails after a long
time may be followed by the next one at once (`slow_refresh_is_followed_at_once`).
-/

namespace CredentialSupply

variable {V σ C : Type}

/-! ## The worker heeds a signal -/

namespace EarlyRefresh

/-- A timer that is put off is not set to an earlier instant. -/
theorem le_of_deadline? {r : EarlyRefresh} {entry : Option (Entry V)} {x d : Instant}
    (h : r.deadline? entry (some x) = some d) : x ≤ d := by
  unfold deadline? at h
  split at h
  · split at h
    · cases h
      exact Instant.le_latest_right _ _
    · cases h
  · cases h

end EarlyRefresh

namespace Task

/-- What the worker of a cache does when it looks for a signal. -/
inductive Heeds (layer : Nat) (retryAfter deadline : Option Instant) (t : Task V C) (w : World V σ)
    (c : Cache V) (r : EarlyRefresh) : World V σ × Task V C → Prop where
  /-- It takes a job from its queue. -/
  | job {job : RefreshJob} {rest : List RefreshJob} (jobs : r.jobs = job :: rest) :
      Heeds layer retryAfter deadline t w c r (t.takeJob w layer retryAfter job rest)
  /-- It takes notice of a refresh. -/
  | notice (refreshed : r.refreshed = true) :
      Heeds layer retryAfter deadline t w c r (t.takeNotice w layer)
  /-- Its timer fires, at the deadline or later. -/
  | timer {d : Instant} (set : deadline = some d) (due : d ≤ w.now) :
      Heeds layer retryAfter deadline t w c r (t.fireTimer w layer c r)
  /-- It waits. -/
  | wait : Heeds layer retryAfter deadline t w c r
      (w.mapEarly layer ({ · with listening := true }),
        t.goto (.listening layer retryAfter deadline))

section Heeds

variable {layer : Nat} {retryAfter deadline : Option Instant} {t : Task V C} {w : World V σ}
  {c : Cache V} {r : EarlyRefresh} {next : World V σ × Task V C}

theorem heeds_follow? {signal : Signal}
    (h : t.follow? w layer retryAfter deadline c r signal = some next) :
    t.Heeds layer retryAfter deadline w c r next := by
  cases signal with
  | job =>
      simp only [follow?] at h
      split at h
      · cases h
      next job rest jobs =>
        cases h
        exact .job jobs
  | notice =>
      simp only [follow?] at h
      split at h
      next refreshed =>
        cases h
        exact .notice refreshed
      · cases h
  | timer =>
      simp only [follow?] at h
      split at h
      next due =>
        cases h
        obtain ⟨d, set, hd⟩ := (Option.any_eq_true _ _).1 due
        exact .timer set (Instant.le_trans d.le_ceilMilli (of_decide_eq_true hd))
      · cases h

/-- The list is complete. -/
theorem listen_heeds (favoured : Signal) (hc : w.cache? layer = some c) (hr : c.early = some r) :
    t.Heeds layer retryAfter deadline w c r (t.listen w favoured layer retryAfter deadline) := by
  unfold listen
  simp only [hc, World.early?_eq w hc, hr]
  split
  next next h =>
    obtain ⟨signal, -, hsignal⟩ := List.exists_of_findSome?_eq_some h
    exact heeds_follow? hsignal
  next => exact .wait

end Heeds

end Task

/-! ## The timer is put off -/

namespace Task

/-- The timer of the worker of a cache does not fire before an instant, as long as the worker takes
no notice of a refresh. -/
inductive PutOff (layer : Nat) (limit : Instant) (t : Task V C) : Prop where
  | attend {x : Instant} (control : t.control = .attend layer (some x)) (le : limit ≤ x)
  | listen {x : Instant} {deadline : Option Instant}
      (control : t.control = .listening layer (some x) deadline) (le : limit ≤ x)
      (late : ∀ d, deadline = some d → limit ≤ d)
  /-- It will remember when it is back from its errand. -/
  | job {job : RefreshJob} {x : Instant}
      (errand : t.frames.getLast? = some (.job layer job (some x))) (le : limit ≤ x)
  | ended (ended : t.hasEnded = true)

section PutOff

variable {layer : Nat} {limit : Instant} {t : Task V C} {w : World V σ} {c : Cache V}
  {r : EarlyRefresh}

/-- What a worker does that looks for a signal while its timer is put off. -/
theorem Heeds.putOff {x : Instant} {deadline : Option Instant} {next : World V σ × Task V C}
    (h : t.Heeds layer (some x) deadline w c r next) (frames : t.frames = []) (le : limit ≤ x)
    (late : ∀ d, deadline = some d → limit ≤ d) (early : w.now < limit) :
    next.2.PutOff layer limit ∨ r.refreshed = true ∧ next = t.takeNotice w layer := by
  cases h with
  | @job job rest jobs =>
      have errand : (t.takeJob w layer (some x) job rest).2.frames.getLast? =
          some (.job layer job (some x)) := by simp [takeJob, push, frames]
      exact Or.inl (.job errand le)
  | notice refreshed => exact Or.inr ⟨refreshed, rfl⟩
  | timer set due => exact absurd (Instant.le_trans (late _ set) due) (Int.not_le.2 early)
  | wait => exact Or.inl (.listen rfl le late)

/-- A worker whose timer is put off leaves it so, unless it takes notice of a refresh. -/
theorem PutOff.step [Source σ V C] [Perishable V] (h : t.PutOff layer limit) (favoured : Signal)
    (shaped : t.Shaped) (request : t.request = .work layer) (hc : w.cache? layer = some c)
    (hr : c.early = some r) (early : w.now < limit) :
    (t.step w favoured).2.PutOff layer limit ∨
      r.refreshed = true ∧ t.step w favoured = t.takeNotice w layer := by
  cases hstopped : t.isStopped w with
  | true =>
      left
      apply PutOff.ended
      simp only [Task.step, request, hstopped]
      rfl
  | false =>
      have hstep : t.step w favoured = t.advance w favoured := step_of_not_stopped hstopped
      -- the timer stays off until the worker is back from its job, and has heard of it
      cases h with
      | @attend x control le =>
          have hframes := shaped.frames_of_isIdle (by rw [control]; rfl)
          have hnext : t.step w favoured =
              t.listen w favoured layer (some x) (r.deadline? c.entry (some x)) := by
            rw [hstep]
            simp only [advance, control, Task.attend, World.early?_eq w hc, hr, hc,
              Option.bind_some]
          rw [hnext]
          apply (listen_heeds favoured hc hr).putOff hframes le ?_ early
          intro d hd
          exact Instant.le_trans le (EarlyRefresh.le_of_deadline? hd)
      | @listen x deadline control le late =>
          have hframes := shaped.frames_of_isIdle (by rw [control]; rfl)
          have hnext : t.step w favoured = t.listen w favoured layer (some x) deadline := by
            rw [hstep]
            simp only [advance, control]
          rw [hnext]
          exact (listen_heeds favoured hc hr).putOff hframes le late early
      | @job job x errand le =>
          left
          have stride : Stride t w.content (t.step w favoured).2 _ :=
            strides_step shaped fun h => absurd (hstopped.symm.trans h) Bool.noConfusion
          have hsame : t.Same (t.step w favoured).2 := same_step
          have hother : ∀ force, (t.step w favoured).2.request ≠ .fetch force := by
            rw [hsame.2, request]
            exact fun _ => Request.noConfusion
          rcases stride.errand_cases shaped (shaped_step shaped) hother errand with
            hstays | ⟨-, hended⟩ | ⟨outcome, control, frames⟩
          · exact .job hstays le
          · exact .ended hended
          · -- the worker is back, and knows what it knew when it took the job
            rw [hstep]
            simp only [advance, control, deliver, frames]
            cases outcome with
            | value v => exact .attend rfl le
            | failed f => exact .attend rfl le
            | crashed => exact .ended rfl
      | ended ended => exact Or.inl (.ended (hasEnded_step ended))

end PutOff

/-- A worker out on a refresh that its timer started goes on with it, or ends, or has succeeded, or
has failed and puts its timer off. -/
theorem timer_step [Source σ V C] [Perishable V] {layer : Nat} {t : Task V C} {w : World V σ}
    {job : RefreshJob} {firedAt : Instant} (favoured : Signal) (shaped : t.Shaped)
    (request : t.request = .work layer)
    (errand : t.frames.getLast? = some (.timer layer job firedAt)) :
    (t.step w favoured).2.frames.getLast? = some (.timer layer job firedAt) ∨
      (t.step w favoured).2.hasEnded = true ∨
      (∃ v, t.control = .deliver (.value v) ∧ t.frames = [.timer layer job firedAt]) ∨
      ∃ f limit, t.control = .deliver (.failed f) ∧ t.frames = [.timer layer job firedAt] ∧
        firedAt.later? EarlyRefresh.retryPause = some limit ∧
        (t.step w favoured).2.PutOff layer limit := by
  cases hstopped : t.isStopped w with
  | true =>
      refine Or.inr (Or.inl ?_)
      simp only [step, request, hstopped]
      rfl
  | false =>
      have stride : Stride t w.content (t.step w favoured).2 _ :=
        strides_step shaped fun h => absurd (hstopped.symm.trans h) Bool.noConfusion
      have hsame : t.Same (t.step w favoured).2 := same_step
      have hother : ∀ force, (t.step w favoured).2.request ≠ .fetch force := by
        rw [hsame.2, request]
        exact fun _ => Request.noConfusion
      rcases stride.errand_cases shaped (shaped_step shaped) hother errand with
        hstays | ⟨-, hended⟩ | ⟨outcome, control, frames⟩
      · exact Or.inl hstays
      · exact Or.inr (Or.inl hended)
      · right
        have hnext : t.step w favoured =
            Task.timerDone { t with frames := [] } w layer job firedAt outcome := by
          rw [step_of_not_stopped hstopped]
          simp only [advance, control, deliver, frames]
        rw [hnext]
        cases outcome with
        | value v => exact Or.inr (Or.inl ⟨v, control, frames⟩)
        | failed f =>
            simp only [timerDone, pause]
            cases hpause : firedAt.later? EarlyRefresh.retryPause with
            | none => exact Or.inl rfl
            | some limit =>
                refine Or.inr (Or.inr ⟨f, limit, control, frames, rfl, ?_⟩)
                exact .attend rfl (Instant.le_refl limit)
        | crashed => exact Or.inl rfl

theorem Shaped.frames_of_hasEnded {t : Task V C} (shaped : t.Shaped) (ended : t.hasEnded = true) :
    t.frames = [] := by
  apply shaped.frames_of_isIdle
  unfold hasEnded ended? at ended
  split at ended
  next control =>
    rw [control]
    rfl
  next => cases ended

/-- The timer of a worker does not start a refresh while it is put off. -/
theorem PutOff.le_of_fires [Source σ V C] [Perishable V] {layer : Nat} {limit : Instant}
    {t : Task V C} {w : World V σ} {c : Cache V} {r : EarlyRefresh} {job : RefreshJob}
    {firedAt : Instant} (h : t.PutOff layer limit) (favoured : Signal) (shaped : t.Shaped)
    (request : t.request = .work layer) (hc : w.cache? layer = some c) (hr : c.early = some r)
    (fires : (t.step w favoured).2.frames = [.timer layer job firedAt]) : limit ≤ w.now := by
  by_contra hlt
  have early : w.now < limit := Int.not_le.1 hlt
  have hshaped : (t.step w favoured).2.Shaped := shaped_step shaped
  have hidle : (t.step w favoured).2.frames ≠ [] := by simp [fires]
  rcases h.step favoured shaped request hc hr early with h' | ⟨-, hnotice⟩
  · cases h' with
    | attend control => exact hidle (hshaped.frames_of_isIdle (by rw [control]; rfl))
    | listen control => exact hidle (hshaped.frames_of_isIdle (by rw [control]; rfl))
    | job errand =>
        rw [fires] at errand
        cases errand
    | ended ended => exact hidle (hshaped.frames_of_hasEnded ended)
  · apply hidle
    apply hshaped.frames_of_isIdle
    rw [hnotice]
    rfl

end Task

/-- A turn in which the timer starts a refresh. -/
theorem Turn.fires [Perishable V] {layer : Nat} {now : Instant} {t t' : Task V C} {c c' : Cache V}
    {job : RefreshJob} {firedAt : Instant} (h : Turn layer now t c t' c') (frames : t.frames = [])
    (fires : t'.frames = [.timer layer job firedAt]) : job.generation = c.generation := by
  have hduty : t'.duty? layer = some job := by simp [Task.duty?, fires, Frame.duty?]
  cases h with
  | elsewhere acts stage duty =>
      rw [duty, Task.duty?_of_nil frames] at hduty
      cases hduty
  | fire =>
      rw [Task.push, frames] at fires
      cases fires
      rfl
  | load | takeJob =>
      rw [Task.push, frames] at fires
      cases fires
  | install control head | fail control head | crash control head =>
      rw [frames] at head
      cases head
  | succeed control single | forgo control single =>
      rw [frames] at single
      cases single
  | tend attends early worker claimed jobs accepting attends' =>
      rw [attends'.2.1] at fires
      cases fires
  | retire request away early worker jobs accepting frames'
  | tell request frames₀ control frames' =>
      rw [frames'] at fires
      cases fires
  | abandon => cases fires
  | _ =>
      simp only [Task.pass, Task.goto] at fires
      rw [frames] at fires
      cases fires

namespace Machine

/-! ## Refreshes by the timer -/

/-- With the move from `m` to `n` the timer of the worker of the cache at a layer starts a
refresh. -/
def Fires (layer : Nat) (m n : Machine V σ C) (job : RefreshJob) : Prop :=
  ∃ id t t', m.running = some id ∧ m.tasks[id]? = some t ∧ t.request = .work layer ∧
    t.frames = [] ∧ n.tasks[id]? = some t' ∧ t'.frames = [.timer layer job m.world.now]

/-- With the next step of `m` a refresh fails that the timer of the worker of the cache at a layer
started at an instant. -/
def Falters (layer : Nat) (m : Machine V σ C) (job : RefreshJob) (firedAt : Instant) : Prop :=
  ∃ id t f, m.running = some id ∧ m.tasks[id]? = some t ∧ t.request = .work layer ∧
    t.control = .deliver (.failed f) ∧ t.frames = [.timer layer job firedAt]

/-- With the move from `m` to `n` the worker of the cache at a layer takes notice of a refresh. -/
def Notices (layer : Nat) (m n : Machine V σ C) : Prop :=
  (m.world.early? layer).map EarlyRefresh.refreshed = some true ∧
    (n.world.early? layer).map EarlyRefresh.refreshed = some false

instance (layer : Nat) (m n : Machine V σ C) : Decidable (Notices layer m n) :=
  inferInstanceAs (Decidable (_ ∧ _))

/-- What has become of a refresh that the timer of the worker of the cache at a layer started at an
instant, in a run from then on. -/
inductive Aftermath (layer : Nat) (job : RefreshJob) (firedAt : Instant)
    (moves : List (Machine V σ C × Machine V σ C)) (m : Machine V σ C) (c : Cache V) : Prop where
  | underway {r : EarlyRefresh} {u : Task V C} (early : c.early = some r)
      (task : m.tasks[r.worker]? = some u) (request : u.request = .work layer)
      (errand : u.frames.getLast? = some (.timer layer job firedAt))
  /-- The entry has been replaced. -/
  | replaced (newer : job.generation < c.generation)
  /-- The refresh has failed, and the worker pauses. -/
  | paused {r : EarlyRefresh} {u : Task V C} {limit : Instant} (early : c.early = some r)
      (task : m.tasks[r.worker]? = some u) (request : u.request = .work layer)
      (falters : ∃ move ∈ moves, Falters layer move.1 job firedAt)
      (pause : firedAt.later? EarlyRefresh.retryPause = some limit)
      (off : limit ≤ m.world.now ∨ u.PutOff layer limit)
  /-- The worker has ended. -/
  | gone {r : EarlyRefresh} {u : Task V C} (early : c.early = some r)
      (task : m.tasks[r.worker]? = some u) (ended : u.hasEnded = true)

section Moves

variable [Source σ V C] [Perishable V] {layer : Nat} {m₀ m n k l : Machine V σ C} {c₀ c : Cache V}
  {moves : List (Machine V σ C × Machine V σ C)} {job : RefreshJob} {firedAt : Instant}

/-- A worker that takes notice of a refresh does so. -/
theorem notices_of_takeNotice {id : TaskId} {t : Task V C} {r : EarlyRefresh} {favoured : Signal}
    (task : m.tasks[id]? = some t) (hc : m.world.cache? layer = some c) (hr : c.early = some r)
    (refreshed : r.refreshed = true) (step : t.step m.world favoured = t.takeNotice m.world layer) :
    Notices layer m (m.advance favoured id) := by
  have facts := advanced favoured task
  have hnext : (t.step m.world favoured).1.cache? layer =
      some { c with early := some { r with refreshed := false, listening := false } } := by
    rw [step]
    exact World.cache?_mapEarly_of_some _ hc hr
  constructor
  · rw [World.early?_eq _ hc, hr, Option.map_some, refreshed]
  · rcases facts.cache layer _ hnext with hn | ⟨ended, -⟩
    · rw [World.early?_eq _ hn]
      rfl
    · rw [step] at ended
      cases ended

/-- One move of a run after the timer has started a refresh. -/
theorem Aftermath.move (h : Aftermath layer job firedAt moves m c) (sound : m.Sound)
    (hc : m.world.cache? layer = some c) (remembering : Remembering layer m c)
    (scheduling : Scheduling layer m c) (move : Move m n) (unnoticed : ¬ Notices layer m n) :
    ∃ c', n.world.cache? layer = some c' ∧
      Aftermath layer job firedAt (moves ++ [(m, n)]) n c' := by
  obtain ⟨c', hc', next⟩ := layerMove sound move hc
  have hgeneration : c.generation ≤ c'.generation := (remembering.move next).2
  have hkept : ∀ r, c.early = some r → ∃ r', c'.early = some r' ∧ r'.worker = r.worker := by
    intro r hr
    obtain ⟨r', hr', -, -, hworker⟩ := next.kept.early hr
    exact ⟨r', hr', hworker⟩
  refine ⟨c', hc', ?_⟩
  cases h with
  | @underway r u early task request errand =>
      obtain ⟨r', early', hworker⟩ := hkept r early
      rcases move.step_cases task with ⟨-, htask⟩ | ⟨favoured, running, -, htask⟩ <;>
        rw [← hworker] at htask
      · exact .underway early' htask request errand
      · have hsame : u.Same (u.step m.world favoured).2 := Task.same_step
        have hrequest := hsame.2.trans request
        rcases Task.timer_step (w := m.world) favoured (sound.shaped _ u task) request errand with
          hstays | hended | ⟨v, control, frames⟩ | ⟨f, limit, control, frames, pause, off⟩
        · exact .underway early' htask hrequest hstays
        · exact .gone early' htask hended
        · -- a refresh that succeeds finds another generation installed
          have hduty : u.duty? layer = some job := by simp [Task.duty?, frames, Frame.duty?]
          have haway : u.stage layer = .away :=
            Task.stage_of_duty control frames (by simp [Frame.duty?])
          have hgone := (scheduling.dutiful _ u task).gone job v hduty control haway
          exact .replaced (Nat.lt_of_lt_of_le hgone hgeneration)
        · refine .paused early' htask hrequest ⟨(m, n), by simp, ?_⟩ pause (Or.inr off)
          exact ⟨_, u, f, running, task, request, control, frames⟩
  | replaced newer => exact .replaced (Nat.lt_of_lt_of_le newer hgeneration)
  | @paused r u limit early task request falters pause off =>
      obtain ⟨r', early', hworker⟩ := hkept r early
      obtain ⟨p, hp, hfalters⟩ := falters
      have hfalters' : ∃ move ∈ moves ++ [(m, n)], Falters layer move.1 job firedAt :=
        ⟨p, List.mem_append_left _ hp, hfalters⟩
      by_cases hover : limit ≤ m.world.now
      · -- the pause is over
        obtain ⟨u', htask, hsame⟩ := move.stays task
        rw [← hworker] at htask
        exact .paused early' htask (hsame.2.trans request) hfalters' pause
          (Or.inl (Instant.le_trans hover next.now_le))
      · have hoff : u.PutOff layer limit := off.resolve_left hover
        rcases move.step_cases task with ⟨-, htask⟩ | ⟨favoured, running, hn, htask⟩ <;>
          rw [← hworker] at htask
        · exact .paused early' htask request hfalters' pause (Or.inr hoff)
        · have hsame : u.Same (u.step m.world favoured).2 := Task.same_step
          rcases hoff.step favoured (sound.shaped _ u task) request hc early
              (Int.not_le.1 hover) with hoff' | ⟨refreshed, hnotice⟩
          · exact .paused early' htask (hsame.2.trans request) hfalters' pause (Or.inr hoff')
          · refine absurd ?_ unnoticed
            rw [hn]
            exact notices_of_takeNotice task hc early refreshed hnotice
  | @gone r u early task ended =>
      obtain ⟨r', early', hworker⟩ := hkept r early
      obtain ⟨u', htask, hended⟩ := hasEnded_move move task ended
      rw [← hworker] at htask
      exact .gone early' htask hended

/-- What becomes of a refresh that the timer starts, over a whole run. -/
theorem aftermath_run (fresh : m₀.Fresh) (cache : m₀.world.cache? layer = some c₀)
    (before : Reaches m₀ m) (move : Move m n) (fires : Fires layer m n job) (run : Run n moves k)
    (unnoticed : ∀ p ∈ moves, ¬ Notices layer p.1 p.2) :
    ∃ c, k.world.cache? layer = some c ∧ Aftermath layer job m.world.now moves k c := by
  have reached : Reaches m₀ n := before.tail move
  induction run with
  | start =>
      obtain ⟨id, t, t', running, task, request, -, task', frames'⟩ := fires
      have sound := sound_reaches fresh.sound before
      obtain ⟨c, r, hc, early, hworker⟩ := sound.posted id t layer task request
      obtain ⟨c', hc', next⟩ := layerMove sound move hc
      obtain ⟨r', early', -, -, hworker'⟩ := next.kept.early early
      obtain ⟨s, hs, hsame⟩ := move.stays task
      rw [task'] at hs
      cases hs
      have hid : r'.worker = id := hworker'.trans hworker
      refine ⟨c', hc', .underway (r := r') early' (hid ▸ task') (hsame.2.trans request) ?_⟩
      rw [frames']
      rfl
  | @move moves k l run step ih =>
      have sound := sound_reaches fresh.sound (reached.trans run.reaches)
      obtain ⟨c, hc, h⟩ := ih fun p hp => unnoticed p (List.mem_append_left _ hp)
      obtain ⟨c₁, hc₁, remembering, -⟩ := remembering_reaches fresh.sound cache
        (fresh.remembering cache) (reached.trans run.reaches)
      obtain ⟨c₂, hc₂, scheduling⟩ := scheduling_reaches fresh.sound cache
        (fresh.remembering cache) (fresh.scheduling cache) (reached.trans run.reaches)
      rw [hc] at hc₁ hc₂
      cases hc₁
      cases hc₂
      exact h.move sound hc remembering scheduling step (unnoticed (k, l) (by simp))

/-! ## The theorem -/

/-- The timer of a worker starts two refreshes for one generation, and the worker takes no notice of
a refresh in between. Then the first one has failed, and the second one starts a pause after the
first one started. -/
theorem refreshes_by_timer_pause {name : String} {source : σ} {others : List σ}
    {plans : List LayerPlan} {bound : List Bool} {job' : RefreshJob}
    (built : build name source others plans = .ok (bound, m₀))
    (cache : m₀.world.cache? layer = some c₀) (before : Reaches m₀ m) (move : Move m n)
    (fires : Fires layer m n job) (run : Run n moves k)
    (unnoticed : ∀ p ∈ moves, ¬ Notices layer p.1 p.2) (move' : Move k l)
    (fires' : Fires layer k l job') (same : job'.generation = job.generation) :
    (∃ p ∈ moves, Falters layer p.1 job m.world.now) ∧
      m.world.now.nanos + EarlyRefresh.retryPause.nanos ≤ k.world.now.nanos := by
  have fresh := fresh_of_build built
  obtain ⟨c, hc, h⟩ := aftermath_run fresh cache before move fires run unnoticed
  have sound := sound_reaches fresh.sound ((before.tail move).trans run.reaches)
  obtain ⟨id, t, t', running, task, request, frames, task', frames'⟩ := fires'
  obtain ⟨d, r, hd, early, hworker⟩ := sound.posted id t layer task request
  rw [hc] at hd
  cases hd
  obtain ⟨c', -, next⟩ := layerMove sound move' hc
  obtain ⟨s, c₁, turn, -, hs, -, -⟩ := next.of_running running task
  rw [task'] at hs
  cases hs
  have hgeneration := turn.fires frames frames'
  obtain ⟨favoured, rfl⟩ := move'.of_running running
  have hstep : (t.step k.world favoured).2 = t' := by
    rw [(advanced favoured task).tasks, getElem?_set_some _ task] at task'
    exact Option.some.inj task'
  -- the worker that starts the second refresh is the one that started the first
  have hworker' : ∀ {r' : EarlyRefresh} {u : Task V C}, c.early = some r' →
      k.tasks[r'.worker]? = some u → u = t := by
    intro r' u early' htask
    rw [early] at early'
    cases early'
    rw [hworker, task] at htask
    exact (Option.some.inj htask).symm
  cases h with
  | underway early' htask request' errand =>
      cases hworker' early' htask
      rw [frames] at errand
      cases errand
  | replaced newer => omega
  | @paused r' u limit early' htask request' falters pause off =>
      cases hworker' early' htask
      refine ⟨falters, ?_⟩
      rw [← Instant.later?_eq_some pause]
      rcases off with hover | hoff
      · exact hover
      · exact hoff.le_of_fires favoured (sound.shaped id t task) request hc early
          (hstep ▸ frames')
  | gone early' htask ended =>
      cases hworker' early' htask
      have hended : (t.step k.world favoured).2.hasEnded = true := Task.hasEnded_step ended
      have hshaped : (t.step k.world favoured).2.Shaped :=
        Task.shaped_step (sound.shaped id t task)
      have hframes := hshaped.frames_of_hasEnded hended
      rw [hstep, frames'] at hframes
      cases hframes

end Moves

/-- A source that takes six seconds to fail after its first value. -/
def sluggishSource : Script (Dated Nat) :=
  ⟨[⟨0, .value fun _ => ⟨1, none⟩⟩, ⟨6000, .failure (.unavailable "The source is slow.")⟩], 0, false,
    false, 0⟩

/-- A cache in eager mode over that source. -/
def sluggishPlans : List LayerPlan :=
  [.cache ⟨⟨Span.ofSeconds 60, Span.zero⟩, Span.ofSeconds 5⟩ false
    (some ⟨Span.ofSeconds 30, .eager⟩)]

/-- The stack of the cache and the source. -/
def sluggishStack : Machine (Dated Nat) (Script (Dated Nat)) (ScriptReply (Dated Nat)) :=
  match build "chain" sluggishSource [] sluggishPlans with
  | .ok (_, m) => m
  | .error _ => bare "chain" sluggishSource []

/-- That stack after a fetch, when the window begins. -/
def sluggishWindow : Machine (Dated Nat) (Script (Dated Nat)) (ScriptReply (Dated Nat)) :=
  (requested (.fetch false) 17 sluggishStack).2

/-- The refresh that the timer starts then, until the worker has looked again. -/
def sluggishRefresh :
    List (Machine (Dated Nat) (Script (Dated Nat)) (ScriptReply (Dated Nat)) ×
      Machine (Dated Nat) (Script (Dated Nat)) (ScriptReply (Dated Nat))) ×
      Machine (Dated Nat) (Script (Dated Nat)) (ScriptReply (Dated Nat)) :=
  scheduled 9 (sluggishWindow.advance .job 0)

/-- A refresh starts half a minute before the expiry and fails six seconds later. The next one
starts at that same instant, which is more than a pause after the first one started. -/
theorem slow_refresh_is_followed_at_once :
    ∃ m n moves k l q job, Reaches sluggishStack m ∧ Move m n ∧ Fires 0 m n job ∧ Run n moves k ∧
      Move k l ∧ Fires 0 k l job ∧ m.world.now = ⟨30000000000⟩ ∧ q ∈ moves.map Prod.fst ∧
      Falters 0 q job m.world.now ∧ q.world.now = k.world.now ∧
      m.world.now.nanos + EarlyRefresh.retryPause.nanos ≤ k.world.now.nanos := by
  have built : build "chain" sluggishSource [] sluggishPlans = .ok ([], sluggishStack) := rfl
  have cache : (sluggishStack.world.cache? 0).isSome = true := rfl
  obtain ⟨c₀, cache⟩ := Option.isSome_iff_exists.1 cache
  have before : Reaches sluggishStack sluggishWindow := (run_requested 17 rfl rfl).reaches
  have move : Move sluggishWindow (sluggishWindow.advance .job 0) := .advance .job rfl
  have run : Run (sluggishWindow.advance .job 0) sluggishRefresh.1 sluggishRefresh.2 :=
    run_scheduled 9 _
  have move' : Move sluggishRefresh.2 (sluggishRefresh.2.advance .job 0) := .advance .job rfl
  have fires : Fires 0 sluggishWindow (sluggishWindow.advance .job 0) ⟨1, ⟨60000000000⟩⟩ := by
    have task : sluggishWindow.tasks[0]? =
        some ⟨0, .work 0, .listening 0 none (some ⟨30000000000⟩), []⟩ := rfl
    have task' : (sluggishWindow.advance .job 0).tasks[0]? = some ⟨0, .work 0, .acquire 0 1 false,
        [.timer 0 ⟨1, ⟨60000000000⟩⟩ ⟨30000000000⟩]⟩ := rfl
    exact ⟨0, _, _, rfl, task, rfl, rfl, task', rfl⟩
  have fires' : Fires 0 sluggishRefresh.2 (sluggishRefresh.2.advance .job 0)
      ⟨1, ⟨60000000000⟩⟩ := by
    have task : sluggishRefresh.2.tasks[0]? =
        some ⟨0, .work 0, .attend 0 (some ⟨35000000000⟩), []⟩ := rfl
    have task' : (sluggishRefresh.2.advance .job 0).tasks[0]? = some ⟨0, .work 0,
        .acquire 0 1 false, [.timer 0 ⟨1, ⟨60000000000⟩⟩ ⟨36000000000⟩]⟩ := rfl
    exact ⟨0, _, _, rfl, task, rfl, rfl, task', rfl⟩
  have unnoticed : ∀ p ∈ sluggishRefresh.1, ¬ Notices 0 p.1 p.2 := by decide
  obtain ⟨-, hpause⟩ :=
    refreshes_by_timer_pause built cache before move fires run unnoticed move' fires' rfl
  -- the step before the last one hands the failure to the worker
  have falters : Falters 0 (scheduled 8 (sluggishWindow.advance .job 0)).2 ⟨1, ⟨60000000000⟩⟩
      ⟨30000000000⟩ := by
    have task : (scheduled 8 (sluggishWindow.advance .job 0)).2.tasks[0]? = some ⟨0, .work 0,
        .deliver (.failed (.unavailable "The source is slow.")),
        [.timer 0 ⟨1, ⟨60000000000⟩⟩ ⟨30000000000⟩]⟩ := rfl
    exact ⟨0, _, _, rfl, task, rfl, rfl, rfl⟩
  exact ⟨_, _, _, _, _, _, _, before, move, fires, run, move', fires', rfl,
    List.mem_of_getElem? (i := 8) rfl, falters, rfl, hpause⟩

end Machine

end CredentialSupply
