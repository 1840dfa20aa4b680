import CredentialSupply.Proofs.Scheduling
import CredentialSupply.Proofs.Shape

set_option autoImplicit false

/-!
# What a step does to a cache

`Turn` lists all that one step of a task can do to the cache at a layer, with the guard of each
case and the task and the cache afterwards. `turns_step` says that the list is complete. What
holds of a cache in all runs is proved from this list, without a look at the steps.
-/

namespace CredentialSupply

variable {V σ C : Type}

namespace Task

/-- Whether the next step of the task, unless it waits, is about the cache at a layer. -/
def ActsOn (layer : Nat) (t : Task V C) : Prop :=
  match t.control with
  | .enter level _ => level = layer + 1
  | .acquire l _ _ | .locked l _ _ => l = layer
  | .deliver _ =>
      ∃ f frames, t.frames = f :: frames ∧
        (f.isLoad layer = true ∨ (f.duty? layer).isSome = true)
  | _ => False

/-- Whether the task is the worker of the cache at a layer and not about to refresh. -/
def Attends (layer : Nat) (t : Task V C) : Prop :=
  t.request = .work layer ∧ t.frames = [] ∧
    match t.control with
    | .attend _ _ | .listening _ _ _ => True
    | _ => False

end Task

/-- Whether a task with this control has not begun or waits or has ended. -/
def Control.isParked : Control V C → Bool
  | .begin => true
  | control => control.isWaiting

/-- What a step at `now` that takes a task from `t` to `t'` makes of the cache `c` at a layer. -/
inductive Turn [Perishable V] (layer : Nat) (now : Instant) (t : Task V C) (c : Cache V) :
    Task V C → Cache V → Prop where
  /-- The step is not about the cache. -/
  | elsewhere {t' : Task V C} (acts : ¬ t.ActsOn layer)
      (stage : t'.stage layer = t.stage layer) (duty : t'.duty? layer = t.duty? layer) :
      Turn layer now t c t' c
  /-- A lookup finds a valid entry. -/
  | hit {e : Entry V} {c' : Cache V} (control : t.control = .enter (layer + 1) false)
      (valid : c.valid? now = some e) (noticed : c.noticed? e now = some c') :
      Turn layer now t c (t.pass (.value e.value)) c'
  /-- A lookup finds a valid entry and crashes. -/
  | overrun {e : Entry V} (control : t.control = .enter (layer + 1) false)
      (valid : c.valid? now = some e) (noticed : c.noticed? e now = none) :
      Turn layer now t c (t.pass .crashed) c
  /-- A lookup finds no entry that it may serve. -/
  | miss {force : Bool} (control : t.control = .enter (layer + 1) force)
      (stale : force = true ∨ c.valid? now = none) :
      Turn layer now t c (t.goto (.acquire layer c.generation force)) c
  /-- The task gets the lock at once. -/
  | seize {seen : Nat} {force : Bool} (control : t.control = .acquire layer seen force)
      (held : (c.lock.ask t.id).isHeldBy t.id = true) :
      Turn layer now t c (t.goto (.locked layer seen force)) { c with lock := c.lock.ask t.id }
  /-- The task begins to wait for the lock. -/
  | queue {seen : Nat} {force : Bool} (control : t.control = .acquire layer seen force)
      (held : (c.lock.ask t.id).isHeldBy t.id = false) :
      Turn layer now t c
        (t.goto (.queued layer seen force (now.later? c.settings.refreshTimeout)))
        { c with lock := c.lock.ask t.id }
  /-- The task finds that it has been given the lock. -/
  | receive {seen : Nat} {force : Bool} {deadline : Option Instant}
      (control : t.control = .queued layer seen force deadline)
      (held : c.lock.isHeldBy t.id = true) :
      Turn layer now t c (t.goto (.locked layer seen force)) c
  /-- The task has waited for too long. -/
  | giveUp {seen : Nat} {force : Bool} {deadline : Option Instant}
      (control : t.control = .queued layer seen force deadline)
      (held : c.lock.isHeldBy t.id = false)
      (due : (deadline.any fun d => decide (d.ceilMilli ≤ now)) = true) :
      Turn layer now t c (t.pass (.failed (.refreshTimeout c.settings.refreshTimeout)))
        { c with lock := c.lock.leave t.id }
  /-- The holder takes over an entry installed since it looked. -/
  | adopt {seen : Nat} {force : Bool} {e : Entry V}
      (control : t.control = .locked layer seen force) (newer : c.replacement? seen = some e) :
      Turn layer now t c
        (t.pass (if e.isValid now then .value e.value else .failed .refreshFailed))
        { c with lock := c.lock.release }
  /-- The holder makes an inner call. -/
  | load {seen : Nat} {force : Bool} (control : t.control = .locked layer seen force)
      (same : c.replacement? seen = none) :
      Turn layer now t c (t.push (.load layer now) (.enter layer force)) c
  /-- The inner call produced a value, which is installed. -/
  | install {startedAt : Instant} {frames : List Frame} {v : V} {e : Entry V}
      (control : t.control = .deliver (.value v))
      (head : t.frames = .load layer startedAt :: frames)
      (entry : c.settings.lifetime.entry? v now = some e) :
      Turn layer now t c
        (Task.pass { t with frames }
          (if e.isValid now then .value e.value else .failed .refreshFailed))
        { c.install e with lock := c.lock.release }
  /-- The inner call failed. -/
  | fail {startedAt : Instant} {frames : List Frame} {f : Failure}
      (control : t.control = .deliver (.failed f))
      (head : t.frames = .load layer startedAt :: frames) :
      Turn layer now t c (Task.pass { t with frames } (.failed f)) { c with lock := c.lock.release }
  /-- The inner call crashed, or the clock cannot represent the stamp of its value. -/
  | crash {startedAt : Instant} {frames : List Frame} {outcome : Outcome V}
      (control : t.control = .deliver outcome)
      (head : t.frames = .load layer startedAt :: frames)
      (lost : outcome = .crashed ∨
        ∃ v, outcome = .value v ∧ c.settings.lifetime.entry? v now = none) :
      Turn layer now t c (Task.pass { t with frames } .crashed) { c with lock := c.lock.release }
  /-- The worker looks after itself. -/
  | tend {t' : Task V C} {r r' : EarlyRefresh} (attends : t.Attends layer)
      (early : c.early = some r) (worker : r.SameWorker r') (claimed : r'.claimed = r.claimed)
      (jobs : r'.jobs = r.jobs) (accepting : r'.accepting = r.accepting)
      (attends' : t'.Attends layer) :
      Turn layer now t c t' { c with early := some r' }
  /-- The worker takes a job from its queue. -/
  | takeJob {r : EarlyRefresh} {job : RefreshJob} {rest : List RefreshJob}
      {retryAfter : Option Instant} (attends : t.Attends layer) (early : c.early = some r)
      (jobs : r.jobs = job :: rest) :
      Turn layer now t c
        (t.push (.job layer job retryAfter) (.acquire layer job.generation false))
        { c with early := some { r with jobs := rest, listening := false } }
  /-- The timer of the worker sets a job for the entry. -/
  | fire {r : EarlyRefresh} {e : Entry V} (attends : t.Attends layer) (early : c.early = some r)
      (entry : c.entry = some e) (isDue : r.isDue e now = true)
      (unclaimed : r.claimed ≠ some e.expiresAt) :
      Turn layer now t c
        (t.push (.timer layer ⟨c.generation, e.expiresAt⟩ now)
          (.acquire layer c.generation false))
        { c with early := some { r with listening := false, claimed := some e.expiresAt } }
  /-- The worker has refreshed. -/
  | succeed {t' : Task V C} {f : Frame} {v : V} (control : t.control = .deliver (.value v))
      (frames : t.frames = [f]) (duty : (f.duty? layer).isSome = true)
      (attends' : t'.Attends layer) :
      Turn layer now t c t' c
  /-- The worker has failed to refresh and gives up its claim. -/
  | forgo {t' : Task V C} {f : Frame} {job : RefreshJob} {failure : Failure}
      (control : t.control = .deliver (.failed failure)) (frames : t.frames = [f])
      (duty : f.duty? layer = some job) (attends' : t'.Attends layer) :
      Turn layer now t c t' (c.mapEarly (·.unclaim job.expiresAt))
  /-- The worker ends by itself, outside the cache. -/
  | retire {t' : Task V C} {r r' : EarlyRefresh} (request : t.request = .work layer)
      (away : t.stage layer = .away) (early : c.early = some r) (worker : r.SameWorker r')
      (jobs : r'.jobs = []) (accepting : r'.accepting = false) (frames' : t'.frames = [])
      (ended : t'.hasEnded = true) :
      Turn layer now t c t' { c with early := some r' }
  /-- A worker, of this cache or another one, is stopped. -/
  | abandon {l : Nat} (request : t.request = .work l) (parked : t.control.isParked = true) :
      Turn layer now t c (Task.goto { t with frames := [] } (.ended .nothing now))
        { c with
          lock := if (t.stage layer).isEngaged then c.lock.withdraw t.id else c.lock
          early := if l = layer then c.early.map EarlyRefresh.retire else c.early }
  /-- The workers are told to end. -/
  | tell {t' : Task V C} (request : t.request = .close) (frames : t.frames = [])
      (control : t.control = .begin) (frames' : t'.frames = [])
      (control' : (∃ due, t'.control = .resting due) ∨ t'.hasEnded = true) :
      Turn layer now t c t' c.told

/-! ## The stage of a task from its control and its frames -/

/-- Whether a task with this control is between its lookup at a cache and its inner call. -/
@[simp] def Control.hasSnapshot : Control V C → Bool
  | .acquire .. | .queued .. | .locked .. => true
  | _ => false

namespace Task

variable {layer : Nat} {t : Task V C}

theorem stage_eq_around (layer : Nat) (h : t.control.hasSnapshot = false) :
    t.stage layer = t.around layer := by
  rw [stage]
  cases control : t.control <;> first | rfl | simp [control] at h

theorem around_eq_away (h : t.frames.any (Frame.isLoad layer) = false) :
    t.around layer = .away := by
  simp [around, h]

theorem stage_eq_away_of_nil (hf : t.frames = []) (h : t.control.hasSnapshot = false) :
    t.stage layer = .away := by
  rw [stage_eq_around layer h]
  exact around_eq_away (by simp [hf])

theorem stage_of_acquire {seen : Nat} {force : Bool}
    (control : t.control = .acquire layer seen force) : t.stage layer = .asking seen force := by
  simp [stage, control]

theorem stage_of_queued {seen : Nat} {force : Bool} {deadline : Option Instant}
    (control : t.control = .queued layer seen force deadline) :
    t.stage layer = .waiting seen force deadline := by
  simp [stage, control]

theorem stage_of_locked {seen : Nat} {force : Bool}
    (control : t.control = .locked layer seen force) : t.stage layer = .holding seen force := by
  simp [stage, control]

/-- A task that hands the cache the outcome of its inner call is still in that call. -/
theorem stage_of_load {startedAt : Instant} {frames : List Frame} {outcome : Outcome V}
    (control : t.control = .deliver outcome) (head : t.frames = .load layer startedAt :: frames) :
    t.stage layer = .loading := by
  simp [stage, control, around, head, Frame.isLoad]

/-- A worker that has refreshed is outside its cache. -/
theorem stage_of_duty {f : Frame} {outcome : Outcome V} (control : t.control = .deliver outcome)
    (hf : t.frames = [f]) (duty : (f.duty? layer).isSome = true) : t.stage layer = .away := by
  rw [stage_eq_around layer (by simp [control])]
  apply around_eq_away
  rw [hf, List.any_cons, List.any_nil, Bool.or_false]
  exact Frame.isLoad_of_duty? duty

@[simp] theorem stage_goto_acquire (seen : Nat) (force : Bool) :
    (t.goto (.acquire layer seen force)).stage layer = .asking seen force :=
  stage_of_acquire rfl

@[simp] theorem stage_goto_queued (seen : Nat) (force : Bool) (deadline : Option Instant) :
    (t.goto (.queued layer seen force deadline)).stage layer = .waiting seen force deadline :=
  stage_of_queued rfl

@[simp] theorem stage_goto_locked (seen : Nat) (force : Bool) :
    (t.goto (.locked layer seen force)).stage layer = .holding seen force :=
  stage_of_locked rfl

@[simp] theorem stage_push_load (startedAt : Instant) (force : Bool) :
    (t.push (.load layer startedAt) (.enter layer force)).stage layer = .loading := by
  simp [stage, push, around, Frame.isLoad]

/-- A task that has ended is outside every cache. -/
theorem stage_of_hasEnded (hf : t.frames = []) (ended : t.hasEnded = true) :
    t.stage layer = .away := by
  refine stage_eq_away_of_nil hf ?_
  unfold hasEnded ended? at ended
  split at ended
  next control => simp [control]
  next => cases ended

/-- So is a task that rests. -/
theorem stage_of_resting (hf : t.frames = [])
    (h : (∃ due, t.control = .resting due) ∨ t.hasEnded = true) : t.stage layer = .away := by
  rcases h with ⟨due, control⟩ | ended
  · exact stage_eq_away_of_nil hf (by simp [control])
  · exact stage_of_hasEnded hf ended

@[simp] theorem stage_pass (outcome : Outcome V) : (t.pass outcome).stage layer = t.around layer :=
  rfl

@[simp] theorem stage_await (source : Option Nat) (progress : Progress V C) :
    (t.await source progress).stage layer = t.around layer := by
  cases progress <;> rfl

@[simp] theorem duty?_await (source : Option Nat) (progress : Progress V C) :
    (t.await source progress).duty? layer = t.duty? layer := by
  cases progress <;> rfl

/-- A frame that is no load of the cache does not change the stage of what it surrounds. -/
theorem around_cons {f : Frame} {frames : List Frame} (control : Control V C)
    (h : f.isLoad layer = false) :
    Task.around { t with frames := f :: frames, control } layer =
      Task.around { t with frames } layer := by
  simp [around, h]

/-- A worker at rest is outside every cache and carries out no refresh. -/
theorem Attends.outside {l : Nat} (h : t.Attends l) (layer : Nat) :
    t.stage layer = .away ∧ t.duty? layer = none ∧ ¬ t.ActsOn layer := by
  obtain ⟨-, hf, control⟩ := h
  refine ⟨stage_eq_away_of_nil hf ?_, by simp [duty?, hf], ?_⟩
  · split at control <;> simp_all
  · rw [ActsOn]
    split at control <;> simp_all

theorem Attends.not_deliver {l : Nat} {outcome : Outcome V} (h : t.Attends l) :
    t.control ≠ .deliver outcome := by
  intro control
  obtain ⟨-, -, hcontrol⟩ := h
  rw [control] at hcontrol
  exact hcontrol

/-- A task that hands on an outcome neither has ended nor rests. -/
theorem going_of_deliver {outcome : Outcome V} (control : t.control = .deliver outcome) :
    t.hasEnded = false := by
  simp [hasEnded, ended?, control]

theorem not_resting_of_deliver {outcome : Outcome V} (control : t.control = .deliver outcome) :
    ¬ ((∃ due, t.control = .resting due) ∨ t.hasEnded = true) := by
  rintro (⟨due, hdue⟩ | ended)
  · rw [control] at hdue
    cases hdue
  · rw [going_of_deliver control] at ended
    cases ended

@[simp] theorem duty?_push_job (job : RefreshJob) (retryAfter : Option Instant)
    (control : Control V C) :
    (t.push (.job layer job retryAfter) control).duty? layer = some job := by
  simp [duty?, push, Frame.duty?]

@[simp] theorem duty?_push_timer (job : RefreshJob) (firedAt : Instant) (control : Control V C) :
    (t.push (.timer layer job firedAt) control).duty? layer = some job := by
  simp [duty?, push, Frame.duty?]

theorem duty?_of_single {f : Frame} (hf : t.frames = [f]) : t.duty? layer = f.duty? layer := by
  rw [duty?, hf, List.findSome?_cons]
  cases f.duty? layer <;> rfl

/-- A worker that has refreshed is outside its cache, and not about to act on another one. -/
theorem outside_of_duty {l : Nat} {job : RefreshJob} {f : Frame} {outcome : Outcome V}
    (control : t.control = .deliver outcome) (hf : t.frames = [f])
    (hload : ∀ i, f.isLoad i = false) (hduty : ∀ i, f.duty? i = if l = i then some job else none)
    (layer : Nat) :
    t.stage layer = .away ∧ (l ≠ layer → t.duty? layer = none ∧ ¬ t.ActsOn layer) := by
  refine ⟨?_, fun h => ⟨?_, ?_⟩⟩
  · rw [stage_eq_around layer (by simp [control])]
    exact around_eq_away (by simp [hf, hload])
  · simp [duty?, hf, hduty, h]
  · simp [ActsOn, control, hf, hload, hduty, h]

/-- An outcome passes a frame that is about no cache. -/
theorem outside_of_frame (layer : Nat) {f : Frame} {frames : List Frame} {outcome : Outcome V}
    (control : t.control = .deliver outcome) (hf : t.frames = f :: frames)
    (hload : f.isLoad layer = false) (hduty : f.duty? layer = none) :
    Task.around { t with frames } layer = t.stage layer ∧
      Task.duty? { t with frames } layer = t.duty? layer ∧ ¬ t.ActsOn layer := by
  refine ⟨?_, ?_, ?_⟩
  · rw [stage_eq_around layer (by simp [control])]
    simp [around, hf, hload]
  · simp [duty?, hf, hduty]
  · simp [ActsOn, control, hf, hload, hduty]

end Task

/-! ## What a stopped worker gives up -/

namespace Task

theorem cache?_stopQueueing (id : TaskId) (w : World V σ) (control : Control V C) (layer : Nat) :
    (stopQueueing id w control).cache? layer =
      match control with
      | .queued l _ _ _ =>
          if l = layer then (w.cache? layer).map fun c => { c with lock := c.lock.withdraw id }
          else w.cache? layer
      | _ => w.cache? layer := by
  cases control <;> first | rfl | exact World.cache?_withdraw w _ layer id

theorem now_stopQueueing (id : TaskId) (w : World V σ) (control : Control V C) :
    (stopQueueing id w control).now = w.now := by
  cases control <;> first | rfl | exact World.now_withdraw w _ id

theorem cache?_foldl_stopLoading {layer : Nat} {frames : List Frame} {request : Request}
    {depth : Nat} (h : Nested request depth frames) (id : TaskId) (w : World V σ) :
    (frames.foldl (stopLoading id) w).cache? layer =
      if frames.any (Frame.isLoad layer) then
        (w.cache? layer).map fun c => { c with lock := c.lock.withdraw id }
      else w.cache? layer := by
  induction frames generalizing w depth with
  | nil => rfl
  | cons f frames ih =>
      cases f with
      | retry l force => simpa [Frame.isLoad, stopLoading] using ih h.2 w
      | outage l force => simpa [Frame.isLoad, stopLoading] using ih h.2 w
      | health l => simpa [Frame.isLoad, stopLoading] using ih h.2 w
      | load l startedAt =>
          rw [List.foldl_cons, ih h.2, stopLoading, World.cache?_withdraw]
          -- no frame further out is an inner call of the same cache
          by_cases hl : l = layer
          · subst hl
            have hnone := Nested.not_isLoad h.2 (Nat.lt_succ_self _)
            simp [hnone, Frame.isLoad]
          · simp [Frame.isLoad, hl]
      | query l seen => simp [h.2, Frame.isLoad, stopLoading]
      | job l job retryAfter => simp [h.2.2, Frame.isLoad, stopLoading]
      | timer l job firedAt => simp [h.2.2, Frame.isLoad, stopLoading]

theorem now_foldl_stopLoading (id : TaskId) (frames : List Frame) (w : World V σ) :
    (frames.foldl (stopLoading id) w).now = w.now := by
  induction frames generalizing w with
  | nil => rfl
  | cons f frames ih =>
      rw [List.foldl_cons, ih]
      cases f <;> first | rfl | exact World.now_withdraw w _ id

end Task

/-! ## The list is complete -/

section Turns

variable [Perishable V] {layer : Nat} {t : Task V C} {w : World V σ} {c : Cache V}

/-- The outcome of a step is a turn of the cache at a layer. -/
def Turns (layer : Nat) (t : Task V C) (w : World V σ) (c : Cache V)
    (next : World V σ × Task V C) : Prop :=
  ∃ c', next.1.cache? layer = some c' ∧ Turn layer w.now t c next.2 c'

theorem turns_elsewhere {next : World V σ × Task V C} (acts : ¬ t.ActsOn layer)
    (cache : next.1.cache? layer = some c) (stage : next.2.stage layer = t.stage layer)
    (duty : next.2.duty? layer = t.duty? layer) : Turns layer t w c next :=
  ⟨c, cache, .elsewhere acts stage duty⟩

namespace Task

theorem turns_callSource [Source σ V C] {source : Option Nat} {force : Bool}
    (hc : w.cache? layer = some c) (control : t.control = .call source force) :
    Turns layer t w c (t.callSource w source force) := by
  have acts : ¬ t.ActsOn layer := by simp [ActsOn, control]
  have hs : t.stage layer = t.around layer := stage_eq_around layer (by simp [control])
  rw [callSource]
  split
  · exact turns_elsewhere acts hc (by rw [hs]; rfl) rfl
  next s _ =>
    refine turns_elsewhere acts ?_ ?_ ?_
    · exact (World.cache?_setSource w _ source layer).trans hc
    · rw [hs]
      exact stage_await source (Source.start force w.now s).2
    · exact duty?_await source (Source.start force w.now s).2

theorem turns_resumeCall [Source σ V C] {source : Option Nat} {due : Instant} {call : C}
    (hc : w.cache? layer = some c) (control : t.control = .calling source due call) :
    Turns layer t w c (t.resumeCall w source due call) := by
  have acts : ¬ t.ActsOn layer := by simp [ActsOn, control]
  have hs : t.stage layer = t.around layer := stage_eq_around layer (by simp [control])
  rw [resumeCall]
  split
  · split
    · exact turns_elsewhere acts hc (by rw [hs]; rfl) rfl
    next s _ =>
      refine turns_elsewhere acts ?_ ?_ ?_
      · exact (World.cache?_setSource w _ source layer).trans hc
      · rw [hs]
        exact stage_await source (Source.resume call w.now s).2
      · exact duty?_await source (Source.resume call w.now s).2
  · exact turns_elsewhere acts hc rfl rfl

theorem turns_lookUp {l : Nat} {c' : Cache V} {force : Bool} (hc : w.cache? layer = some c)
    (hl : w.layers[l]? = some (.cache c')) (control : t.control = .enter (l + 1) force) :
    Turns layer t w c (t.lookUp w l c' force) := by
  have hs : t.stage layer = t.around layer := stage_eq_around layer (by simp [control])
  by_cases h : l = layer
  · subst h
    have hcc : c = c' := by
      rw [World.cache?_eq_some_iff, hl] at hc
      simpa using hc.symm
    subst hcc
    rw [lookUp]
    split
    next hv =>
      refine ⟨c, by simpa using hc, .miss control ?_⟩
      by_cases hf : force = true
      · exact Or.inl hf
      · exact Or.inr (by simpa [hf] using hv)
    next e hv =>
      have hf : force = false := by
        cases force with
        | true => simp at hv
        | false => rfl
      subst hf
      have hv : c.valid? w.now = some e := by simpa using hv
      split
      next hn => exact ⟨c, hc, .overrun control hv hn⟩
      next c₁ hn =>
        refine ⟨c₁, ?_, .hit control hv hn⟩
        simp [World.cache?_setLayer w l hl, Layer.cache?]
  · -- the lookup is at another cache
    have acts : ¬ t.ActsOn layer := by simp [ActsOn, control, h]
    rw [lookUp]
    split
    · refine turns_elsewhere acts (by simpa using hc) ?_ rfl
      rw [hs]
      simp [stage, goto, around, h]
    · split
      · exact turns_elsewhere acts hc (by rw [hs]; rfl) rfl
      · refine turns_elsewhere acts ?_ (by rw [hs]; rfl) rfl
        simpa [World.cache?_setLayer w layer hl, h] using hc

theorem turns_throttle {l : Nat} {b : TokenBucket} {force : Bool}
    (hc : w.cache? layer = some c) (hl : w.layers[l]? = some (.rateLimit b))
    (acts : ¬ t.ActsOn layer) (hs : t.stage layer = t.around layer) :
    Turns layer t w c (t.throttle w l b force) := by
  have hw : ∀ b', (w.setLayer l (.rateLimit b')).cache? layer = some c := fun b' =>
    (World.cache?_setLayer_of_none w layer hl rfl rfl).trans hc
  rw [throttle]
  simp only
  split
  · exact turns_elsewhere acts (hw _) (by rw [hs]; rfl) rfl
  · exact turns_elsewhere acts (hw _) (by rw [hs]; rfl) rfl

theorem turns_enter {level : Nat} {force : Bool} (hc : w.cache? layer = some c)
    (control : t.control = .enter level force) : Turns layer t w c (t.enter w level force) := by
  have hs : t.stage layer = t.around layer := stage_eq_around layer (by simp [control])
  have hl := (World.cache?_eq_some_iff w layer c).1 hc
  cases level with
  | zero =>
      have acts : ¬ t.ActsOn layer := by simp [ActsOn, control]
      exact turns_elsewhere acts hc (by rw [hs]; rfl) rfl
  | succ l =>
      -- what the task enters is this cache only where the layer is one
      have acts : ∀ x, w.layers[l]? = x → x ≠ some (.cache c) → ¬ t.ActsOn layer := by
        rintro x hx hne he
        simp only [ActsOn, control, Nat.add_right_cancel_iff] at he
        exact hne (by rw [← hx, he, hl])
      unfold enter
      simp only
      split
      next hx => exact turns_elsewhere (acts _ hx (by simp)) hc (by rw [hs]; rfl) rfl
      next hx =>
        exact turns_elsewhere (acts _ hx (by simp)) hc
          (by rw [hs]; exact around_cons _ rfl) rfl
      next hx =>
        exact turns_elsewhere (acts _ hx (by simp)) hc
          (by rw [hs]; exact around_cons _ rfl) rfl
      next b hx => exact turns_throttle hc hx (acts _ hx (by simp)) hs
      next hx =>
        exact turns_elsewhere (acts _ hx (by simp)) hc
          (by rw [hs]; exact around_cons _ rfl) rfl
      next c' hx => exact turns_lookUp hc hx control

/-! ### The lock -/

theorem turns_acquire {l seen : Nat} {force : Bool} (hc : w.cache? layer = some c)
    (control : t.control = .acquire l seen force) :
    Turns layer t w c (t.acquire w l seen force) := by
  by_cases h : l = layer
  · subst h
    have hw : (w.mapCache l fun x => { x with lock := c.lock.ask t.id }).cache? l =
        some { c with lock := c.lock.ask t.id } := by
      simp [World.cache?_mapCache, hc]
    rw [acquire]
    rw [hc]
    simp only
    by_cases held : (c.lock.ask t.id).isHeldBy t.id = true
    · rw [if_pos held]
      exact ⟨_, hw, .seize control held⟩
    · rw [if_neg held]
      exact ⟨_, hw, .queue control (by simpa using held)⟩
  · have acts : ¬ t.ActsOn layer := by simp [ActsOn, control, h]
    have hs : t.stage layer = t.around layer := by simp [stage, control, h]
    rw [acquire]
    split
    · exact turns_elsewhere acts hc (by rw [hs]; rfl) rfl
    next x _ =>
      -- it is the lock of another cache that changes
      have hw : (w.mapCache l fun y => { y with lock := x.lock.ask t.id }).cache? layer =
          some c := by
        simp [World.cache?_mapCache, h, hc]
      simp only
      split
      · exact turns_elsewhere acts hw (by rw [hs]; simp [stage, goto, around, h]) rfl
      · exact turns_elsewhere acts hw (by rw [hs]; simp [stage, goto, around, h]) rfl

theorem turns_stopWaiting {l seen : Nat} {force : Bool} {deadline : Option Instant}
    (hc : w.cache? layer = some c) (control : t.control = .queued l seen force deadline) :
    Turns layer t w c (t.stopWaiting w l seen force deadline) := by
  have acts : ¬ t.ActsOn layer := by simp [ActsOn, control]
  by_cases h : l = layer
  · subst h
    rw [stopWaiting]
    rw [hc]
    simp only
    by_cases held : c.lock.isHeldBy t.id = true
    · rw [if_pos held]
      exact ⟨c, hc, .receive control held⟩
    · rw [if_neg held]
      split
      next due =>
        refine ⟨{ c with lock := c.lock.leave t.id }, ?_, .giveUp control (by simpa using held) due⟩
        simp [World.cache?_mapCache, hc]
      · exact turns_elsewhere acts hc rfl rfl
  · have hs : t.stage layer = t.around layer := by simp [stage, control, h]
    rw [stopWaiting]
    split
    · exact turns_elsewhere acts hc (by rw [hs]; rfl) rfl
    · split
      · exact turns_elsewhere acts hc (by rw [hs]; simp [stage, goto, around, h]) rfl
      · split
        · refine turns_elsewhere acts ?_ (by rw [hs]; rfl) rfl
          simp [World.cache?_mapCache, h, hc]
        · exact turns_elsewhere acts hc rfl rfl

theorem turns_refresh {l seen : Nat} {force : Bool} (hc : w.cache? layer = some c)
    (control : t.control = .locked l seen force) :
    Turns layer t w c (t.refresh w l seen force) := by
  by_cases h : l = layer
  · subst h
    unfold refresh settle
    rw [hc]
    split
    next e he =>
      refine ⟨{ c with lock := c.lock.release }, ?_, .adopt control he⟩
      simp [hc]
    next hn => exact ⟨c, hc, .load control hn⟩
  · have acts : ¬ t.ActsOn layer := by simp [ActsOn, control, h]
    have hs : t.stage layer = t.around layer := by simp [stage, control, h]
    unfold refresh settle
    split
    · refine turns_elsewhere acts ?_ (by rw [hs]; rfl) rfl
      simp [h, hc]
    · refine turns_elsewhere acts hc ?_ rfl
      rw [hs]
      exact around_cons _ (by simp [Frame.isLoad, h])

/-! ### Workers -/

/-- A worker that is outside its cache ends. -/
theorem turns_retire {l : Nat} {w' : World V σ} {t' : Task V C} (hr : t.request = .work l)
    (hs : t.stage layer = .away) (hd : l ≠ layer → t.duty? layer = none ∧ ¬ t.ActsOn layer)
    (hw : t.request = .work layer → ∃ r, c.early = some r)
    (hself : ∀ r, c.early = some r → l = layer → ∃ r', r.SameWorker r' ∧
      w'.cache? layer = some { c with early := some r' })
    (hother : l ≠ layer → w'.cache? layer = some c) :
    Turns layer t w c (t'.retire w' l) := by
  by_cases h : l = layer
  · subst h
    obtain ⟨r, he⟩ := hw hr
    obtain ⟨r', same, hw⟩ := hself r he rfl
    have hw' := World.cache?_mapEarly_of_some EarlyRefresh.retire hw rfl
    exact ⟨_, hw', .retire hr hs he same rfl rfl rfl rfl⟩
  · obtain ⟨hd, acts⟩ := hd h
    have hw := (World.cache?_mapEarly_of_ne w' EarlyRefresh.retire h).trans (hother h)
    exact turns_elsewhere acts hw (by rw [hs]; rfl) (by rw [hd]; rfl)

/-- A step after which the worker is at rest again, and that leaves its jobs and its claim. -/
theorem turns_tend {l : Nat} {f : EarlyRefresh → EarlyRefresh} {control : Control V C}
    (ht : t.Attends l) (ht' : (t.goto control).Attends l) (hc : w.cache? layer = some c)
    (hw : t.request = .work layer → ∃ r, c.early = some r)
    (hf : ∀ r : EarlyRefresh, r.SameWorker (f r) ∧ (f r).claimed = r.claimed ∧
      (f r).jobs = r.jobs ∧ (f r).accepting = r.accepting) :
    Turns layer t w c (w.mapEarly l f, t.goto control) := by
  obtain ⟨hs, hd, acts⟩ := ht.outside layer
  obtain ⟨hs', hd', -⟩ := ht'.outside layer
  by_cases h : l = layer
  · subst h
    obtain ⟨r, he⟩ := hw ht.1
    obtain ⟨same, claimed, jobs, accepting⟩ := hf r
    exact ⟨_, World.cache?_mapEarly_of_some f hc he, .tend ht he same claimed jobs accepting ht'⟩
  · exact turns_elsewhere acts ((World.cache?_mapEarly_of_ne w f h).trans hc) (hs'.trans hs.symm)
      (hd'.trans hd.symm)

/-- A step with which the worker of another cache begins to refresh. -/
theorem turns_push_of_ne {l seen : Nat} {f : Frame} {w' : World V σ} (h : l ≠ layer)
    (ht : t.Attends l) (hload : f.isLoad layer = false) (hduty : f.duty? layer = none)
    (hc : w'.cache? layer = some c) :
    Turns layer t w c (w', t.push f (.acquire l seen false)) := by
  obtain ⟨hs, hd, acts⟩ := ht.outside layer
  refine turns_elsewhere acts hc ?_ ?_
  · rw [hs]
    simp [stage, push, h, around, hload, ht.2.1]
  · rw [hd]
    simp [duty?, push, hduty, ht.2.1]

theorem turns_fireTimer {l : Nat} {c' : Cache V} {r : EarlyRefresh} (ht : t.Attends l)
    (hc : w.cache? layer = some c) (hw : t.request = .work layer → ∃ r, c.early = some r)
    (hl : w.cache? l = some c') (hr : c'.early = some r) :
    Turns layer t w c (t.fireTimer w l c' r) := by
  have hrest : ∀ x, (t.goto (.attend l x)).Attends l := fun x => ⟨ht.1, ht.2.1, trivial⟩
  have hsame : ∀ r : EarlyRefresh, r.SameWorker { r with listening := false } ∧
      r.claimed = r.claimed ∧ r.jobs = r.jobs ∧ r.accepting = r.accepting := fun r =>
    ⟨⟨rfl, rfl, rfl, rfl⟩, rfl, rfl, rfl⟩
  unfold fireTimer
  simp only
  split
  · exact turns_tend ht (hrest _) hc hw hsame
  next e he =>
    split
    next hclaim =>
      -- the expiry is claimed, so the worker pauses, or ends where the pause leads past the clock
      rw [pause]
      split
      · obtain ⟨hs, hd, acts⟩ := ht.outside layer
        refine turns_retire ht.1 hs (fun _ => ⟨hd, acts⟩) hw (fun r he h => ?_) (fun h => ?_)
        · subst h
          exact ⟨{ r with listening := false }, ⟨rfl, rfl, rfl, rfl⟩,
            World.cache?_mapEarly_of_some _ hc he⟩
        · exact (World.cache?_mapEarly_of_ne w _ h).trans hc
      · exact turns_tend ht (hrest _) hc hw hsame
    next hclaim =>
      by_cases hll : l = layer
      · subst hll
        have hcc : c' = c := by simpa [hc] using hl.symm
        subst hcc
        obtain ⟨hentry, hdue⟩ := Option.filter_eq_some_iff.1 he
        have hunclaimed : r.claimed ≠ some e.expiresAt := by
          intro h
          simp [EarlyRefresh.claim?, h] at hclaim
        have hw := World.cache?_mapEarly_of_some ({ · with claimed := some e.expiresAt })
          (World.cache?_mapEarly_of_some ({ · with listening := false }) hc hr) rfl
        exact ⟨_, hw, .fire (r := r) ht hr hentry (by simpa using hdue) hunclaimed⟩
      · refine turns_push_of_ne hll ht rfl (by simp [Frame.duty?, hll]) ?_
        rw [World.cache?_mapEarly_of_ne _ _ hll, World.cache?_mapEarly_of_ne _ _ hll, hc]

theorem turns_follow? {l : Nat} {retryAfter deadline : Option Instant} {c' : Cache V}
    {r : EarlyRefresh} {signal : Signal} {next : World V σ × Task V C} (ht : t.Attends l)
    (hc : w.cache? layer = some c) (hw : t.request = .work layer → ∃ r, c.early = some r)
    (hl : w.cache? l = some c') (hr : c'.early = some r)
    (h : t.follow? w l retryAfter deadline c' r signal = some next) : Turns layer t w c next := by
  cases signal with
  | job =>
      simp only [follow?] at h
      split at h
      · cases h
      next job rest hjobs =>
        cases h
        by_cases hll : l = layer
        · subst hll
          have hcc : c' = c := by simpa [hc] using hl.symm
          subst hcc
          exact ⟨_, World.cache?_mapEarly_of_some _ hc hr, .takeJob ht hr hjobs⟩
        · exact turns_push_of_ne hll ht rfl (by simp [Frame.duty?, hll])
            ((World.cache?_mapEarly_of_ne w _ hll).trans hc)
  | notice =>
      simp only [follow?] at h
      split at h
      · cases h
        exact turns_tend ht ⟨ht.1, ht.2.1, trivial⟩ hc hw
          (fun r => ⟨⟨rfl, rfl, rfl, rfl⟩, rfl, rfl, rfl⟩)
      · cases h
  | timer =>
      simp only [follow?] at h
      split at h
      · cases h
        exact turns_fireTimer ht hc hw hl hr
      · cases h

theorem turns_listen {favoured : Signal} {l : Nat} {retryAfter deadline : Option Instant}
    (ht : t.Attends l) (hc : w.cache? layer = some c)
    (hw : t.request = .work layer → ∃ r, c.early = some r) :
    Turns layer t w c (t.listen w favoured l retryAfter deadline) := by
  rw [listen]
  split
  next c' r hl hr =>
    rw [World.early?_eq w hl] at hr
    split
    next next h =>
      obtain ⟨signal, -, hs⟩ := List.exists_of_findSome?_eq_some h
      exact turns_follow? ht hc hw hl hr hs
    · exact turns_tend ht ⟨ht.1, ht.2.1, trivial⟩ hc hw
        (fun r => ⟨⟨rfl, rfl, rfl, rfl⟩, rfl, rfl, rfl⟩)
  next h =>
    obtain ⟨hs, hd, acts⟩ := ht.outside layer
    refine turns_retire ht.1 hs (fun _ => ⟨hd, acts⟩) hw (fun r he hll => ?_) (fun _ => hc)
    subst hll
    exact absurd ((World.early?_eq w hc).trans he) (h c r hc)

/-! ### Outcomes -/

theorem turns_refreshed {l : Nat} {startedAt : Instant} {frames : List Frame}
    {outcome : Outcome V} (hc : w.cache? layer = some c)
    (control : t.control = .deliver outcome) (hf : t.frames = .load l startedAt :: frames) :
    Turns layer t w c (Task.refreshed { t with frames } w l startedAt outcome) := by
  by_cases h : l = layer
  · subst h
    have hrelease : ∀ w' : World V σ, w'.cache? l = some c →
        (w'.release l).cache? l = some { c with lock := c.lock.release } := by
      intro w' hw'
      simp [hw']
    cases outcome with
    | value v =>
        simp only [refreshed, install, settle, hc]
        split
        next hn => exact ⟨_, hrelease w hc, .crash control hf (Or.inr ⟨v, rfl, hn⟩)⟩
        next e he =>
          refine ⟨{ c.install e with lock := c.lock.release }, ?_, ?_⟩
          · simp [World.cache?_mapCache, hc, Cache.install]
          · simpa using Turn.install control hf he
    | failed f => exact ⟨_, hrelease _ (by simpa using hc), .fail control hf⟩
    | crashed => exact ⟨_, hrelease w hc, .crash control hf (Or.inl rfl)⟩
  · -- the inner call was one of another cache
    have acts : ¬ t.ActsOn layer := by
      simp [ActsOn, control, hf, Frame.isLoad, Frame.duty?, h]
    have hs : t.stage layer = Task.around { t with frames } layer := by
      rw [stage_eq_around layer (by simp [control])]
      simp [around, hf, Frame.isLoad, h]
    have hd : Task.duty? { t with frames } layer = t.duty? layer := by
      simp [duty?, hf, List.findSome?_cons, Frame.duty?]
    cases outcome with
    | value v =>
        simp only [refreshed, install, settle]
        split
        · exact turns_elsewhere acts hc (by rw [hs]; rfl) hd
        · split
          · exact turns_elsewhere acts (by simp [h, hc]) (by rw [hs]; rfl) hd
          · refine turns_elsewhere acts ?_ (by rw [hs]; rfl) hd
            simp [World.cache?_mapCache, h, hc]
    | failed f => exact turns_elsewhere acts (by simp [refreshed, h, hc]) (by rw [hs]; rfl) hd
    | crashed => exact turns_elsewhere acts (by simp [refreshed, h, hc]) (by rw [hs]; rfl) hd

/-- The worker goes back to rest, or ends, with the outcome of a refresh. -/
theorem turns_concluded {l : Nat} {job : RefreshJob} {f : Frame} {outcome : Outcome V}
    {next : World V σ × Task V C} (hc : w.cache? layer = some c)
    (hw : t.request = .work layer → ∃ r, c.early = some r)
    (control : t.control = .deliver outcome) (hf : t.frames = [f]) (hr : t.request = .work l)
    (hload : ∀ i, f.isLoad i = false) (hduty : ∀ i, f.duty? i = if l = i then some job else none)
    (hnext : (∃ v x, outcome = .value v ∧
        next = (w, Task.goto { t with frames := [] } (.attend l x))) ∨
      (∃ failure x, outcome = .failed failure ∧
        next = (w.mapEarly l (·.unclaim job.expiresAt),
          Task.goto { t with frames := [] } (.attend l x))) ∨
      next = Task.retire { t with frames := [] } w l ∨
      next = Task.retire { t with frames := [] } (w.mapEarly l (·.unclaim job.expiresAt)) l) :
    Turns layer t w c next := by
  obtain ⟨hs, hother⟩ := outside_of_duty control hf hload hduty layer
  have hrest : ∀ x, (Task.goto { t with frames := [] } (.attend l x)).Attends l := fun x =>
    ⟨hr, rfl, trivial⟩
  have hsame := fun r : EarlyRefresh => r.sameWorker_unclaim job.expiresAt
  -- the worker rests with the value, rests without it, or ends, with its claim or without it
  rcases hnext with ⟨v, x, rfl, rfl⟩ | ⟨failure, x, rfl, rfl⟩ | rfl | rfl
  · by_cases h : l = layer
    · subst h
      exact ⟨c, hc, .succeed control hf (by simp [hduty]) (hrest x)⟩
    · obtain ⟨hd, acts⟩ := hother h
      exact turns_elsewhere acts hc (by rw [hs]; rfl) (by rw [hd]; rfl)
  · by_cases h : l = layer
    · subst h
      refine ⟨c.mapEarly (·.unclaim job.expiresAt), ?_,
        .forgo control hf (by simp [hduty]) (hrest x)⟩
      simp [World.cache?_mapEarly, hc]
    · obtain ⟨hd, acts⟩ := hother h
      exact turns_elsewhere acts ((World.cache?_mapEarly_of_ne w _ h).trans hc)
        (by rw [hs]; rfl) (by rw [hd]; rfl)
  · refine turns_retire hr hs hother hw (fun r he h => ⟨r, ⟨rfl, rfl, rfl, rfl⟩, ?_⟩) (fun _ => hc)
    rw [← he]
    exact hc
  · refine turns_retire hr hs hother hw (fun r he h => ⟨_, hsame r, ?_⟩)
      (fun h => (World.cache?_mapEarly_of_ne w _ h).trans hc)
    subst h
    exact World.cache?_mapEarly_of_some _ hc he

theorem turns_jobDone {l : Nat} {job : RefreshJob} {retryAfter : Option Instant}
    {outcome : Outcome V} (hc : w.cache? layer = some c)
    (hw : t.request = .work layer → ∃ r, c.early = some r)
    (control : t.control = .deliver outcome) (hf : t.frames = [.job l job retryAfter])
    (hr : t.request = .work l) :
    Turns layer t w c (Task.jobDone { t with frames := [] } w l job retryAfter outcome) := by
  refine turns_concluded hc hw control hf hr (fun _ => rfl) (fun _ => rfl) ?_
  cases outcome with
  | value v => exact Or.inl ⟨v, _, rfl, rfl⟩
  | failed f => exact Or.inr (Or.inl ⟨f, _, rfl, rfl⟩)
  | crashed => exact Or.inr (Or.inr (Or.inl rfl))

theorem turns_timerDone {l : Nat} {job : RefreshJob} {firedAt : Instant}
    {outcome : Outcome V} (hc : w.cache? layer = some c)
    (hw : t.request = .work layer → ∃ r, c.early = some r)
    (control : t.control = .deliver outcome) (hf : t.frames = [.timer l job firedAt])
    (hr : t.request = .work l) :
    Turns layer t w c (Task.timerDone { t with frames := [] } w l job firedAt outcome) := by
  refine turns_concluded hc hw control hf hr (fun _ => rfl) (fun _ => rfl) ?_
  cases outcome with
  | value v => exact Or.inl ⟨v, _, rfl, rfl⟩
  | failed f =>
      simp only [timerDone, pause]
      split
      · exact Or.inr (Or.inr (Or.inr rfl))
      · exact Or.inr (Or.inl ⟨f, _, rfl, rfl⟩)
  | crashed => exact Or.inr (Or.inr (Or.inl rfl))

theorem turns_retried {l : Nat} {force : Bool} {outcome : Outcome V} {frames : List Frame}
    (hc : w.cache? layer = some c) (control : t.control = .deliver outcome)
    (hf : t.frames = .retry l force :: frames) :
    Turns layer t w c (Task.retried { t with frames } w l force outcome) := by
  obtain ⟨hs, hd, acts⟩ := outside_of_frame layer control hf rfl rfl
  unfold retried
  split
  · split
    · exact turns_elsewhere acts (by simpa using hc) hs hd
    · exact turns_elsewhere acts hc hs hd
  · exact turns_elsewhere acts hc hs hd

theorem turns_bridged {l : Nat} {force : Bool} {outcome : Outcome V} {frames : List Frame}
    (hc : w.cache? layer = some c) (control : t.control = .deliver outcome)
    (hf : t.frames = .outage l force :: frames) :
    Turns layer t w c (Task.bridged { t with frames } w l force outcome) := by
  obtain ⟨hs, hd, acts⟩ := outside_of_frame layer control hf rfl rfl
  unfold bridged
  split
  next hl =>
    split
    · exact turns_elsewhere acts hc hs hd
    · exact turns_elsewhere acts
        ((World.cache?_setLayer_of_none w layer hl rfl rfl).trans hc) hs hd
  · split
    · exact turns_elsewhere acts (by simpa using hc) hs hd
    · exact turns_elsewhere acts hc hs hd
  · exact turns_elsewhere acts hc hs hd

theorem turns_observed {l : Nat} {outcome : Outcome V} {frames : List Frame}
    (hc : w.cache? layer = some c) (control : t.control = .deliver outcome)
    (hf : t.frames = .health l :: frames) :
    Turns layer t w c (Task.observed { t with frames } w l outcome) := by
  obtain ⟨hs, hd, acts⟩ := outside_of_frame layer control hf rfl rfl
  unfold observed
  split
  · exact turns_elsewhere acts hc hs hd
  next hl _ =>
    exact turns_elsewhere acts ((World.cache?_setLayer_of_none w layer hl rfl rfl).trans hc) hs hd
  · exact turns_elsewhere acts hc hs hd

theorem turns_queried {l seen : Nat} {outcome : Outcome V} {frames : List Frame}
    (hc : w.cache? layer = some c) (control : t.control = .deliver outcome)
    (hf : t.frames = .query l seen :: frames) :
    Turns layer t w c (Task.queried { t with frames } w l seen outcome) := by
  obtain ⟨hs, hd, acts⟩ := outside_of_frame layer control hf rfl rfl
  unfold queried
  split
  · exact turns_elsewhere acts hc hs hd
  · exact turns_elsewhere acts hc hs hd

theorem turns_deliver {outcome : Outcome V} (shaped : t.Shaped) (hc : w.cache? layer = some c)
    (hw : t.request = .work layer → ∃ r, c.early = some r)
    (control : t.control = .deliver outcome) : Turns layer t w c (t.deliver w outcome) := by
  obtain ⟨depth, hn⟩ : ∃ depth, Nested t.request depth t.frames := by
    simpa [Shaped, control] using shaped
  rw [deliver]
  split
  next hf =>
    have acts : ¬ t.ActsOn layer := by simp [ActsOn, control, hf]
    have hs : t.stage layer = .away := stage_eq_away_of_nil hf (by simp [control])
    exact turns_elsewhere acts hc (by rw [hs]; exact stage_eq_away_of_nil hf rfl) rfl
  next f frames hf =>
    rw [hf] at hn
    cases f with
    | retry l force => exact turns_retried hc control hf
    | outage l force => exact turns_bridged hc control hf
    | health l => exact turns_observed hc control hf
    | load l startedAt => exact turns_refreshed hc control hf
    | query l seen => exact turns_queried hc control hf
    | job l job retryAfter =>
        obtain ⟨-, hr, rfl⟩ := hn
        exact turns_jobDone hc hw control hf hr
    | timer l job firedAt =>
        obtain ⟨-, hr, rfl⟩ := hn
        exact turns_timerDone hc hw control hf hr

/-! ### Requests -/

theorem turns_ask [Source σ V C] {refresh : Bool} (hc : w.cache? layer = some c)
    (control : t.control = .begin) (hf : t.frames = []) :
    Turns layer t w c (t.ask w refresh) := by
  have acts : ¬ t.ActsOn layer := by simp [ActsOn, control]
  have hs : t.stage layer = .away := stage_eq_away_of_nil hf (by simp [control])
  have hd : t.duty? layer = none := by simp [duty?, hf]
  have hquery : ∀ l seen x, (t.push (.query l seen) x).duty? layer = none := by
    intro l seen x
    simp [duty?, push, hf, Frame.duty?]
  have hfinish : ∀ a, Turns layer t w c (t.finish w a) := fun a =>
    turns_elsewhere acts hc (by rw [hs]; exact stage_eq_away_of_nil hf rfl) rfl
  rw [ask]
  split
  · exact hfinish _
  · split
    · split
      · simp only
        split <;>
          exact turns_elsewhere acts hc
            (by rw [hs]; exact around_eq_away (by simp [push, hf, Frame.isLoad]))
            ((hquery _ _ _).trans hd.symm)
      · exact hfinish _
    · exact hfinish _

theorem turns_close [Source σ V C] (hc : w.cache? layer = some c)
    (control : t.control = .begin) (hr : t.request = .close) (hf : t.frames = []) :
    Turns layer t w c (t.close w) := by
  have acts : ¬ t.ActsOn layer := by simp [ActsOn, control]
  have hs : t.stage layer = .away := stage_eq_away_of_nil hf (by simp [control])
  have hclosed : ∀ x : Control V C,
      ((∃ due, (t.goto x).control = .resting due) ∨ (t.goto x).hasEnded = true) →
      x.hasSnapshot = false →
      ∀ w' : World V σ, (w'.cache? layer = some c ∨ w'.cache? layer = some c.told) →
        Turns layer t w c (w', t.goto x) := by
    intro x hx hx' w' hw'
    rcases hw' with hw' | hw'
    · exact turns_elsewhere acts hw' (by rw [hs]; exact stage_eq_away_of_nil hf hx') rfl
    · exact ⟨_, hw', .tell hr hf control hf hx⟩
  have hw := World.cache?_stopWorkers hc
  rw [close]
  simp only
  split
  · exact hclosed _ (Or.inr rfl) rfl _ hw
  · exact hclosed _ (Or.inl ⟨_, rfl⟩) rfl _ hw

theorem turns_start [Source σ V C] (hc : w.cache? layer = some c)
    (control : t.control = .begin) (hf : t.frames = []) : Turns layer t w c (t.start w) := by
  have acts : ¬ t.ActsOn layer := by simp [ActsOn, control]
  have hs : t.stage layer = .away := stage_eq_away_of_nil hf (by simp [control])
  have hgoto : ∀ x : Control V C,
      x.hasSnapshot = false →
      Turns layer t w c (w, t.goto x) := fun x hx =>
    turns_elsewhere acts hc (by rw [hs]; exact stage_eq_away_of_nil hf hx) rfl
  rw [start]
  split
  · exact hgoto _ rfl
  · exact turns_ask hc control hf
  next hr => exact turns_close hc control hr hf
  · exact hgoto _ rfl
  · exact hgoto _ rfl
  · exact hgoto _ rfl

/-! ### Stopped workers -/

/-- What a stopped worker leaves behind. -/
theorem turns_abandon {l : Nat} (shaped : t.Shaped) (hc : w.cache? layer = some c)
    (hr : t.request = .work l) (parked : t.control.isParked = true) :
    Turns layer t w c (t.abandon w l) := by
  have hnow : (t.frames.foldl (stopLoading t.id) (stopQueueing t.id w t.control)).now = w.now := by
    rw [now_foldl_stopLoading, now_stopQueueing]
  -- the lock is given up by the control of a task that waits for it, by the frame of an inner call
  have hcache : (t.frames.foldl (stopLoading t.id) (stopQueueing t.id w t.control)).cache? layer =
      some { c with
        lock := if (t.stage layer).isEngaged then c.lock.withdraw t.id else c.lock } := by
    cases control : t.control with
    | queued l' seen force deadline =>
        have hn : Nested t.request (2 * l' + 1) t.frames := by
          simpa [Shaped, control] using shaped
        rw [cache?_foldl_stopLoading hn, cache?_stopQueueing]
        by_cases hl : l' = layer
        · subst hl
          have hload := Nested.not_isLoad hn (Nat.lt_succ_self _)
          simp [hload, hc, stage, control, Stage.isEngaged]
        · cases hload : t.frames.any (Frame.isLoad layer) <;>
            simp [hl, hc, stage, control, around, hload, Stage.isEngaged]
    | calling source due call =>
        have hn : Nested t.request 0 t.frames := by simpa [Shaped, control] using shaped
        rw [cache?_foldl_stopLoading hn, cache?_stopQueueing]
        cases hload : t.frames.any (Frame.isLoad layer) <;>
          simp [hc, stage, control, around, hload, Stage.isEngaged]
    | listening l' retryAfter deadline =>
        obtain ⟨-, hf⟩ : t.request = .work l' ∧ t.frames = [] := by
          simpa [Shaped, control] using shaped
        simp [hf, hc, stopQueueing, stage_eq_away_of_nil hf, control, Stage.isEngaged]
    | begin | resting _ | joining _ | ended _ _ =>
        have hf : t.frames = [] := by simpa [Shaped, control] using shaped
        simp [hf, hc, stopQueueing, stage_eq_away_of_nil hf, control, Stage.isEngaged]
    | enter _ _ | call _ _ | acquire _ _ _ | locked _ _ _ | deliver _ | attend _ _ =>
        -- a task in the middle of its work is not stopped
        simp [Control.isParked, Control.isWaiting, control] at parked
  rw [abandon, Turns]
  rw [← hnow]
  refine ⟨_, ?_, .abandon hr parked⟩
  simp only [retire, finish, World.cache?_mapEarly, hcache]
  split <;> rfl

theorem step_of_not_stopped [Source σ V C] {favoured : Signal} (h : t.isStopped w = false) :
    t.step w favoured = t.advance w favoured := by
  rw [step]
  rw [h]
  split
  · contradiction
  · rfl

/-- Every step is a turn of each cache. A worker that is stopped must not be in the middle of its
work. -/
theorem turns_step [Source σ V C] {favoured : Signal} (shaped : t.Shaped)
    (hc : w.cache? layer = some c) (hw : t.request = .work layer → ∃ r, c.early = some r)
    (parked : t.isStopped w = true → t.control.isParked = true) :
    Turns layer t w c (t.step w favoured) := by
  have hadvance : Turns layer t w c (t.advance w favoured) := by
    rw [advance]
    split
    next control => exact turns_start hc control (by simpa [Shaped, control] using shaped)
    next control => exact turns_enter hc control
    next control => exact turns_callSource hc control
    next control => exact turns_acquire hc control
    next control => exact turns_stopWaiting hc control
    next control => exact turns_refresh hc control
    next control => exact turns_resumeCall hc control
    next control => exact turns_deliver shaped hc hw control
    next control =>
      obtain ⟨hr, hf⟩ : t.request = .work _ ∧ t.frames = [] := by
        simpa [Shaped, control] using shaped
      exact turns_listen ⟨hr, hf, by simp [control]⟩ hc hw
    next control =>
      obtain ⟨hr, hf⟩ : t.request = .work _ ∧ t.frames = [] := by
        simpa [Shaped, control] using shaped
      exact turns_listen ⟨hr, hf, by simp [control]⟩ hc hw
    next control =>
      have acts : ¬ t.ActsOn layer := by simp [ActsOn, control]
      have hf : t.frames = [] := by simpa [Shaped, control] using shaped
      have hs : t.stage layer = .away := stage_eq_away_of_nil hf (by simp [control])
      split
      · exact turns_elsewhere acts hc (by rw [hs]; exact stage_eq_away_of_nil hf rfl) rfl
      · exact turns_elsewhere acts hc rfl rfl
    next control =>
      have acts : ¬ t.ActsOn layer := by simp [ActsOn, control]
      have hf : t.frames = [] := by simpa [Shaped, control] using shaped
      have hs : t.stage layer = .away := stage_eq_away_of_nil hf (by simp [control])
      exact turns_elsewhere acts hc (by rw [hs]; exact stage_eq_away_of_nil hf rfl) rfl
    next control => exact turns_elsewhere (by simp [ActsOn, control]) hc rfl rfl
  rw [step]
  split
  next hr hstopped => exact turns_abandon shaped hc hr (parked hstopped)
  · exact hadvance

end Task

end Turns

end CredentialSupply
