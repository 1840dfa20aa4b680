import CredentialSupply.Proofs.Shared

set_option autoImplicit false

/-!
# The shape of a task

A fetch goes down through the layers, so the frames of a task belong to layers further and
further out. `Nested` says this with depths: entering level `n` is depth `2 * n`, and being
inside the cache at layer `n` is depth `2 * n + 1`, between the levels below and above it.
Outside all layers stands the frame of the request, if it has one. `Task.Shaped` adds what the
control of a task requires of its frames, and every step keeps it (`shaped_step`).

From the shape follows where a task stands with the cache at a layer, its `Stage`: a task is
inside a cache at most once.
-/

namespace CredentialSupply

variable {V σ C : Type}

/-- Frames, innermost first, around something at a depth. -/
def Nested (request : Request) : Nat → List Frame → Prop
  | _, [] => ∃ force, request = .fetch force
  | depth, .retry layer _ :: frames | depth, .outage layer _ :: frames
  | depth, .health layer :: frames =>
      depth ≤ 2 * layer ∧ Nested request (2 * layer + 2) frames
  | depth, .load layer _ :: frames => depth ≤ 2 * layer ∧ Nested request (2 * layer + 1) frames
  | _, .query _ _ :: frames => (∃ refresh, request = .health refresh) ∧ frames = []
  | depth, .job layer _ _ :: frames | depth, .timer layer _ _ :: frames =>
      depth = 2 * layer + 1 ∧ request = .work layer ∧ frames = []

/-- The frames of a task fit its request and what it does next. -/
def Task.Shaped (t : Task V C) : Prop :=
  match t.control with
  | .enter level _ => Nested t.request (2 * level) t.frames
  | .call _ _ | .calling _ _ _ => Nested t.request 0 t.frames
  | .acquire layer _ _ | .queued layer _ _ _ | .locked layer _ _ =>
      Nested t.request (2 * layer + 1) t.frames
  | .deliver _ => ∃ depth, Nested t.request depth t.frames
  | .attend layer _ | .listening layer _ _ => t.request = .work layer ∧ t.frames = []
  | .begin | .resting _ | .joining _ | .ended _ _ => t.frames = []

/-- Whether a frame waits for a new value for the cache at a layer. -/
def Frame.isLoad (layer : Nat) : Frame → Bool
  | .load l _ => l = layer
  | _ => false

/-- The job for the worker of the cache at a layer that a frame is about. -/
def Frame.duty? (layer : Nat) : Frame → Option RefreshJob
  | .job l duty _ | .timer l duty _ => if l = layer then some duty else none
  | _ => none

/-- Where a task stands with a cache: outside, asking for its lock after it saw a generation,
waiting for the lock, holding it, or loading a new value while it holds it. -/
inductive Stage where
  | away
  | asking (seen : Nat) (force : Bool)
  | waiting (seen : Nat) (force : Bool) (deadline : Option Instant)
  | holding (seen : Nat) (force : Bool)
  | loading
  deriving DecidableEq

namespace Stage

/-- Whether the task has asked for the lock and not yet gone. -/
def isEngaged : Stage → Bool
  | .waiting .. | .holding .. | .loading => true
  | .away | .asking .. => false

/-- Whether the task acts as the holder of the lock. -/
def isOwner : Stage → Bool
  | .holding .. | .loading => true
  | .away | .asking .. | .waiting .. => false

end Stage

namespace Task

/-- Whether the task has an inner call of the cache at a layer in flight, as far as its frames
tell. -/
def around (t : Task V C) (layer : Nat) : Stage :=
  if t.frames.any (Frame.isLoad layer) then .loading else .away

/-- Where the task stands with the cache at a layer. -/
def stage (t : Task V C) (layer : Nat) : Stage :=
  match t.control with
  | .acquire l seen force => if l = layer then .asking seen force else t.around layer
  | .queued l seen force deadline =>
      if l = layer then .waiting seen force deadline else t.around layer
  | .locked l seen force => if l = layer then .holding seen force else t.around layer
  | _ => t.around layer

/-- The refresh in the background of the cache at a layer that the task carries out. -/
def duty? (t : Task V C) (layer : Nat) : Option RefreshJob :=
  t.frames.findSome? (Frame.duty? layer)

end Task

/-! ## Frames -/

theorem Frame.isLoad_of_duty? {layer : Nat} {f : Frame} (h : (f.duty? layer).isSome = true) :
    f.isLoad layer = false := by
  cases f <;> first | rfl | simp [Frame.duty?] at h

section Nested

variable {request : Request} {depth : Nat} {frames : List Frame} {layer : Nat}

/-- Inside the frames there is no load of a cache that the frames have passed. -/
theorem Nested.not_isLoad (h : Nested request depth frames) (hlt : 2 * layer < depth) :
    frames.any (Frame.isLoad layer) = false := by
  induction frames generalizing depth with
  | nil => rfl
  | cons f frames ih =>
      cases f with
      | retry l force => simpa [Frame.isLoad] using ih h.2 (by have := h.1; omega)
      | outage l force => simpa [Frame.isLoad] using ih h.2 (by have := h.1; omega)
      | health l => simpa [Frame.isLoad] using ih h.2 (by have := h.1; omega)
      | load l startedAt =>
          -- a cache that the frames have passed lies further in than this one
          have hle := h.1
          have hne : l ≠ layer := by omega
          simpa [Frame.isLoad, hne] using ih h.2 (by omega)
      | query l observed => simp [Frame.isLoad, h.2]
      | job l job retryAfter => simp [Frame.isLoad, h.2.2]
      | timer l job firedAt => simp [Frame.isLoad, h.2.2]

/-- What is nested around the outside of a layer is nested around all that lies further in. -/
theorem Nested.lower {level inner : Nat} (h : Nested request (2 * level) frames)
    (hle : inner ≤ 2 * level) : Nested request inner frames := by
  cases frames with
  | nil => exact h
  | cons f frames =>
      cases f with
      | retry l force => exact ⟨Nat.le_trans hle h.1, h.2⟩
      | outage l force => exact ⟨Nat.le_trans hle h.1, h.2⟩
      | health l => exact ⟨Nat.le_trans hle h.1, h.2⟩
      | load l startedAt => exact ⟨Nat.le_trans hle h.1, h.2⟩
      | query l observed => exact h
      | job l job retryAfter =>
          have := h.1
          omega
      | timer l job firedAt =>
          have := h.1
          omega

/-- A refresh in the background stands right inside its cache, or loads a value for it. -/
theorem Nested.of_duty {job : RefreshJob} (h : Nested request depth frames)
    (hd : frames.findSome? (Frame.duty? layer) = some job) :
    request = .work layer ∧
      (frames.any (Frame.isLoad layer) = true ∨
        depth = 2 * layer + 1 ∧ ∃ f, frames = [f] ∧ f.duty? layer = some job) := by
  -- by induction on the frames, of which the job is the outermost one
  induction frames generalizing depth with
  | nil => simp at hd
  | cons f frames ih =>
      cases f with
      | retry l force =>
          obtain ⟨hr, hl | ⟨he, -⟩⟩ := ih h.2 hd
          · exact ⟨hr, Or.inl (by simp [hl])⟩
          · omega
      | outage l force =>
          obtain ⟨hr, hl | ⟨he, -⟩⟩ := ih h.2 hd
          · exact ⟨hr, Or.inl (by simp [hl])⟩
          · omega
      | health l =>
          obtain ⟨hr, hl | ⟨he, -⟩⟩ := ih h.2 hd
          · exact ⟨hr, Or.inl (by simp [hl])⟩
          · omega
      | load l startedAt =>
          obtain ⟨hr, hl | ⟨he, -⟩⟩ := ih h.2 hd
          · exact ⟨hr, Or.inl (by simp [hl])⟩
          · -- the job is the only frame around, so this is the value that it loads
            have hll : l = layer := by omega
            exact ⟨hr, Or.inl (by simp [Frame.isLoad, hll])⟩
      | query l observed => simp [Frame.duty?, h.2] at hd
      | job l job' retryAfter =>
          obtain ⟨hdepth, hr, rfl⟩ := h
          by_cases hl : l = layer
          · subst hl
            exact ⟨hr, Or.inr ⟨hdepth, _, rfl, by simpa [Frame.duty?] using hd⟩⟩
          · simp [Frame.duty?, hl] at hd
      | timer l job' firedAt =>
          obtain ⟨hdepth, hr, rfl⟩ := h
          by_cases hl : l = layer
          · subst hl
            exact ⟨hr, Or.inr ⟨hdepth, _, rfl, by simpa [Frame.duty?] using hd⟩⟩
          · simp [Frame.duty?, hl] at hd

/-- The frames of a task are nested, if it has any. -/
theorem Task.Shaped.nested_or_nil {t : Task V C} (shaped : t.Shaped) :
    (∃ depth, Nested t.request depth t.frames) ∨ t.frames = [] := by
  cases control : t.control with
  | enter level force | call source force | calling source due call | acquire l seen force
  | queued l seen force deadline | locked l seen force =>
      rw [Task.Shaped, control] at shaped
      exact Or.inl ⟨_, shaped⟩
  | deliver outcome =>
      rw [Task.Shaped, control] at shaped
      exact Or.inl shaped
  | attend l retryAfter | listening l retryAfter deadline =>
      rw [Task.Shaped, control] at shaped
      exact Or.inr shaped.2
  | begin | resting due | joining task | ended answer endedAt =>
      rw [Task.Shaped, control] at shaped
      exact Or.inr shaped

theorem Task.Shaped.of_begin {t : Task V C} (shaped : t.Shaped) (control : t.control = .begin) :
    t.frames = [] := by
  rwa [Task.Shaped, control] at shaped

theorem Task.Shaped.of_enter {t : Task V C} {level : Nat} {force : Bool} (shaped : t.Shaped)
    (control : t.control = .enter level force) : Nested t.request (2 * level) t.frames := by
  rwa [Task.Shaped, control] at shaped

theorem Task.Shaped.of_locked {t : Task V C} {layer seen : Nat} {force : Bool} (shaped : t.Shaped)
    (control : t.control = .locked layer seen force) :
    Nested t.request (2 * layer + 1) t.frames := by
  rwa [Task.Shaped, control] at shaped

/-- The innermost frame that an outcome reaches is nested. -/
theorem Task.Shaped.of_deliver {t : Task V C} {outcome : Outcome V} {f : Frame}
    {frames : List Frame} (shaped : t.Shaped) (control : t.control = .deliver outcome)
    (head : t.frames = f :: frames) : ∃ depth, Nested t.request depth (f :: frames) := by
  rwa [Task.Shaped, control, head] at shaped

/-- Only the worker of a cache carries out its refreshes. -/
theorem Task.request_of_duty {t : Task V C} {job : RefreshJob} (shaped : t.Shaped)
    (duty : t.duty? layer = some job) : t.request = .work layer := by
  rcases shaped.nested_or_nil with ⟨depth, h⟩ | hf
  · exact (h.of_duty duty).1
  · simp [Task.duty?, hf] at duty

end Nested

/-! ## Every step keeps the number and the request -/

namespace Task

variable {t : Task V C} {w : World V σ}

/-- The same task, by its number and its request. -/
def Same (t t' : Task V C) : Prop := t'.id = t.id ∧ t'.request = t.request

theorem same_await (source : Option Nat) (progress : Progress V C) :
    t.Same (t.await source progress) := by
  cases progress <;> exact ⟨rfl, rfl⟩

theorem same_enter {level : Nat} {force : Bool} : t.Same (t.enter w level force).2 := by
  unfold enter
  split
  · exact ⟨rfl, rfl⟩
  · simp only [throttle, lookUp]
    (repeat' split) <;> exact ⟨rfl, rfl⟩

theorem same_callSource [Source σ V C] {source : Option Nat} {force : Bool} :
    t.Same (t.callSource w source force).2 := by
  rw [callSource]
  split
  · exact ⟨rfl, rfl⟩
  · exact same_await source _

theorem same_resumeCall [Source σ V C] {source : Option Nat} {due : Instant} {call : C} :
    t.Same (t.resumeCall w source due call).2 := by
  rw [resumeCall]
  split
  · split
    · exact ⟨rfl, rfl⟩
    · exact same_await source _
  · exact ⟨rfl, rfl⟩

theorem same_acquire {layer seen : Nat} {force : Bool} :
    t.Same (t.acquire w layer seen force).2 := by
  simp only [acquire]
  (repeat' split) <;> exact ⟨rfl, rfl⟩

theorem same_stopWaiting {layer seen : Nat} {force : Bool} {deadline : Option Instant} :
    t.Same (t.stopWaiting w layer seen force deadline).2 := by
  simp only [stopWaiting]
  (repeat' split) <;> exact ⟨rfl, rfl⟩

theorem same_refresh {layer seen : Nat} {force : Bool} :
    t.Same (t.refresh w layer seen force).2 := by
  simp only [refresh, settle]
  split <;> exact ⟨rfl, rfl⟩

theorem same_follow? {layer : Nat} {retryAfter deadline : Option Instant} {c : Cache V}
    {r : EarlyRefresh} {signal : Signal} {next : World V σ × Task V C}
    (h : t.follow? w layer retryAfter deadline c r signal = some next) : t.Same next.2 := by
  cases signal <;> simp only [follow?] at h <;> split at h <;> cases h
  · exact ⟨rfl, rfl⟩
  · exact ⟨rfl, rfl⟩
  · simp only [fireTimer, pause]
    (repeat' split) <;> exact ⟨rfl, rfl⟩

theorem same_listen {favoured : Signal} {layer : Nat} {retryAfter deadline : Option Instant} :
    t.Same (t.listen w favoured layer retryAfter deadline).2 := by
  rw [listen]
  split
  · split
    next next h =>
      obtain ⟨signal, -, hs⟩ := List.exists_of_findSome?_eq_some h
      exact same_follow? hs
    · exact ⟨rfl, rfl⟩
  · exact ⟨rfl, rfl⟩

theorem same_deliver [Perishable V] {outcome : Outcome V} : t.Same (t.deliver w outcome).2 := by
  rw [deliver]
  split
  · exact ⟨rfl, rfl⟩
  · simp only [retried, bridged, observed, queried]
    split
    · (repeat' split) <;> exact ⟨rfl, rfl⟩
    · (repeat' split) <;> exact ⟨rfl, rfl⟩
    · split <;> exact ⟨rfl, rfl⟩
    · cases outcome with
      | value v =>
          simp only [refreshed, install, settle]
          (repeat' split) <;> exact ⟨rfl, rfl⟩
      | failed f => exact ⟨rfl, rfl⟩
      | crashed => exact ⟨rfl, rfl⟩
    · split <;> exact ⟨rfl, rfl⟩
    · cases outcome <;> exact ⟨rfl, rfl⟩
    · cases outcome with
      | failed f =>
          simp only [timerDone, pause]
          split <;> exact ⟨rfl, rfl⟩
      | value v => exact ⟨rfl, rfl⟩
      | crashed => exact ⟨rfl, rfl⟩

theorem same_start [Source σ V C] : t.Same (t.start w).2 := by
  rw [start]
  split
  · exact ⟨rfl, rfl⟩
  · simp only [ask]
    (repeat' split) <;> exact ⟨rfl, rfl⟩
  · simp only [close]
    split <;> exact ⟨rfl, rfl⟩
  · exact ⟨rfl, rfl⟩
  · exact ⟨rfl, rfl⟩
  · exact ⟨rfl, rfl⟩

theorem same_step [Source σ V C] [Perishable V] {favoured : Signal} :
    t.Same (t.step w favoured).2 := by
  have hadvance : t.Same (t.advance w favoured).2 := by
    rw [advance]
    split
    · exact same_start
    · exact same_enter
    · exact same_callSource
    · exact same_acquire
    · exact same_stopWaiting
    · exact same_refresh
    · exact same_resumeCall
    · exact same_deliver
    · exact same_listen
    · exact same_listen
    · split <;> exact ⟨rfl, rfl⟩
    · exact ⟨rfl, rfl⟩
    · exact ⟨rfl, rfl⟩
  rw [step]
  split
  · exact ⟨rfl, rfl⟩
  · exact hadvance

end Task

/-! ## Every step keeps the shape -/

namespace Task

variable {t : Task V C} {w : World V σ}

theorem shaped_await {source : Option Nat} (h : Nested t.request 0 t.frames)
    (progress : Progress V C) : (t.await source progress).Shaped := by
  cases progress with
  | wait due call => exact h
  | answer outcome => exact ⟨0, h⟩

theorem shaped_callSource [Source σ V C] {source : Option Nat} {force : Bool}
    (h : Nested t.request 0 t.frames) : (t.callSource w source force).2.Shaped := by
  rw [callSource]
  split
  · exact ⟨0, h⟩
  · exact shaped_await h _

theorem shaped_resumeCall [Source σ V C] {source : Option Nat} {due : Instant} {call : C}
    (h : t.Shaped) (control : t.control = .calling source due call) :
    (t.resumeCall w source due call).2.Shaped := by
  have hn : Nested t.request 0 t.frames := by simpa [Shaped, control] using h
  rw [resumeCall]
  split
  · split
    · exact ⟨0, hn⟩
    · exact shaped_await hn _
  · exact h

theorem shaped_lookUp {layer : Nat} {c : Cache V} {force : Bool}
    (h : Nested t.request (2 * (layer + 1)) t.frames) :
    (t.lookUp w layer c force).2.Shaped := by
  rw [lookUp]
  split
  · exact Nested.lower h (by omega)
  · split
    · exact ⟨_, h⟩
    · exact ⟨_, h⟩

theorem shaped_throttle {layer : Nat} {b : TokenBucket} {force : Bool}
    (h : Nested t.request (2 * (layer + 1)) t.frames) :
    (t.throttle w layer b force).2.Shaped := by
  rw [throttle]
  simp only
  split
  · exact Nested.lower h (by omega)
  · exact ⟨_, h⟩

theorem shaped_enter {level : Nat} {force : Bool} (h : Nested t.request (2 * level) t.frames) :
    (t.enter w level force).2.Shaped := by
  unfold enter
  split
  · exact h
  · split
    · exact Nested.lower h (by omega)
    · exact ⟨Nat.le_refl _, h⟩
    · exact ⟨Nat.le_refl _, h⟩
    · exact shaped_throttle h
    · exact ⟨Nat.le_refl _, h⟩
    · exact shaped_lookUp h

theorem shaped_acquire {layer seen : Nat} {force : Bool}
    (h : Nested t.request (2 * layer + 1) t.frames) :
    (t.acquire w layer seen force).2.Shaped := by
  rw [acquire]
  split
  · exact ⟨_, h⟩
  · simp only
    split
    · exact h
    · exact h

theorem shaped_stopWaiting {layer seen : Nat} {force : Bool} {deadline : Option Instant}
    (h : t.Shaped) (control : t.control = .queued layer seen force deadline) :
    (t.stopWaiting w layer seen force deadline).2.Shaped := by
  have hn : Nested t.request (2 * layer + 1) t.frames := by simpa [Shaped, control] using h
  rw [stopWaiting]
  split
  · exact ⟨_, hn⟩
  · split
    · exact hn
    · split
      · exact ⟨_, hn⟩
      · exact h

theorem shaped_refresh {layer seen : Nat} {force : Bool}
    (h : Nested t.request (2 * layer + 1) t.frames) :
    (t.refresh w layer seen force).2.Shaped := by
  unfold refresh settle
  split
  · exact ⟨_, h⟩
  · exact ⟨Nat.le_refl _, h⟩

theorem shaped_retire {layer : Nat} : (t.retire w layer).2.Shaped := rfl

theorem shaped_pause {layer : Nat} {firedAt : Instant} (hr : t.request = .work layer)
    (hf : t.frames = []) : (t.pause w layer firedAt).2.Shaped := by
  rw [pause]
  split
  · exact shaped_retire
  · exact ⟨hr, hf⟩

theorem shaped_follow? {layer : Nat} {retryAfter deadline : Option Instant} {c : Cache V}
    {r : EarlyRefresh} {signal : Signal} {next : World V σ × Task V C}
    (hr : t.request = .work layer) (hf : t.frames = [])
    (h : t.follow? w layer retryAfter deadline c r signal = some next) : next.2.Shaped := by
  cases signal with
  | job =>
      simp only [follow?] at h
      split at h
      · cases h
      · cases h
        exact ⟨rfl, hr, hf⟩
  | notice =>
      simp only [follow?] at h
      split at h
      · cases h
        exact ⟨hr, hf⟩
      · cases h
  | timer =>
      simp only [follow?] at h
      split at h
      · cases h
        unfold fireTimer
        simp only
        split
        · exact ⟨hr, hf⟩
        · split
          · exact shaped_pause hr hf
          · exact ⟨rfl, hr, hf⟩
      · cases h

theorem shaped_listen {favoured : Signal} {layer : Nat} {retryAfter deadline : Option Instant}
    (hr : t.request = .work layer) (hf : t.frames = []) :
    (t.listen w favoured layer retryAfter deadline).2.Shaped := by
  rw [listen]
  split
  · split
    next next h =>
      obtain ⟨signal, -, hs⟩ := List.exists_of_findSome?_eq_some h
      exact shaped_follow? hr hf hs
    · exact ⟨hr, hf⟩
  · exact shaped_retire

theorem shaped_jobDone {layer : Nat} {job : RefreshJob} {retryAfter : Option Instant}
    {outcome : Outcome V} (hr : t.request = .work layer) (hf : t.frames = []) :
    (t.jobDone w layer job retryAfter outcome).2.Shaped := by
  cases outcome with
  | value v => exact ⟨hr, hf⟩
  | failed f => exact ⟨hr, hf⟩
  | crashed => exact shaped_retire

theorem shaped_timerDone {layer : Nat} {job : RefreshJob} {firedAt : Instant}
    {outcome : Outcome V} (hr : t.request = .work layer) (hf : t.frames = []) :
    (t.timerDone w layer job firedAt outcome).2.Shaped := by
  cases outcome with
  | value v => exact ⟨hr, hf⟩
  | failed f => exact shaped_pause hr hf
  | crashed => exact shaped_retire

theorem shaped_refreshed [Perishable V] {layer depth : Nat} {startedAt : Instant}
    {outcome : Outcome V} (h : Nested t.request depth t.frames) :
    (t.refreshed w layer startedAt outcome).2.Shaped := by
  cases outcome with
  | value v =>
      show (t.install w layer startedAt v).2.Shaped
      unfold install settle
      split
      · exact ⟨_, h⟩
      · split
        · exact ⟨_, h⟩
        · exact ⟨_, h⟩
  | failed f => exact ⟨_, h⟩
  | crashed => exact ⟨_, h⟩

theorem shaped_retried {layer : Nat} {force : Bool} {outcome : Outcome V}
    (h : Nested t.request (2 * layer + 2) t.frames) :
    (t.retried w layer force outcome).2.Shaped := by
  unfold retried
  split
  · split
    · have hn : Nested t.request (2 * (layer + 1)) t.frames := h
      exact Nested.lower hn (by omega)
    · exact ⟨_, h⟩
  · exact ⟨_, h⟩

theorem shaped_bridged {layer depth : Nat} {force : Bool} {outcome : Outcome V}
    (h : Nested t.request depth t.frames) : (t.bridged w layer force outcome).2.Shaped := by
  unfold bridged
  split
  · split
    · exact ⟨_, h⟩
    · exact ⟨_, h⟩
  · split
    · exact ⟨_, h⟩
    · exact ⟨_, h⟩
  · exact ⟨_, h⟩

theorem shaped_observed {layer depth : Nat} {outcome : Outcome V}
    (h : Nested t.request depth t.frames) : (t.observed w layer outcome).2.Shaped := by
  unfold observed
  split
  · exact ⟨_, h⟩
  · exact ⟨_, h⟩
  · exact ⟨_, h⟩

theorem shaped_queried {layer seen : Nat} {outcome : Outcome V} (hf : t.frames = []) :
    (t.queried w layer seen outcome).2.Shaped := by
  unfold queried
  split
  · exact hf
  · exact hf

theorem shaped_deliver [Perishable V] {outcome : Outcome V} (h : t.Shaped)
    (control : t.control = .deliver outcome) : (t.deliver w outcome).2.Shaped := by
  obtain ⟨depth, hn⟩ : ∃ depth, Nested t.request depth t.frames := by
    simpa [Shaped, control] using h
  rw [deliver]
  split
  next hf => exact hf
  next f frames hf =>
    rw [hf] at hn
    cases f with
    | retry layer force => exact shaped_retried hn.2
    | outage layer force => exact shaped_bridged hn.2
    | health layer => exact shaped_observed hn.2
    | load layer startedAt => exact shaped_refreshed hn.2
    | query layer seen => exact shaped_queried hn.2
    | job layer job retryAfter => exact shaped_jobDone hn.2.1 hn.2.2
    | timer layer job firedAt => exact shaped_timerDone hn.2.1 hn.2.2

theorem shaped_ask [Source σ V C] {refresh : Bool} (hr : t.request = .health refresh)
    (hf : t.frames = []) : (t.ask w refresh).2.Shaped := by
  rw [ask]
  split
  · exact hf
  · split
    · split
      · simp only
        split <;> exact ⟨⟨refresh, hr⟩, hf⟩
      · exact hf
    · exact hf

theorem shaped_start [Source σ V C] (hf : t.frames = []) : (t.start w).2.Shaped := by
  rw [start]
  split
  next force hr => exact (show Nested t.request _ t.frames by rw [hf]; exact ⟨force, hr⟩)
  next refresh hr => exact shaped_ask hr hf
  next =>
    rw [close]
    simp only
    split <;> exact hf
  next => exact hf
  next => exact hf
  next layer hr => exact ⟨hr, hf⟩

/-- Every step keeps the shape of the task. -/
theorem shaped_step [Source σ V C] [Perishable V] {favoured : Signal} (h : t.Shaped) :
    (t.step w favoured).2.Shaped := by
  have hadvance : (t.advance w favoured).2.Shaped := by
    rw [advance]
    split
    next control => exact shaped_start (by simpa [Shaped, control] using h)
    next control => exact shaped_enter (by simpa [Shaped, control] using h)
    next control => exact shaped_callSource (by simpa [Shaped, control] using h)
    next control => exact shaped_acquire (by simpa [Shaped, control] using h)
    next control => exact shaped_stopWaiting h control
    next control => exact shaped_refresh (by simpa [Shaped, control] using h)
    next control => exact shaped_resumeCall h control
    next control => exact shaped_deliver h control
    next control =>
      obtain ⟨hr, hf⟩ : t.request = .work _ ∧ t.frames = [] := by
        simpa [Shaped, control] using h
      exact shaped_listen hr hf
    next control =>
      obtain ⟨hr, hf⟩ : t.request = .work _ ∧ t.frames = [] := by
        simpa [Shaped, control] using h
      exact shaped_listen hr hf
    next control =>
      split
      · exact (show t.frames = [] by simpa [Shaped, control] using h)
      · exact h
    next control => exact (show t.frames = [] by simpa [Shaped, control] using h)
    next control => exact h
  rw [step]
  split
  · exact shaped_retire
  · exact hadvance

end Task

end CredentialSupply
