import CredentialSupply.Proofs.Stack

set_option autoImplicit false

/-!
# What a step has to do with the sources

`Contact` lists what one step of a task does to the sources of a stack, and how it can crash or end
a worker: a call of a source starts or goes on, a request closes the stack, an addition to the clock
has no room, or nothing of that kind happens (`contact_step`). `SourceMove` is what this makes of
the stack's own source with each move of a machine (`sourceMove`).
-/

namespace CredentialSupply

variable {V σ C : Type}

/-! ## The sources of a world -/

namespace World

/-- The stack's own source and the other ones. -/
def sources (w : World V σ) : σ × List σ := (w.source, w.others)

@[simp] theorem sources_count (w : World V σ) (meter : Nat) (event : Event) :
    (w.count meter event).sources = w.sources := rfl

@[simp] theorem sources_mapCache (w : World V σ) (i : Nat) (f : Cache V → Cache V) :
    (w.mapCache i f).sources = w.sources := rfl

@[simp] theorem sources_mapEarly (w : World V σ) (i : Nat) (f : EarlyRefresh → EarlyRefresh) :
    (w.mapEarly i f).sources = w.sources := rfl

@[simp] theorem sources_setLayer (w : World V σ) (i : Nat) (l : Layer V) :
    (w.setLayer i l).sources = w.sources := rfl

@[simp] theorem sources_wake (w : World V σ) (id : TaskId) : (w.wake id).sources = w.sources := by
  rw [wake]
  split <;> rfl

@[simp] theorem sources_rouse (w : World V σ) (i : Nat) : (w.rouse i).sources = w.sources := by
  obtain ⟨ready, h⟩ := w.exists_rouse_eq i
  rw [h]
  rfl

@[simp] theorem sources_release (w : World V σ) (i : Nat) :
    (w.release i).sources = w.sources := by
  rw [release]
  split
  · rfl
  · simp only
    split <;> simp

@[simp] theorem sources_withdraw (w : World V σ) (i : Nat) (id : TaskId) :
    (w.withdraw i id).sources = w.sources := by
  rw [withdraw]
  split
  · rfl
  · split <;> simp

@[simp] theorem sources_stopWorker (w : World V σ) (i : Nat) :
    (w.stopWorker i).sources = w.sources := by
  rw [stopWorker]
  split
  · rfl
  · split <;> simp

/-- What changes no source at any step of a fold changes none. -/
theorem sources_foldl {α : Type} (f : World V σ → α → World V σ)
    (h : ∀ w a, (f w a).sources = w.sources) (as : List α) (w : World V σ) :
    (as.foldl f w).sources = w.sources := by
  induction as generalizing w with
  | nil => rfl
  | cons a as ih => rw [List.foldl_cons, ih, h]

@[simp] theorem sources_stopWorkers (w : World V σ) : w.stopWorkers.sources = w.sources :=
  sources_foldl _ (fun w i => sources_stopWorker w i) _ w

theorem sources_stopQueueing (id : TaskId) (w : World V σ) (control : Control V C) :
    (Task.stopQueueing id w control).sources = w.sources := by
  unfold Task.stopQueueing
  split
  · exact sources_withdraw w _ _
  · rfl

theorem sources_stopLoading (id : TaskId) (w : World V σ) (f : Frame) :
    (Task.stopLoading id w f).sources = w.sources := by
  unfold Task.stopLoading
  split
  · exact sources_withdraw w _ _
  · rfl

end World

/-! ## Crashes and ends -/

/-- Whether a task with this control has crashed or is about to. -/
def Control.isCrash : Control V C → Bool
  | .deliver .crashed | .ended (.fetched .crashed) _ | .ended (.health .crashed) _ => true
  | _ => false

/-- Whether the task neither waits for a source nor has crashed nor has ended, and does not rest
where it should work. -/
def Task.isPlain (t : Task V C) : Bool :=
  match t.control with
  | .calling _ _ _ | .deliver .crashed | .ended _ _ => false
  | .resting _ | .joining _ => !t.request.isWork
  | _ => true

/-- The instant at which the timer fired that a frame is about. -/
def Frame.firedAt? : Frame → Option Instant
  | .timer _ _ firedAt => some firedAt
  | _ => none

/-- What makes a step of a task crash: a crash that is passed on, a cache that is not there, or an
addition to the clock that has no room. -/
inductive Task.Crashes (t : Task V C) (w : World V σ) : Prop
  | passed (control : t.control = .deliver .crashed)
  | unlocked {layer seen : Nat} {force : Bool}
      (control : t.control = .acquire layer seen force ∨
        ∃ deadline, t.control = .queued layer seen force deadline)
      (missing : w.cache? layer = none)
  | unloaded {layer : Nat} {startedAt : Instant} {frames : List Frame}
      (head : t.frames = .load layer startedAt :: frames) (missing : w.cache? layer = none)
  | window {layer : Nat} {c : Cache V} {r : EarlyRefresh} (cache : w.cache? layer = some c)
      (early : c.early = some r) (beyond : w.now.later? r.window = none)
  | stay {layer : Nat} {c : Cache V} (cache : w.cache? layer = some c)
      (beyond : w.now.later? c.settings.lifetime.timeToLive = none)
  | outage {layer : Nat} {timeToLive : Span} {stored : Option (Entry V)}
      (here : w.layers[layer]? = some (.outage timeToLive stored))
      (beyond : w.now.later? timeToLive = none)

/-- What makes a worker end: it has been told to, it crashed, its post is not there, or its pause
has no room. -/
inductive Task.Retires (t : Task V C) (w : World V σ) : Prop
  | told (stopped : t.isStopped w = true)
  | crashed (control : t.control = .deliver .crashed)
  | homeless {layer : Nat} (control : (∃ retryAfter, t.control = .attend layer retryAfter) ∨
        ∃ retryAfter deadline, t.control = .listening layer retryAfter deadline)
      (missing : w.early? layer = none)
  | pause {firedAt : Instant} (fired : firedAt = w.now ∨
        ∃ layer job frames, t.frames = .timer layer job firedAt :: frames)
      (beyond : firedAt.later? EarlyRefresh.retryPause = none)

/-! ## What a step does -/

namespace Task

/-- What one step of a task that leads to `next` has to do with the sources, with crashes and with
the end of a worker. -/
inductive Contact [Source σ V C] (t : Task V C) (w : World V σ) : World V σ × Task V C → Prop
  /-- The task goes on. A timer that a new frame is about has just fired. -/
  | plain {w' : World V σ} {t' : Task V C} (sources : w'.sources = w.sources)
      (plain : t'.isPlain = true)
      (timers : ∀ f ∈ t'.frames, f ∈ t.frames ∨ ∀ firedAt ∈ f.firedAt?, firedAt = w.now) :
      Contact t w (w', t')
  /-- The task goes on waiting, or has ended. -/
  | stay : Contact t w (w, t)
  /-- The request of the task has been answered. -/
  | finish {w' : World V σ} {t' : Task V C} {answer : Answer V} (sources : w'.sources = w.sources)
      (foreground : t.request.isWork = false ∨ (∃ due, t.control = .resting due) ∨
        ∃ task, t.control = .joining task)
      (control' : t'.control = .ended answer w.now) (fine : t'.control.isCrash = false) :
      Contact t w (w', t')
  /-- A worker ends. -/
  | retire {w' : World V σ} {t' : Task V C} {answeredAt : Instant}
      (sources : w'.sources = w.sources) (cause : t.Retires w)
      (control' : t'.control = .ended .nothing answeredAt) :
      Contact t w (w', t')
  | crash {w' : World V σ} {t' : Task V C} (sources : w'.sources = w.sources)
      (cause : t.Crashes w) (control' : t'.control.isCrash = true) : Contact t w (w', t')
  /-- A call of a source starts. -/
  | start {w' : World V σ} {source : Option Nat} {force : Bool} {s : σ}
      (control : t.control = .call source force) (here : w.source? source = some s)
      (sources : w'.sources = (w.setSource (Source.start force w.now s).1 source).sources) :
      Contact t w (w', t.await source (Source.start force w.now s).2)
  /-- A call of a source goes on. -/
  | resume {w' : World V σ} {source : Option Nat} {due : Instant} {call : C} {s : σ}
      (control : t.control = .calling source due call) (here : w.source? source = some s)
      (reached : due.ceilMilli ≤ w.now)
      (sources : w'.sources = (w.setSource (Source.resume call w.now s).1 source).sources) :
      Contact t w (w', t.await source (Source.resume call w.now s).2)
  /-- The stack is closed. -/
  | close {w' : World V σ} {t' : Task V C} (control : t.control = .begin)
      (request : t.request = .close)
      (sources : w'.sources = ((Source.close w.now w.source).1, w.others))
      (control' : (∃ due, t'.control = .resting due) ∨ t'.control = .ended .nothing w.now) :
      Contact t w (w', t')

/-- One step of a task that leads to `next` starts a call of a source, or goes on with one, which
then comes so far. -/
inductive Calls [Source σ V C] (t : Task V C) (w : World V σ) :
    Option Nat → World V σ × Task V C → Progress V C → Prop
  | start {w' : World V σ} {source : Option Nat} {force : Bool} {s : σ}
      (control : t.control = .call source force) (here : w.source? source = some s)
      (sources : w'.sources = (w.setSource (Source.start force w.now s).1 source).sources) :
      Calls t w source (w', t.await source (Source.start force w.now s).2)
        (Source.start force w.now s).2
  | resume {w' : World V σ} {source : Option Nat} {due : Instant} {call : C} {s : σ}
      (control : t.control = .calling source due call) (here : w.source? source = some s)
      (sources : w'.sources = (w.setSource (Source.resume call w.now s).1 source).sources) :
      Calls t w source (w', t.await source (Source.resume call w.now s).2)
        (Source.resume call w.now s).2

variable [Source σ V C] {t : Task V C} {w : World V σ}

theorem contact_goto {x : Control V C} {frames : List Frame} {w' : World V σ}
    (sources : w'.sources = w.sources) (suffix : frames <:+ t.frames)
    (plain : (Task.goto { t with frames } x).isPlain = true) :
    Contact t w (w', Task.goto { t with frames } x) :=
  .plain sources plain fun _ hf => Or.inl (suffix.subset hf)

theorem contact_push {x : Control V C} {f : Frame} {w' : World V σ}
    (sources : w'.sources = w.sources) (timer : ∀ firedAt ∈ f.firedAt?, firedAt = w.now)
    (plain : (t.push f x).isPlain = true) : Contact t w (w', t.push f x) := by
  refine .plain sources plain fun g hg => ?_
  rcases List.mem_cons.1 hg with rfl | hg
  · exact Or.inr timer
  · exact Or.inl hg

theorem contact_pass {outcome : Outcome V} {frames : List Frame} {w' : World V σ}
    (sources : w'.sources = w.sources) (suffix : frames <:+ t.frames) (h : outcome ≠ .crashed) :
    Contact t w (w', Task.pass { t with frames } outcome) := by
  refine contact_goto sources suffix ?_
  cases outcome <;> first | rfl | exact absurd rfl h

theorem contact_crash {frames : List Frame} {w' : World V σ} (sources : w'.sources = w.sources)
    (cause : t.Crashes w) : Contact t w (w', Task.pass { t with frames } .crashed) :=
  .crash sources cause rfl

theorem contact_lookUp {layer : Nat} {c : Cache V} {force : Bool}
    (here : w.layers[layer]? = some (.cache c)) : Contact t w (t.lookUp w layer c force) := by
  rw [lookUp]
  split
  · exact contact_goto rfl (List.suffix_refl _) rfl
  next e _ =>
    split
    next hn =>
      unfold Cache.noticed? at hn
      split at hn
      · cases hn
      next r hr =>
        exact contact_crash rfl
          (.window ((World.cache?_eq_some_iff w layer c).2 here) hr (Option.map_eq_none_iff.1 hn))
    · exact contact_pass (by simp) (List.suffix_refl _) (by simp)

theorem contact_throttle {layer : Nat} {b : TokenBucket} {force : Bool} :
    Contact t w (t.throttle w layer b force) := by
  simp only [throttle]
  split
  · exact contact_goto rfl (List.suffix_refl _) rfl
  · exact contact_pass rfl (List.suffix_refl _) (by simp)

theorem contact_enter {level : Nat} {force : Bool} : Contact t w (t.enter w level force) := by
  have hpush : ∀ {f : Frame} {x : Control V C}, f.firedAt? = none →
      (t.push f x).isPlain = true → Contact t w (w, t.push f x) := by
    intro f x hf hx
    exact contact_push rfl (by simp [hf]) hx
  unfold enter
  split
  · exact contact_goto rfl (List.suffix_refl _) rfl
  · split
    next here => exact contact_goto rfl (List.suffix_refl _) rfl
    next here => exact hpush rfl rfl
    next here => exact hpush rfl rfl
    next here => exact contact_throttle
    next here => exact hpush rfl rfl
    next here => exact contact_lookUp here

theorem contact_callSource {source : Option Nat} {force : Bool}
    (control : t.control = .call source force) : Contact t w (t.callSource w source force) := by
  rw [callSource]
  split
  · exact contact_pass rfl (List.suffix_refl _) (by simp)
  next s here => exact .start control here rfl

theorem contact_resumeCall {source : Option Nat} {due : Instant} {call : C}
    (control : t.control = .calling source due call) :
    Contact t w (t.resumeCall w source due call) := by
  rw [resumeCall]
  split
  next reached =>
    split
    · exact contact_pass rfl (List.suffix_refl _) (by simp)
    next s here => exact .resume control here reached rfl
  · exact .stay

/-! ### The lock -/

theorem contact_acquire {layer seen : Nat} {force : Bool}
    (control : t.control = .acquire layer seen force) :
    Contact t w (t.acquire w layer seen force) := by
  rw [acquire]
  split
  next missing => exact contact_crash rfl (.unlocked (Or.inl control) missing)
  · simp only
    split
    · exact contact_goto rfl (List.suffix_refl _) rfl
    · exact contact_goto rfl (List.suffix_refl _) rfl

theorem contact_stopWaiting {layer seen : Nat} {force : Bool} {deadline : Option Instant}
    (control : t.control = .queued layer seen force deadline) :
    Contact t w (t.stopWaiting w layer seen force deadline) := by
  rw [stopWaiting]
  split
  next missing => exact contact_crash rfl (.unlocked (Or.inr ⟨deadline, control⟩) missing)
  · split
    · exact contact_goto rfl (List.suffix_refl _) rfl
    · split
      · exact contact_pass rfl (List.suffix_refl _) (by simp)
      · exact .stay

theorem contact_settle {layer : Nat} {e : Entry V} {frames : List Frame} {w' : World V σ}
    (sources : w'.sources = w.sources) (suffix : frames <:+ t.frames) :
    Contact t w (Task.settle { t with frames } w' layer e) := by
  refine contact_pass ((World.sources_release w' layer).trans sources) suffix ?_
  split <;> simp

theorem contact_refresh {layer seen : Nat} {force : Bool} :
    Contact t w (t.refresh w layer seen force) := by
  unfold refresh
  split
  · exact contact_settle rfl (List.suffix_refl _)
  · exact contact_push rfl (by simp [Frame.firedAt?]) rfl

/-! ### Workers -/

theorem contact_retire {layer : Nat} {w' : World V σ} (sources : w'.sources = w.sources)
    (cause : t.Retires w) {frames : List Frame} :
    Contact t w (Task.retire { t with frames } w' layer) :=
  .retire sources cause rfl

theorem contact_pause {layer : Nat} {firedAt : Instant} {w' : World V σ} {frames : List Frame}
    (sources : w'.sources = w.sources) (suffix : frames <:+ t.frames) (fired : firedAt = w.now ∨
      ∃ layer job frames, t.frames = .timer layer job firedAt :: frames) :
    Contact t w (Task.pause { t with frames } w' layer firedAt) := by
  rw [pause]
  split
  next beyond => exact contact_retire sources (.pause fired beyond)
  · exact contact_goto sources suffix rfl

theorem contact_fireTimer {layer : Nat} {c : Cache V} {r : EarlyRefresh} :
    Contact t w (t.fireTimer w layer c r) := by
  simp only [fireTimer]
  split
  · exact contact_goto rfl (List.suffix_refl _) rfl
  · split
    · exact contact_pause rfl (List.suffix_refl _) (Or.inl rfl)
    · exact contact_push rfl (by simp [Frame.firedAt?]) rfl

theorem contact_follow? {layer : Nat} {retryAfter deadline : Option Instant} {c : Cache V}
    {r : EarlyRefresh} {signal : Signal} {next : World V σ × Task V C}
    (h : t.follow? w layer retryAfter deadline c r signal = some next) : Contact t w next := by
  cases signal <;> simp only [follow?] at h <;> split at h <;> cases h
  · exact contact_push rfl (by simp [Frame.firedAt?]) rfl
  · exact contact_goto rfl (List.suffix_refl _) rfl
  · exact contact_fireTimer

theorem contact_listen {favoured : Signal} {layer : Nat} {retryAfter deadline : Option Instant}
    (control : (∃ retryAfter, t.control = .attend layer retryAfter) ∨
      ∃ retryAfter deadline, t.control = .listening layer retryAfter deadline) :
    Contact t w (t.listen w favoured layer retryAfter deadline) := by
  rw [listen]
  split
  · split
    next next h =>
      obtain ⟨signal, -, hs⟩ := List.exists_of_findSome?_eq_some h
      exact contact_follow? hs
    · exact contact_goto rfl (List.suffix_refl _) rfl
  next missing =>
    -- the post is gone with its cache, or with the early refresh of that cache
    refine contact_retire rfl (.homeless control ?_)
    cases hr : w.early? layer with
    | none => rfl
    | some r =>
        obtain ⟨c, hc, -⟩ := Option.bind_eq_some_iff.1 hr
        exact absurd hr (missing c r hc)

/-! ### Outcomes -/

/-- An outcome is passed on. -/
theorem contact_onward {outcome : Outcome V} {frames : List Frame} {w' : World V σ}
    (control : t.control = .deliver outcome) (sources : w'.sources = w.sources)
    (suffix : frames <:+ t.frames) : Contact t w (w', Task.pass { t with frames } outcome) := by
  cases outcome with
  | crashed => exact contact_crash sources (.passed control)
  | value v => exact contact_pass sources suffix (by simp)
  | failed f => exact contact_pass sources suffix (by simp)

theorem contact_retried {layer : Nat} {force : Bool} {frames : List Frame} {outcome : Outcome V}
    (control : t.control = .deliver outcome) (suffix : frames <:+ t.frames) :
    Contact t w (Task.retried { t with frames } w layer force outcome) := by
  unfold retried
  split
  · split
    · exact contact_goto rfl suffix rfl
    · exact contact_onward control rfl suffix
  · exact contact_onward control rfl suffix

theorem contact_bridged {layer : Nat} {force : Bool} {frames : List Frame} {outcome : Outcome V}
    (control : t.control = .deliver outcome) (suffix : frames <:+ t.frames) :
    Contact t w (Task.bridged { t with frames } w layer force outcome) := by
  unfold bridged
  split
  next here =>
    split
    next beyond => exact contact_crash rfl (.outage here beyond)
    · exact contact_onward control rfl suffix
  next here =>
    split
    · exact contact_pass rfl suffix (by simp)
    · exact contact_onward control rfl suffix
  · exact contact_onward control rfl suffix

theorem contact_observed {layer : Nat} {frames : List Frame} {outcome : Outcome V}
    (control : t.control = .deliver outcome) (suffix : frames <:+ t.frames) :
    Contact t w (Task.observed { t with frames } w layer outcome) := by
  unfold observed
  split <;> exact contact_onward control rfl suffix

theorem contact_refreshed [Perishable V] {layer : Nat} {startedAt : Instant} {frames : List Frame}
    {outcome : Outcome V} (control : t.control = .deliver outcome)
    (head : t.frames = .load layer startedAt :: frames) :
    Contact t w (Task.refreshed { t with frames } w layer startedAt outcome) := by
  have suffix : frames <:+ t.frames := by
    rw [head]
    exact List.suffix_cons _ frames
  cases outcome with
  | value v =>
      simp only [refreshed, install]
      split
      next missing => exact contact_crash rfl (.unloaded head missing)
      next c hc =>
        split
        next hnone =>
          -- no entry comes of a value only if the clock does not reach the end of its stay
          refine contact_crash (World.sources_release w layer) (.stay hc ?_)
          cases hlater : w.now.later? c.settings.lifetime.timeToLive with
          | none => rfl
          | some later =>
              obtain ⟨e, he⟩ :=
                c.settings.lifetime.entry?_isSome v (Option.isSome_iff_exists.2 ⟨later, hlater⟩)
              rw [hnone] at he
              cases he
        · exact contact_settle (by simp) suffix
  | failed f => exact contact_pass (by simp) suffix (by simp)
  | crashed => exact contact_crash (World.sources_release w layer) (.passed control)

theorem contact_queried {layer seen : Nat} {frames : List Frame} {outcome : Outcome V}
    (control : t.control = .deliver outcome) (foreground : t.request.isWork = false) :
    Contact t w (Task.queried { t with frames } w layer seen outcome) := by
  unfold queried
  split
  · exact .crash rfl (.passed control) rfl
  · exact .finish rfl (Or.inl foreground) rfl rfl

theorem contact_jobDone {layer : Nat} {job : RefreshJob} {retryAfter : Option Instant}
    {frames : List Frame} {outcome : Outcome V} (control : t.control = .deliver outcome)
    (suffix : frames <:+ t.frames) :
    Contact t w (Task.jobDone { t with frames } w layer job retryAfter outcome) := by
  cases outcome with
  | value v => exact contact_goto rfl suffix rfl
  | failed f => exact contact_goto rfl suffix rfl
  | crashed => exact contact_retire rfl (.crashed control)

theorem contact_timerDone {layer : Nat} {job : RefreshJob} {firedAt : Instant}
    {frames : List Frame} {outcome : Outcome V} (control : t.control = .deliver outcome)
    (head : t.frames = .timer layer job firedAt :: frames) :
    Contact t w (Task.timerDone { t with frames } w layer job firedAt outcome) := by
  have suffix : frames <:+ t.frames := by
    rw [head]
    exact List.suffix_cons _ frames
  cases outcome with
  | value v => exact contact_goto rfl suffix rfl
  | failed f => exact contact_pause rfl suffix (Or.inr ⟨layer, job, frames, head⟩)
  | crashed => exact contact_retire rfl (.crashed control)

theorem contact_deliver [Perishable V] {outcome : Outcome V} (shaped : t.Shaped)
    (control : t.control = .deliver outcome) : Contact t w (t.deliver w outcome) := by
  rw [deliver]
  split
  next hf =>
    obtain ⟨depth, hn⟩ : ∃ depth, Nested t.request depth t.frames := by
      rwa [Task.Shaped, control] at shaped
    obtain ⟨force, request⟩ : ∃ force, t.request = .fetch force := by rwa [hf] at hn
    cases outcome with
    | crashed => exact .crash rfl (.passed control) rfl
    | value v => exact .finish rfl (Or.inl (by rw [request]; rfl)) rfl rfl
    | failed f => exact .finish rfl (Or.inl (by rw [request]; rfl)) rfl rfl
  next f frames hf =>
    have suffix : frames <:+ t.frames := by
      rw [hf]
      exact List.suffix_cons f frames
    cases f with
    | retry layer force => exact contact_retried control suffix
    | outage layer force => exact contact_bridged control suffix
    | health layer => exact contact_observed control suffix
    | load layer startedAt => exact contact_refreshed control hf
    | query layer seen =>
        obtain ⟨depth, ⟨refresh, request⟩, -⟩ := shaped.of_deliver control hf
        exact contact_queried control (by rw [request]; rfl)
    | job layer job retryAfter => exact contact_jobDone control suffix
    | timer layer job firedAt => exact contact_timerDone control hf

/-! ### Requests -/

theorem contact_ask {refresh : Bool} (request : t.request = .health refresh) :
    Contact t w (t.ask w refresh) := by
  have hfinish : ∀ a : Outcome (Option Bool), a ≠ .crashed →
      Contact t w (t.finish w (.health a)) := by
    intro a ha
    refine .finish rfl (Or.inl (by rw [request]; rfl)) rfl ?_
    cases a <;> first | rfl | exact absurd rfl ha
  rw [ask]
  split
  · exact hfinish _ (by simp)
  · split
    · split
      · refine contact_push rfl (by simp [Frame.firedAt?]) ?_
        split <;> rfl
      · exact hfinish _ (by simp)
    · exact hfinish _ (by simp)

theorem contact_close (control : t.control = .begin) (request : t.request = .close) :
    Contact t w (t.close w) := by
  have hnow : w.stopWorkers.now = w.now := congrArg Content.now (World.content_stopWorkers w)
  have hsources := World.sources_stopWorkers w
  have hsource : w.stopWorkers.source = w.source := congrArg Prod.fst hsources
  have hothers : w.stopWorkers.others = w.others := congrArg Prod.snd hsources
  rw [close]
  simp only [hnow, hsource]
  split
  · refine .close control request ?_ (Or.inr ?_)
    · simp only [World.sources, hothers]
    · simp only [goto]
  · refine .close control request ?_ (Or.inl ⟨_, rfl⟩)
    simp only [World.sources, hothers]

theorem contact_start (control : t.control = .begin) : Contact t w (t.start w) := by
  rw [start]
  split
  · exact contact_goto rfl (List.suffix_refl _) rfl
  next request => exact contact_ask request
  next request => exact contact_close control request
  next request =>
    exact contact_goto rfl (List.suffix_refl _) (by simp [isPlain, goto, request, Request.isWork])
  next request =>
    exact contact_goto rfl (List.suffix_refl _) (by simp [isPlain, goto, request, Request.isWork])
  · exact contact_goto rfl (List.suffix_refl _) rfl

/-- The list is complete. -/
theorem contact_step [Perishable V] {favoured : Signal} (shaped : t.Shaped) :
    Contact t w (t.step w favoured) := by
  have hadvance : Contact t w (t.advance w favoured) := by
    rw [advance]
    split
    next control => exact contact_start control
    · exact contact_enter
    next control => exact contact_callSource control
    next control => exact contact_acquire control
    next control => exact contact_stopWaiting control
    · exact contact_refresh
    next control => exact contact_resumeCall control
    next control => exact contact_deliver shaped control
    next control => exact contact_listen (Or.inl ⟨_, control⟩)
    next control => exact contact_listen (Or.inr ⟨_, _, control⟩)
    next control =>
      split
      · exact .finish rfl (Or.inr (Or.inl ⟨_, control⟩)) rfl rfl
      · exact .stay
    next control => exact .finish rfl (Or.inr (Or.inr ⟨_, control⟩)) rfl rfl
    · exact .stay
  rw [step]
  split
  next layer hr hstopped =>
    -- a worker that was told to end gives back what it holds, and ends whatever it was about
    refine contact_retire ?_ (.told hstopped)
    rw [World.sources_foldl _ (fun w f => World.sources_stopLoading t.id w f),
      World.sources_stopQueueing]
  · exact hadvance

end Task

/-! ## Moves -/

namespace Machine

theorem sources_reclaim (m : Machine V σ C) : m.reclaim.world.sources = m.world.sources := by
  rw [reclaim]
  split
  · exact World.sources_stopWorkers m.world
  · rfl

/-- A task with another control than a call that waits leaves the calls that wait as they are. -/
theorem calls_of_set {m n : Machine V σ C} {id : TaskId} {x : Task V C}
    (tasks : n.tasks = m.tasks.set id x)
    (h : ∀ due call, x.control ≠ .calling none due call) (i : Nat) (t : Task V C) (due : Instant)
    (call : C) (task : n.tasks[i]? = some t) (control : t.control = .calling none due call) :
    m.tasks[i]? = some t := by
  rw [tasks] at task
  rcases getElem?_set_cases task with ⟨-, rfl⟩ | ⟨-, task⟩
  · exact absurd control (h due call)
  · exact task

section Moves

variable [Source σ V C] {m n : Machine V σ C}

/-- What a move from `m` to `n` has to do with the sources. -/
inductive ContactMove (m n : Machine V σ C) : Prop where
  /-- The running task makes a step. -/
  | turn {id : TaskId} {t : Task V C} {next : World V σ × Task V C} (running : m.running = some id)
      (task : m.tasks[id]? = some t) (contact : t.Contact m.world next)
      (sources : n.world.sources = next.1.sources) (tasks : n.tasks = m.tasks.set id next.2)
  /-- No task changes, and at most a request arrives. -/
  | rest (sources : n.world.sources = m.world.sources)
      (tasks : ∀ (i : Nat) (t : Task V C), n.tasks[i]? = some t → m.tasks[i]? = some t ∨
        ∃ request : Request, request.isWork = false ∧ t = Task.fresh i request)

theorem sources_advance [Perishable V] {id : TaskId} {t : Task V C} (favoured : Signal)
    (task : m.tasks[id]? = some t) :
    (m.advance favoured id).world.sources = (t.step m.world favoured).1.sources := by
  rw [Machine.advance, task]
  simp only
  split
  · rw [sources_reclaim]
    exact World.sources_foldl _ (fun w (t : Task V C) => World.sources_wake w t.id) _ _
  · rfl

/-- With the move from `m` to `n` a task starts a call of a source, or goes on with one, which then
comes so far. -/
def CallMove (m n : Machine V σ C) (id : TaskId) (source : Option Nat) (progress : Progress V C) :
    Prop :=
  ∃ t next, m.running = some id ∧ m.tasks[id]? = some t ∧ t.Calls m.world source next progress ∧
    n.world.sources = next.1.sources ∧ n.tasks = m.tasks.set id next.2

/-- A call of the stack's own source whose wait is over goes on. -/
theorem callMove_of_due [Perishable V] {id : TaskId} {t : Task V C} {due : Instant} {call : C}
    (favoured : Signal) (running : m.running = some id) (task : m.tasks[id]? = some t)
    (control : t.control = .calling none due call) (reached : due.ceilMilli ≤ m.world.now)
    (goes : t.isStopped m.world = false) :
    CallMove m (m.advance favoured id) id none
      (Source.resume call m.world.now m.world.source).2 := by
  have hstep : t.step m.world favoured =
      (m.world.setSource (Source.resume call m.world.now m.world.source).1 none,
        t.await none (Source.resume call m.world.now m.world.source).2) := by
    rw [Task.step_of_not_stopped goes, Task.advance, control]
    simp only [Task.resumeCall, if_pos reached]
    rfl
  refine ⟨t, _, running, task, ?_, sources_advance favoured task, (advanced favoured task).tasks⟩
  rw [hstep]
  exact .resume control rfl rfl

theorem contactMove [Perishable V] (sound : m.Sound) (move : Move m n) : ContactMove m n := by
  cases move with
  | @advance id favoured running =>
      cases task : m.tasks[id]? with
      | none =>
          refine .rest ?_ fun i t ht => Or.inl ?_
          · simp [Machine.advance, task]
          · simpa [Machine.advance, task] using ht
      | some t =>
          exact .turn running task (Task.contact_step (sound.shaped id t task))
            (sources_advance favoured task) (advanced favoured task).tasks
  | resume idle ready => exact .rest rfl fun i t ht => Or.inl ht
  | @arrive request idle foreground =>
      refine .rest (World.sources_wake m.world _) fun i t ht => ?_
      rcases getElem?_snoc ht with ht | ⟨rfl, rfl⟩
      · exact Or.inl ht
      · exact Or.inr ⟨request, foreground, rfl⟩
  | pass instant idle =>
      refine .rest ?_ fun i t ht => Or.inl ht
      exact World.sources_foldl _ (fun w (t : Task V C) => World.sources_wake w t.id) _ _
  | drop idle =>
      refine .rest (sources_reclaim _) fun i t ht => Or.inl ?_
      rwa [drop, tasks_reclaim] at ht

/-- What a move from `m` to `n` makes of the stack's own source and of the calls of it that wait. -/
inductive SourceMove (m n : Machine V σ C) : Prop where
  /-- The source stays as it is, and no call of it begins to wait. -/
  | rest (source : n.world.source = m.world.source)
      (calls : ∀ (i : Nat) (t : Task V C) (due : Instant) (call : C), n.tasks[i]? = some t →
        t.control = .calling none due call → m.tasks[i]? = some t)
  /-- A call starts. -/
  | start {id : TaskId} {t : Task V C} {force : Bool} (running : m.running = some id)
      (task : m.tasks[id]? = some t) (control : t.control = .call none force)
      (source : n.world.source = (Source.start force m.world.now m.world.source).1)
      (tasks : n.tasks =
        m.tasks.set id (t.await none (Source.start force m.world.now m.world.source).2))
  /-- A call goes on. -/
  | resume {id : TaskId} {t : Task V C} {due : Instant} {call : C} (running : m.running = some id)
      (task : m.tasks[id]? = some t) (control : t.control = .calling none due call)
      (source : n.world.source = (Source.resume call m.world.now m.world.source).1)
      (tasks : n.tasks =
        m.tasks.set id (t.await none (Source.resume call m.world.now m.world.source).2))
  /-- The source is closed. -/
  | close {id : TaskId} {t : Task V C} (running : m.running = some id)
      (task : m.tasks[id]? = some t) (request : t.request = .close)
      (source : n.world.source = (Source.close m.world.now m.world.source).1)
      (calls : ∀ (i : Nat) (t : Task V C) (due : Instant) (call : C), n.tasks[i]? = some t →
        t.control = .calling none due call → m.tasks[i]? = some t)

theorem sourceMove (move : ContactMove m n) : SourceMove m n := by
  cases move with
  | rest sources tasks =>
      refine .rest (congrArg Prod.fst sources) fun i t due call task control => ?_
      rcases tasks i t task with h | ⟨request, -, rfl⟩
      · exact h
      · cases control
  | @turn id t next running task contact sources tasks =>
      have hrest : next.1.sources = m.world.sources →
          (∀ due call, next.2.control ≠ .calling none due call) → SourceMove m n := fun h h' =>
        .rest (congrArg Prod.fst (sources.trans h)) (calls_of_set tasks h')
      cases contact with
      | @plain w' t' h plain =>
          refine hrest h fun due call control => ?_
          replace control : t'.control = .calling none due call := control
          simp [Task.isPlain, control] at plain
      | stay =>
          refine .rest (congrArg Prod.fst sources) fun i x due call hx control => ?_
          rw [tasks] at hx
          rcases getElem?_set_cases hx with ⟨rfl, rfl⟩ | ⟨-, hx⟩
          · exact task
          · exact hx
      | finish h foreground control' fine =>
          exact hrest h fun due call control => by rw [control'] at control; cases control
      | retire h cause control' =>
          exact hrest h fun due call control => by rw [control'] at control; cases control
      | crash h cause control' =>
          refine hrest h fun due call control => ?_
          rw [control] at control'
          cases control'
      | @start w' source force s control here h =>
          cases source with
          | none =>
              cases here
              exact .start running task control (congrArg Prod.fst (sources.trans h)) tasks
          | some index =>
              -- a call of another source leaves the stack's own one
              refine .rest (congrArg Prod.fst (sources.trans h)) (calls_of_set tasks ?_)
              intro due call
              cases (Source.start force m.world.now s).2 <;> simp [Task.await, Task.goto, Task.pass]
      | @resume w' source due call s control here reached h =>
          cases source with
          | none =>
              cases here
              exact .resume running task control (congrArg Prod.fst (sources.trans h)) tasks
          | some index =>
              refine .rest (congrArg Prod.fst (sources.trans h)) (calls_of_set tasks ?_)
              intro due call'
              cases (Source.resume call m.world.now s).2 <;>
                simp [Task.await, Task.goto, Task.pass]
      | close control request h control' =>
          refine .close running task request (congrArg Prod.fst (sources.trans h))
            (calls_of_set tasks ?_)
          rcases control' with ⟨due, hcontrol⟩ | hcontrol <;> simp [hcontrol]

/-- No move adds a source or takes one away. -/
theorem others_length_move [Perishable V] (sound : m.Sound) (move : Move m n) :
    n.world.others.length = m.world.others.length := by
  have hlength : ∀ {w w' : World V σ}, w'.sources = w.sources →
      w'.others.length = w.others.length := fun h => congrArg List.length (congrArg Prod.snd h)
  have hset : ∀ (w : World V σ) (s : σ) (source : Option Nat),
      (w.setSource s source).others.length = w.others.length := by
    intro w s source
    cases source <;> simp [World.setSource]
  cases contactMove sound move with
  | rest sources tasks => exact hlength sources
  | turn running task contact sources tasks =>
      rw [hlength sources]
      cases contact with
      | plain h | finish h | retire h | crash h => exact hlength h
      | stay => rfl
      | start control here h => exact (hlength h).trans (hset _ _ _)
      | resume control here reached h => exact (hlength h).trans (hset _ _ _)
      | close control request h => exact congrArg List.length (congrArg Prod.snd h)

end Moves

/-! ## Stacks that have been built -/

section Build

variable {m n : Machine V σ C}

theorem Adds.sources {plan : LayerPlan} (h : m.Adds plan n) :
    n.world.sources = m.world.sources := by
  have hmeter : ∀ ownMeter, (m.addMeter ownMeter).2.world.sources = m.world.sources := by
    intro ownMeter
    rw [addMeter]
    split <;> rfl
  cases h with
  | retry | outage | rateLimit | health => rfl
  | @cache settings ownMeter meter k valid metered =>
      have hsources := hmeter ownMeter
      rw [metered] at hsources
      exact hsources
  | @watched settings ownMeter plan meter k valid window metered =>
      have hsources := hmeter ownMeter
      rw [metered] at hsources
      exact (World.sources_wake _ _).trans hsources

theorem sources_bindTarget (m : Machine V σ C) (layer : Nat) (target : HealthTarget) :
    (m.bindTarget layer target).2.world.sources = m.world.sources := by
  rcases m.bindTarget_cases layer target with heq | ⟨h, -, heq⟩ <;> rw [heq]
  rfl

/-- A stack is built over the sources that it is given. -/
theorem sources_of_build {name : String} {source : σ} {others : List σ} {plans : List LayerPlan}
    {bound : List Bool} (built : build name source others plans = .ok (bound, m)) :
    m.world.sources = (source, others) :=
  build_invariant (P := fun k => k.world.sources = (source, others)) rfl
    (fun _ hk adds => adds.sources.trans hk)
    (fun layer target hk => (sources_bindTarget _ layer target).trans hk) built

end Build

end Machine

end CredentialSupply
