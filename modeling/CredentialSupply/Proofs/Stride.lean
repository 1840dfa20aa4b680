import CredentialSupply.Proofs.Content
import CredentialSupply.Proofs.Turn

set_option autoImplicit false

/-!
# What a step does to a stack

`Stride` lists all that one step of a task can do to the content of a stack, with the guard of each
case and the task afterwards. `strides_step` says that the list is complete. Where `Turn` looks at
one cache and its lock, a stride follows a fetch through all layers, from its start to its answer.
-/

namespace CredentialSupply

variable {V σ C : Type}

/-- Whether a task with this control is not in the middle of a fetch. -/
def Control.isIdle : Control V C → Bool
  | .begin | .attend _ _ | .listening _ _ _ | .resting _ | .joining _ | .ended _ _ => true
  | _ => false

/-- Whether a task with this control has ended a fetch with an answer. -/
def Control.isAnswer : Control V C → Bool
  | .ended (.fetched _) _ => true
  | _ => false

theorem Task.Shaped.frames_of_isIdle {t : Task V C} (shaped : t.Shaped)
    (idle : t.control.isIdle = true) : t.frames = [] := by
  cases hcontrol : t.control <;> simp [Task.Shaped, hcontrol, Control.isIdle] at shaped idle <;>
    first | exact shaped | exact shaped.2

/-- The frame that a layer leaves when a fetch goes through it. -/
def Layer.frame? (layer : Nat) (force : Bool) : Layer V → Option Frame
  | .retry => some (.retry layer force)
  | .outage _ _ => some (.outage layer force)
  | .health _ => some (.health layer)
  | .rateLimit _ | .cache _ => none

/-- Whether a layer left the frame for an outcome on its way. -/
def Frame.isLayer : Frame → Bool
  | .retry _ _ | .outage _ _ | .health _ => true
  | .load _ _ | .query _ _ | .job _ _ _ | .timer _ _ _ => false

/-- Whether a worker has the frame for what it does once it has refreshed. -/
def Frame.isDuty : Frame → Bool
  | .job _ _ _ | .timer _ _ _ => true
  | _ => false

theorem Frame.isLoad_of_isLayer {top : Nat} {f : Frame} (h : f.isLayer = true) :
    f.isLoad top = false := by
  cases f <;> first | rfl | cases h

theorem Frame.isLoad_of_isDuty {top : Nat} {f : Frame} (h : f.isDuty = true) :
    f.isLoad top = false := by
  cases f <;> first | rfl | cases h

/-- Where a health query fetches for a better status than the record of a layer has. -/
def HealthRecord.aim (h : HealthRecord) (layer : Nat) : Control V C :=
  match h.target with
  | some (.level level) => .enter level false
  | some (.source index) => .call (some index) false
  | some .gone | none => .enter (layer + 1) false

/-- Meter of the cache at a layer. -/
def Content.meter (k : Content V) (layer : Nat) : Nat :=
  (((k.layers[layer]?).bind Layer.cache?).map Cache.meter).getD 0

/-- What a step that takes a task from `t` to `t'` makes of the content `k` of a stack. -/
inductive Stride [Perishable V] (t : Task V C) (k : Content V) : Task V C → Content V → Prop where
  /-- The task goes on waiting. -/
  | stay : Stride t k t k
  /-- The task is in no fetch, before and after. -/
  | rest {x : Control V C} (idle : t.control.isIdle = true) (idle' : x.isIdle = true)
      (answer : x.isAnswer = false) : Stride t k (t.goto x) k
  /-- A fetch starts at the top of the stack. -/
  | start {force : Bool} (control : t.control = .begin) (request : t.request = .fetch force) :
      Stride t k (t.goto (.enter k.layers.length force)) k
  /-- A health query starts a fetch. -/
  | query {layer : Nat} {h : HealthRecord} {refresh : Bool} (control : t.control = .begin)
      (request : t.request = .health refresh) (here : k.layers[layer]? = some (.health h)) :
      Stride t k (t.push (.query layer h.observed) (h.aim layer)) k
  /-- A fetch has come through all layers. -/
  | bottom {force : Bool} (control : t.control = .enter 0 force) :
      Stride t k (t.goto (.call none force)) k
  /-- There is no layer below the level. -/
  | skip {layer : Nat} {force : Bool} (control : t.control = .enter (layer + 1) force)
      (missing : k.layers[layer]? = none) : Stride t k (t.goto (.enter layer force)) k
  /-- A layer leaves its frame. -/
  | wrap {layer : Nat} {force : Bool} {l : Layer V} {f : Frame}
      (control : t.control = .enter (layer + 1) force) (here : k.layers[layer]? = some l)
      (frame : l.frame? layer force = some f) : Stride t k (t.push f (.enter layer force)) k
  /-- A rate limit lets a fetch through. -/
  | grant {layer : Nat} {force : Bool} {b b' : TokenBucket}
      (control : t.control = .enter (layer + 1) force)
      (here : k.layers[layer]? = some (.rateLimit b)) :
      Stride t k (t.goto (.enter layer force)) (k.setLayer layer (.rateLimit b'))
  /-- A rate limit refuses a fetch. -/
  | reject {layer : Nat} {force : Bool} {b b' : TokenBucket} {f : Failure}
      (control : t.control = .enter (layer + 1) force)
      (here : k.layers[layer]? = some (.rateLimit b)) :
      Stride t k (t.pass (.failed f)) ((k.setLayer layer (.rateLimit b')).count 0 .rateLimited)
  /-- A lookup finds a valid entry. -/
  | hit {layer : Nat} {c : Cache V} {e : Entry V} (control : t.control = .enter (layer + 1) false)
      (here : k.layers[layer]? = some (.cache c)) (valid : c.valid? k.now = some e) :
      Stride t k (t.pass (.value e.value)) (k.count c.meter .hit)
  /-- A lookup finds no entry that it may serve. -/
  | miss {layer : Nat} {force : Bool} {c : Cache V}
      (control : t.control = .enter (layer + 1) force)
      (here : k.layers[layer]? = some (.cache c)) :
      Stride t k (t.goto (.acquire layer c.generation force)) (k.count c.meter .miss)
  /-- A call of a source starts. -/
  | call {source : Option Nat} {force : Bool} {progress : Progress V C}
      (control : t.control = .call source force) :
      Stride t k (t.await source progress)
        { k with calls := if source.isNone then k.calls ++ [⟨k.now, force, t.id⟩] else k.calls }
  /-- A call of a source goes on. -/
  | resume {source : Option Nat} {due : Instant} {call : C} {progress : Progress V C}
      (control : t.control = .calling source due call) : Stride t k (t.await source progress) k
  /-- The source of a call is missing. -/
  | lost {index : Nat} {f : Failure} (control : (∃ force, t.control = .call (some index) force) ∨
      ∃ due call, t.control = .calling (some index) due call) : Stride t k (t.pass (.failed f)) k
  /-- The task gets the lock of a cache or waits for it. -/
  | ask {layer seen : Nat} {force : Bool} {c : Cache V} {x : Control V C}
      (control : t.control = .acquire layer seen force ∨
        ∃ deadline, t.control = .queued layer seen force deadline)
      (here : k.layers[layer]? = some (.cache c))
      (control' : x = .locked layer seen force ∨
        ∃ deadline, x = .queued layer seen force deadline) :
      Stride t k (t.goto x) k
  /-- The task has waited for too long. -/
  | giveUp {layer seen : Nat} {force : Bool} {deadline : Option Instant} {f : Failure}
      (control : t.control = .queued layer seen force deadline) : Stride t k (t.pass (.failed f)) k
  /-- The holder of the lock takes over an entry. -/
  | adopt {layer seen : Nat} {force : Bool} {c : Cache V} {e : Entry V}
      (control : t.control = .locked layer seen force)
      (here : k.layers[layer]? = some (.cache c)) (newer : c.replacement? seen = some e) :
      Stride t k (t.pass (e.outcome k.now)) k
  /-- The holder of the lock makes an inner call. -/
  | load {layer seen : Nat} {force : Bool} (control : t.control = .locked layer seen force) :
      Stride t k (t.push (.load layer k.now) (.enter layer force)) k
  /-- A fetch ends with its answer. -/
  | answer {outcome : Outcome V} (control : t.control = .deliver outcome) (head : t.frames = []) :
      Stride t k (t.goto (.ended (.fetched outcome) k.now)) k
  /-- The first attempt failed because the source is unavailable. -/
  | retry {layer : Nat} {force : Bool} {frames : List Frame} {f : Failure}
      (control : t.control = .deliver (.failed f))
      (head : t.frames = .retry layer force :: frames) :
      Stride t k (Task.goto { t with frames } (.enter layer force)) (k.count 0 .retried)
  /-- A value is kept for outages. -/
  | store {layer : Nat} {force : Bool} {frames : List Frame} {v : V} {timeToLive : Span}
      {stored : Option (Entry V)} {expiresAt : Instant} (control : t.control = .deliver (.value v))
      (head : t.frames = .outage layer force :: frames)
      (here : k.layers[layer]? = some (.outage timeToLive stored))
      (later : k.now.later? timeToLive = some expiresAt) :
      Stride t k (Task.pass { t with frames } (.value v))
        (k.setLayer layer (.outage timeToLive (some ⟨v, k.now, expiresAt⟩)))
  /-- The kept value is served in an outage. -/
  | serve {layer : Nat} {frames : List Frame} {f : Failure} {timeToLive : Span} {e : Entry V}
      (control : t.control = .deliver (.failed f)) (head : t.frames = .outage layer false :: frames)
      (here : k.layers[layer]? = some (.outage timeToLive (some e)))
      (valid : e.isValid k.now = true) :
      Stride t k (Task.pass { t with frames } (.value e.value)) (k.count 0 .outageServed)
  /-- The health of a call is recorded. -/
  | observe {layer : Nat} {frames : List Frame} {outcome : Outcome V} {h : HealthRecord}
      (control : t.control = .deliver outcome) (head : t.frames = .health layer :: frames)
      (here : k.layers[layer]? = some (.health h)) :
      Stride t k (Task.pass { t with frames } outcome)
        (k.setLayer layer (.health (h.observe outcome.isValue)))
  /-- A layer passes an outcome on. -/
  | pass {f : Frame} {frames : List Frame} {outcome : Outcome V}
      (control : t.control = .deliver outcome) (head : t.frames = f :: frames)
      (layer : f.isLayer = true) : Stride t k (Task.pass { t with frames } outcome) k
  /-- The value of an inner call is installed. -/
  | install {layer : Nat} {startedAt : Instant} {frames : List Frame} {v : V} {c : Cache V}
      {e : Entry V} (control : t.control = .deliver (.value v))
      (head : t.frames = .load layer startedAt :: frames)
      (here : k.layers[layer]? = some (.cache c))
      (entry : c.settings.lifetime.entry? v k.now = some e) :
      Stride t k (Task.pass { t with frames } (e.outcome k.now))
        ((k.setLayer layer (.cache (c.install e))).count c.meter
          (.refreshed (k.now.since startedAt)))
  /-- An inner call has failed. -/
  | fail {layer : Nat} {startedAt : Instant} {frames : List Frame} {f : Failure}
      (control : t.control = .deliver (.failed f))
      (head : t.frames = .load layer startedAt :: frames) :
      Stride t k (Task.pass { t with frames } (.failed f)) (k.count (k.meter layer) .refreshFailed)
  /-- A fetch crashes, or a crash is passed on. -/
  | crash {t' : Task V C} (control' : t'.control = .deliver .crashed)
      (frames' : t'.frames <:+ t.frames) : Stride t k t' k
  /-- The fetch of a health query has ended. -/
  | report {layer seen : Nat} {frames : List Frame} {outcome : Outcome V}
      {status : Outcome (Option Bool)} (control : t.control = .deliver outcome)
      (head : t.frames = .query layer seen :: frames) :
      Stride t k (Task.goto { t with frames } (.ended (.health status) k.now)) k
  /-- A worker begins to refresh. -/
  | undertake {f : Frame} {layer seen : Nat} (idle : t.control.isIdle = true)
      (request : t.request = .work layer) (frames : t.frames = []) (duty : f.isDuty = true) :
      Stride t k (t.push f (.acquire layer seen false)) k
  /-- A worker has refreshed. -/
  | conclude {f : Frame} {outcome : Outcome V} {x : Control V C}
      (control : t.control = .deliver outcome) (head : t.frames = [f]) (duty : f.isDuty = true)
      (idle' : x.isIdle = true) (answer : x.isAnswer = false) :
      Stride t k (Task.goto { t with frames := [] } x) k
  /-- A worker is stopped. -/
  | abandon (parked : t.control.isParked = true) :
      Stride t k (Task.goto { t with frames := [] } (.ended .nothing k.now)) k

/-! ## What a step does to a layer -/

/-- A step changes a layer only if it is a rate limit that the task comes to, a record of health
that a call comes back to, or one that holds a value. -/
theorem Stride.layer_cases [Perishable V] {t t' : Task V C} {k k' : Content V} {i : Nat}
    {l : Layer V} (h : Stride t k t' k') (here : k.layers[i]? = some l) :
    k'.layers[i]? = some l ∨
      (∃ force b, t.control = .enter (i + 1) force ∧ l = .rateLimit b) ∨
      (∃ outcome frames record, t.control = .deliver outcome ∧ t.frames = .health i :: frames ∧
        l = .health record) ∨
      (∃ timeToLive stored, l = .outage timeToLive stored) ∨ ∃ c, l = .cache c := by
  have hset : ∀ {j : Nat} {l₁ x : Layer V}, k.layers[j]? = some l₁ →
      (k.setLayer j x).layers[i]? = some l ∨ j = i ∧ l₁ = l := by
    intro j l₁ x hl
    by_cases hj : j = i
    · subst hj
      rw [here, Option.some.injEq] at hl
      exact Or.inr ⟨rfl, hl.symm⟩
    · left
      rw [Content.setLayer, List.getElem?_set_ne hj]
      exact here
  cases h with
  | grant control hl | reject control hl =>
      rcases hset hl with hsame | ⟨rfl, rfl⟩
      · exact Or.inl hsame
      · exact Or.inr (Or.inl ⟨_, _, control, rfl⟩)
  | observe control head hl =>
      rcases hset hl with hsame | ⟨rfl, rfl⟩
      · exact Or.inl hsame
      · exact Or.inr (Or.inr (Or.inl ⟨_, _, _, control, head, rfl⟩))
  | store control head hl =>
      rcases hset hl with hsame | ⟨-, rfl⟩
      · exact Or.inl hsame
      · exact Or.inr (Or.inr (Or.inr (Or.inl ⟨_, _, rfl⟩)))
  | install control head hl =>
      rcases hset hl with hsame | ⟨-, rfl⟩
      · exact Or.inl hsame
      · exact Or.inr (Or.inr (Or.inr (Or.inr ⟨_, rfl⟩)))
  | _ => exact Or.inl here

/-! ## The list is complete -/

section Strides

variable [Perishable V] {t : Task V C} {w : World V σ}

/-- The outcome of a step is a stride of the content. -/
def Strides (t : Task V C) (w : World V σ) (next : World V σ × Task V C) : Prop :=
  Stride t w.content next.2 next.1.content

theorem strides_of {next : World V σ × Task V C} {k : Content V} (content : next.1.content = k)
    (h : Stride t w.content next.2 k) : Strides t w next := by
  rw [Strides, content]
  exact h

namespace Task

theorem strides_crash {t' : Task V C} {w' : World V σ} (content : w'.content = w.content)
    (control' : t'.control = .deliver .crashed) (frames' : t'.frames <:+ t.frames) :
    Strides t w (w', t') :=
  strides_of content (.crash control' frames')

/-- A worker that has been at rest ends, or goes on resting. -/
theorem strides_rest {x : Control V C} {w' : World V σ} (content : w'.content = w.content)
    (idle : t.control.isIdle = true) (idle' : x.isIdle = true) (answer : x.isAnswer = false) :
    Strides t w (w', t.goto x) :=
  strides_of content (.rest idle idle' answer)

theorem strides_retire {layer : Nat} {w' : World V σ} (content : w'.content = w.content)
    (idle : t.control.isIdle = true) (frames : t.frames = []) :
    Strides t w (t.retire w' layer) := by
  have htask : ({ t with frames := [] } : Task V C) = t := by rw [← frames]
  rw [retire, htask]
  exact strides_rest ((World.content_mapEarly w' layer _).trans content) idle rfl rfl

theorem strides_callSource [Source σ V C] {source : Option Nat} {force : Bool}
    (control : t.control = .call source force) : Strides t w (t.callSource w source force) := by
  rw [callSource]
  split
  next hs =>
    cases source with
    | none => cases hs
    | some index => exact .lost (Or.inl ⟨force, control⟩)
  next s _ =>
    refine strides_of ?_ (Stride.call control)
    cases source <;> rfl

theorem strides_resumeCall [Source σ V C] {source : Option Nat} {due : Instant} {call : C}
    (control : t.control = .calling source due call) :
    Strides t w (t.resumeCall w source due call) := by
  rw [resumeCall]
  split
  · split
    next hs =>
      cases source with
      | none => cases hs
      | some index => exact .lost (Or.inr ⟨due, call, control⟩)
    next s _ =>
      exact strides_of (World.content_setSource w _ source) (.resume control)
  · exact .stay

theorem strides_lookUp {layer : Nat} {c : Cache V} {force : Bool}
    (here : w.layers[layer]? = some (.cache c))
    (control : t.control = .enter (layer + 1) force) :
    Strides t w (t.lookUp w layer c force) := by
  have hl := World.layers_content_cache ((World.cache?_eq_some_iff w layer c).2 here)
  rw [lookUp]
  split
  · have hmiss := Stride.miss control hl
    exact hmiss
  next e hv =>
    cases force with
    | true => simp at hv
    | false =>
        split
        · exact strides_crash rfl rfl (List.suffix_refl _)
        next c' hn =>
          refine strides_of ?_ (.hit control hl hv)
          rw [World.content_count, World.content_rouse, World.content_setLayer]
          -- the worker of a cache is no content
          obtain ⟨hsame, hmeter⟩ :
              Layer.content (.cache c') = Layer.content (.cache c) ∧ c'.meter = c.meter := by
            rcases Cache.noticed?_cases hn with rfl | ⟨r, -, -, -, rfl⟩ <;> exact ⟨rfl, rfl⟩
          have hset : w.content.setLayer layer (Layer.content (.cache c)) = w.content := by
            obtain ⟨hlt, heq⟩ := List.getElem?_eq_some_iff.1 hl
            rw [Content.setLayer, Layer.content, ← heq, List.set_getElem_self]
          rw [hsame, hset, hmeter]

theorem strides_throttle {layer : Nat} {b : TokenBucket} {force : Bool}
    (here : w.layers[layer]? = some (.rateLimit b))
    (control : t.control = .enter (layer + 1) force) :
    Strides t w (t.throttle w layer b force) := by
  have hl := World.layers_content here
  have hset := World.content_setLayer w layer (.rateLimit (b.tryAcquire w.now).2)
  rw [throttle]
  simp only
  split
  · exact strides_of hset (.grant control hl)
  · exact strides_of (congrArg (·.count 0 .rateLimited) hset) (.reject control hl)

theorem strides_enter {level : Nat} {force : Bool} (control : t.control = .enter level force) :
    Strides t w (t.enter w level force) := by
  cases level with
  | zero => exact .bottom control
  | succ layer =>
      unfold enter
      simp only
      split
      next hl => exact .skip control (World.layers_content_none hl)
      next hl => exact .wrap control (World.layers_content hl) rfl
      next hl => exact .wrap control (World.layers_content hl) rfl
      next hl => exact strides_throttle hl control
      next hl => exact .wrap control (World.layers_content hl) rfl
      next hl => exact strides_lookUp hl control

/-! ### The lock -/

theorem strides_acquire {layer seen : Nat} {force : Bool}
    (control : t.control = .acquire layer seen force) :
    Strides t w (t.acquire w layer seen force) := by
  rw [acquire]
  split
  · exact strides_crash rfl rfl (List.suffix_refl _)
  next c hc =>
    have hl := World.layers_content_cache hc
    have hcontent : (w.mapCache layer fun x => { x with lock := c.lock.ask t.id }).content =
        w.content := World.content_mapCache layer fun _ => rfl
    simp only
    split
    · exact strides_of hcontent (.ask (Or.inl control) hl (Or.inl rfl))
    · exact strides_of hcontent (.ask (Or.inl control) hl (Or.inr ⟨_, rfl⟩))

theorem strides_stopWaiting {layer seen : Nat} {force : Bool} {deadline : Option Instant}
    (control : t.control = .queued layer seen force deadline) :
    Strides t w (t.stopWaiting w layer seen force deadline) := by
  rw [stopWaiting]
  split
  · exact strides_crash rfl rfl (List.suffix_refl _)
  next c hc =>
    split
    · exact .ask (Or.inr ⟨deadline, control⟩) (World.layers_content_cache hc) (Or.inl rfl)
    · split
      · exact strides_of (World.content_mapCache layer fun _ => rfl) (.giveUp control)
      · exact .stay

theorem strides_refresh {layer seen : Nat} {force : Bool}
    (control : t.control = .locked layer seen force) :
    Strides t w (t.refresh w layer seen force) := by
  unfold refresh settle
  split
  next e he =>
    obtain ⟨c, hc, hnewer⟩ := Option.bind_eq_some_iff.1 he
    exact strides_of (World.content_release w layer)
      (.adopt control (World.layers_content_cache hc) hnewer)
  · exact .load control

/-! ### Workers -/

theorem strides_pause {layer : Nat} {firedAt : Instant} {w' : World V σ}
    (content : w'.content = w.content) (idle : t.control.isIdle = true) (frames : t.frames = []) :
    Strides t w (t.pause w' layer firedAt) := by
  rw [pause]
  split
  · exact strides_retire content idle frames
  · exact strides_rest content idle rfl rfl

theorem strides_fireTimer {layer : Nat} {c : Cache V} {r : EarlyRefresh}
    (idle : t.control.isIdle = true) (request : t.request = .work layer) (frames : t.frames = []) :
    Strides t w (t.fireTimer w layer c r) := by
  unfold fireTimer
  simp only
  split
  · exact strides_rest (World.content_mapEarly w layer _) idle rfl rfl
  · split
    · exact strides_pause (World.content_mapEarly w layer _) idle frames
    · refine strides_of ?_ (.undertake idle request frames rfl)
      rw [World.content_mapEarly, World.content_mapEarly]

theorem strides_follow? {layer : Nat} {retryAfter deadline : Option Instant} {c : Cache V}
    {r : EarlyRefresh} {signal : Signal} {next : World V σ × Task V C}
    (idle : t.control.isIdle = true) (request : t.request = .work layer) (frames : t.frames = [])
    (h : t.follow? w layer retryAfter deadline c r signal = some next) : Strides t w next := by
  cases signal with
  | job =>
      simp only [follow?] at h
      split at h
      · cases h
      · cases h
        exact strides_of (World.content_mapEarly w layer _) (.undertake idle request frames rfl)
  | notice =>
      simp only [follow?] at h
      split at h
      · cases h
        exact strides_rest (World.content_mapEarly w layer _) idle rfl rfl
      · cases h
  | timer =>
      simp only [follow?] at h
      split at h
      · cases h
        exact strides_fireTimer idle request frames
      · cases h

theorem strides_listen {favoured : Signal} {layer : Nat} {retryAfter deadline : Option Instant}
    (idle : t.control.isIdle = true) (request : t.request = .work layer) (frames : t.frames = []) :
    Strides t w (t.listen w favoured layer retryAfter deadline) := by
  rw [listen]
  split
  · split
    next next h =>
      obtain ⟨signal, -, hs⟩ := List.exists_of_findSome?_eq_some h
      exact strides_follow? idle request frames hs
    · exact strides_rest (World.content_mapEarly w layer _) idle rfl rfl
  · exact strides_retire rfl idle frames

/-! ### Outcomes -/

theorem strides_retried {layer : Nat} {force : Bool} {frames : List Frame} {outcome : Outcome V}
    (control : t.control = .deliver outcome) (head : t.frames = .retry layer force :: frames) :
    Strides t w (Task.retried { t with frames } w layer force outcome) := by
  unfold retried
  split
  · split
    · exact .retry control head
    · exact .pass control head rfl
  · exact .pass control head rfl

theorem strides_bridged {layer : Nat} {force : Bool} {frames : List Frame} {outcome : Outcome V}
    (control : t.control = .deliver outcome) (head : t.frames = .outage layer force :: frames) :
    Strides t w (Task.bridged { t with frames } w layer force outcome) := by
  unfold bridged
  split
  next hl =>
    split
    · exact strides_crash rfl rfl (by rw [head]; exact List.suffix_cons _ frames)
    next later =>
      exact strides_of (World.content_setLayer w layer _)
        (.store control head (World.layers_content hl) later)
  next e f hl =>
    split
    next h =>
      simp only [Bool.and_eq_true, Bool.not_eq_true'] at h
      obtain ⟨⟨-, hforce⟩, valid⟩ := h
      subst hforce
      exact .serve control head (World.layers_content hl) valid
    · exact .pass control head rfl
  · exact .pass control head rfl

theorem strides_observed {layer : Nat} {frames : List Frame} {outcome : Outcome V}
    (control : t.control = .deliver outcome) (head : t.frames = .health layer :: frames) :
    Strides t w (Task.observed { t with frames } w layer outcome) := by
  unfold observed
  split
  · exact .pass control head rfl
  next hl _ =>
    exact strides_of (World.content_setLayer w layer _)
      (.observe control head (World.layers_content hl))
  · exact .pass control head rfl

theorem strides_refreshed {layer : Nat} {startedAt : Instant} {frames : List Frame}
    {outcome : Outcome V} (control : t.control = .deliver outcome)
    (head : t.frames = .load layer startedAt :: frames) :
    Strides t w (Task.refreshed { t with frames } w layer startedAt outcome) := by
  have hsuffix : frames <:+ t.frames := by
    rw [head]
    exact List.suffix_cons _ frames
  cases outcome with
  | value v =>
      simp only [refreshed, install, settle]
      split
      · exact strides_crash rfl rfl hsuffix
      next c hc =>
        split
        · exact strides_crash (World.content_release w layer) rfl hsuffix
        next e he =>
          have hl := World.layers_content_cache hc
          have hinstall := Stride.install control head hl he
          simp only [World.now_count, World.now_rouse, World.now_mapCache]
          refine strides_of ?_ hinstall
          rw [World.content_release, World.content_count, World.content_rouse,
            World.content_install hc, World.now_content]
  | failed f =>
      refine strides_of ?_ (.fail control head)
      have hmeter : w.content.meter layer = ((w.cache? layer).map Cache.meter).getD 0 := by
        rw [Content.meter]
        cases hc : w.cache? layer with
        | some c => rw [World.layers_content_cache hc]; rfl
        | none =>
            cases hl : w.content.layers[layer]? with
            | none => rfl
            | some l =>
                cases l with
                | cache c => exact absurd hl (World.not_cache_content hc c)
                | retry | outage _ _ | rateLimit _ | health _ => rfl
      rw [hmeter]
      exact World.content_release _ layer
  | crashed => exact strides_crash (World.content_release w layer) rfl hsuffix

theorem strides_queried {layer seen : Nat} {frames : List Frame} {outcome : Outcome V}
    (control : t.control = .deliver outcome) (head : t.frames = .query layer seen :: frames) :
    Strides t w (Task.queried { t with frames } w layer seen outcome) := by
  unfold queried
  split
  · exact .report control head
  · exact .report control head

theorem strides_concluded (layer : Nat) {f : Frame} {outcome : Outcome V} {w' : World V σ}
    (control : t.control = .deliver outcome) (head : t.frames = [f]) (duty : f.isDuty = true)
    (content : w'.content = w.content) :
    (∀ x, Strides t w (w', Task.goto { t with frames := [] } (.attend layer x))) ∧
      Strides t w (Task.retire { t with frames := [] } w' layer) := by
  constructor
  · intro x
    exact strides_of content (.conclude control head duty rfl rfl)
  · exact strides_of ((World.content_mapEarly w' layer _).trans content)
      (.conclude control head duty rfl rfl)

theorem strides_jobDone {layer : Nat} {job : RefreshJob} {retryAfter : Option Instant}
    {outcome : Outcome V} (control : t.control = .deliver outcome)
    (head : t.frames = [.job layer job retryAfter]) :
    Strides t w (Task.jobDone { t with frames := [] } w layer job retryAfter outcome) := by
  have hend := strides_concluded layer control head rfl (rfl : w.content = w.content)
  cases outcome with
  | value v => exact hend.1 retryAfter
  | failed f =>
      exact (strides_concluded layer control head rfl
        (World.content_mapEarly w layer _)).1 retryAfter
  | crashed => exact hend.2

theorem strides_timerDone {layer : Nat} {job : RefreshJob} {firedAt : Instant}
    {outcome : Outcome V} (control : t.control = .deliver outcome)
    (head : t.frames = [.timer layer job firedAt]) :
    Strides t w (Task.timerDone { t with frames := [] } w layer job firedAt outcome) := by
  have hend := strides_concluded layer control head rfl (rfl : w.content = w.content)
  cases outcome with
  | value v => exact hend.1 none
  | failed f =>
      have hunclaim := strides_concluded layer control head rfl
        (World.content_mapEarly w layer (·.unclaim job.expiresAt))
      simp only [timerDone, pause]
      split
      · exact hunclaim.2
      · exact hunclaim.1 _
  | crashed => exact hend.2

theorem strides_deliver {outcome : Outcome V} (shaped : t.Shaped)
    (control : t.control = .deliver outcome) : Strides t w (t.deliver w outcome) := by
  rw [deliver]
  split
  next hf => exact .answer control hf
  next f frames hf =>
    obtain ⟨depth, hn⟩ := shaped.of_deliver control hf
    cases f with
    | retry layer force => exact strides_retried control hf
    | outage layer force => exact strides_bridged control hf
    | health layer => exact strides_observed control hf
    | load layer startedAt => exact strides_refreshed control hf
    | query layer seen => exact strides_queried control hf
    | job layer job retryAfter =>
        obtain ⟨-, -, rfl⟩ := hn
        exact strides_jobDone control hf
    | timer layer job firedAt =>
        obtain ⟨-, -, rfl⟩ := hn
        exact strides_timerDone control hf

/-! ### Requests -/

theorem strides_ask [Source σ V C] {refresh : Bool} (control : t.control = .begin)
    (request : t.request = .health refresh) :
    Strides t w (t.ask w refresh) := by
  have hfinish : ∀ a : Outcome (Option Bool), Strides t w (t.finish w (.health a)) := fun a =>
    strides_rest rfl (by rw [control]; rfl) rfl rfl
  rw [ask]
  split
  · exact hfinish _
  next layer h hl =>
    split
    · split
      · exact .query control request (World.layers_content (World.layers_of_healthLayer? hl))
      · exact hfinish _
    · exact hfinish _

theorem strides_close [Source σ V C] (control : t.control = .begin) :
    Strides t w (t.close w) := by
  have hcontent : ∀ source : σ, ({ w.stopWorkers with source } : World V σ).content = w.content :=
    fun _ => World.content_stopWorkers w
  rw [close]
  simp only
  split
  · exact strides_rest (hcontent _) (by rw [control]; rfl) rfl rfl
  · exact strides_rest (hcontent _) (by rw [control]; rfl) rfl rfl

theorem strides_start [Source σ V C] (control : t.control = .begin) :
    Strides t w (t.start w) := by
  have hrest : ∀ x : Control V C, x.isIdle = true → x.isAnswer = false →
      Strides t w (w, t.goto x) := fun x hx hx' =>
    strides_rest rfl (by rw [control]; rfl) hx hx'
  rw [start]
  split
  next force hr =>
    have hstart := Stride.start (k := w.content) control hr
    rw [World.length_content] at hstart
    exact hstart
  next refresh hr => exact strides_ask control hr
  next => exact strides_close control
  next => exact hrest _ rfl rfl
  next => exact hrest _ rfl rfl
  next => exact hrest _ rfl rfl

/-- Every step is a stride. A worker that is stopped must not be in the middle of its work. -/
theorem strides_step [Source σ V C] {favoured : Signal} (shaped : t.Shaped)
    (parked : t.isStopped w = true → t.control.isParked = true) :
    Strides t w (t.step w favoured) := by
  have hidle : ∀ x : Control V C, t.control = x → x.isIdle = true → t.control.isIdle = true := by
    rintro x rfl hx
    exact hx
  have hadvance : Strides t w (t.advance w favoured) := by
    rw [advance]
    split
    next control => exact strides_start control
    next control => exact strides_enter control
    next control => exact strides_callSource control
    next control => exact strides_acquire control
    next control => exact strides_stopWaiting control
    next control => exact strides_refresh control
    next control => exact strides_resumeCall control
    next control => exact strides_deliver shaped control
    next control =>
      obtain ⟨hr, hf⟩ : t.request = .work _ ∧ t.frames = [] := by
        simpa [Shaped, control] using shaped
      exact strides_listen (hidle _ control rfl) hr hf
    next control =>
      obtain ⟨hr, hf⟩ : t.request = .work _ ∧ t.frames = [] := by
        simpa [Shaped, control] using shaped
      exact strides_listen (hidle _ control rfl) hr hf
    next control =>
      split
      · exact strides_rest rfl (hidle _ control rfl) rfl rfl
      · exact .stay
    next control => exact strides_rest rfl (hidle _ control rfl) rfl rfl
    next control => exact .stay
  rw [step]
  split
  next layer hr hstopped =>
    have hcontent : ∀ w' : World V σ, w'.content = w.content →
        (w'.mapEarly layer EarlyRefresh.retire).content = w.content ∧ w'.now = w.now := by
      intro w' hw'
      exact ⟨(World.content_mapEarly w' layer _).trans hw', congrArg Content.now hw'⟩
    have hgiven := hcontent (t.frames.foldl (stopLoading t.id) (stopQueueing t.id w t.control)) (by
      rw [World.content_foldl_stopLoading, World.content_stopQueueing])
    have habandon := Stride.abandon (k := w.content) (parked hstopped)
    rw [World.now_content, ← hgiven.2] at habandon
    exact strides_of hgiven.1 habandon
  · exact hadvance

end Task

end Strides

end CredentialSupply
