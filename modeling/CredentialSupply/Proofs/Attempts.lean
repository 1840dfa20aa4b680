import Mathlib.Algebra.GroupWithZero.Nat
import CredentialSupply.Proofs.Balance
import CredentialSupply.Proofs.Forced

set_option autoImplicit false

/-!
# How often a fetch calls the source

On its way down a fetch owes one call of the source (`Control.owes`), and each layer that retries
may still send it down once more from where it stands (`Task.spare`). A step makes a call only out
of what the fetch owes, comes to owe a call again only with a retry that it records, and records a
retry only out of what its layers can spare (`Stride.attempt`). Over a run this adds up: a fetch
makes at most one call more than it records retries, and the retries are bounded by the number of
layers that retry, however they stand among the others (`fetch_calls_le_retries`).
-/

namespace CredentialSupply

variable {V σ C : Type}

/-! ## Layers that retry -/

/-- Whether a layer of this kind retries. -/
def Kind.isRetry : Kind → Bool
  | .retry => true
  | _ => false

/-- Whether the layer retries. -/
def Layer.isRetry : Layer V → Bool
  | .retry => true
  | _ => false

theorem Layer.isRetry_kind (l : Layer V) : l.kind.isRetry = l.isRetry := by
  cases l <;> rfl

theorem World.countP_isRetry (w : World V σ) :
    w.content.kinds.countP Kind.isRetry = w.layers.countP Layer.isRetry := by
  rw [Content.kinds, World.content, List.map_map, List.countP_map]
  congr 1
  funext l
  simp [Layer.isRetry_kind]

/-- How many layers below a level retry. -/
def retriesBelow (kinds : List Kind) (level : Nat) : Nat := (kinds.take level).countP Kind.isRetry

theorem retriesBelow_mono (kinds : List Kind) {level level' : Nat} (h : level' ≤ level) :
    retriesBelow kinds level' ≤ retriesBelow kinds level :=
  (List.take_sublist_take_left h).countP_le

theorem retriesBelow_length (kinds : List Kind) :
    retriesBelow kinds kinds.length = kinds.countP Kind.isRetry := by
  rw [retriesBelow, List.take_length]

theorem retriesBelow_succ {kinds : List Kind} {layer : Nat} (h : kinds[layer]? = some .retry) :
    retriesBelow kinds (layer + 1) = retriesBelow kinds layer + 1 := by
  rw [retriesBelow, retriesBelow, List.take_add_one, h, List.countP_append]
  rfl

/-! ## What a fetch owes, and what its layers can spare -/

/-- The level from which a task with this control goes on down to the source. A fetch that has not
begun stands above all layers. -/
def Control.level? (top : Nat) : Control V C → Option Nat
  | .begin => some top
  | .enter level _ => some level
  | .call none _ => some 0
  | .acquire layer _ _ | .queued layer _ _ _ | .locked layer _ _ => some layer
  | _ => none

/-- The calls of the source that a task with this control owes: one on its way down. -/
def Control.owes (x : Control V C) : Nat := if (x.level? 0).isSome then 1 else 0

/-- The retries of a fetch that goes down from a level, if all that can be retried fails. -/
def sparedFrom (kinds : List Kind) : Option Nat → Nat
  | none => 0
  | some level => 2 ^ retriesBelow kinds level - 1

/-- The retries that come of a frame: one by its layer, and those of the second attempt. -/
def Frame.spare (kinds : List Kind) : Frame → Nat
  | .retry layer _ => 2 ^ retriesBelow kinds layer
  | _ => 0

/-- The retries that come of a list of frames. -/
def spareOf (kinds : List Kind) (frames : List Frame) : Nat := (frames.map (Frame.spare kinds)).sum

/-- The retries of a task that are yet to come, at most. -/
def Task.spare (kinds : List Kind) (t : Task V C) : Nat :=
  sparedFrom kinds (t.control.level? kinds.length) + spareOf kinds t.frames

theorem spareOf_cons (kinds : List Kind) (f : Frame) (frames : List Frame) :
    spareOf kinds (f :: frames) = f.spare kinds + spareOf kinds frames := by
  rw [spareOf, List.map_cons, List.sum_cons]
  rfl

theorem spareOf_suffix (kinds : List Kind) {frames frames' : List Frame}
    (h : frames' <:+ frames) : spareOf kinds frames' ≤ spareOf kinds frames := by
  obtain ⟨popped, rfl⟩ := h
  rw [spareOf, spareOf, List.map_append, List.sum_append]
  omega

theorem sparedFrom_mono (kinds : List Kind) {level level' : Nat} (h : level' ≤ level) :
    sparedFrom kinds (some level') ≤ sparedFrom kinds (some level) := by
  have := Nat.pow_le_pow_right (n := 2) (by omega) (retriesBelow_mono kinds h)
  simp only [sparedFrom]
  omega

/-- A control that is on no way down owes nothing and leads to no retry. -/
theorem Control.owes_eq_zero {x : Control V C} {top : Nat} (h : x.level? top = none) :
    x.owes = 0 := by
  cases x with
  | call source force => cases source <;> simp [Control.level?, Control.owes] at h ⊢
  | _ => simp [Control.level?, Control.owes] at h ⊢

theorem Control.owes_eq_one {x : Control V C} {top level : Nat} (h : x.level? top = some level) :
    x.owes = 1 := by
  cases x with
  | call source force => cases source <;> simp [Control.level?, Control.owes] at h ⊢
  | _ => simp [Control.level?, Control.owes] at h ⊢

/-- A task that is in no fetch, and has begun, is on no way down. -/
theorem Control.level?_of_isIdle {x : Control V C} (idle : x.isIdle = true) (begun : x ≠ .begin)
    (top : Nat) : x.level? top = none := by
  cases x <;> simp [Control.isIdle, Control.level?] at idle begun ⊢

/-! ## Where a step goes -/

namespace Task

variable {t : Task V C} {w : World V σ}

/-- A step may take the task to this control: not back to where it begins, and to the wait for
another task only at its request. -/
def Goes (t : Task V C) (x : Control V C) : Prop :=
  x ≠ .begin ∧ ∀ id, x = .joining id → t.request = .join id

theorem goes_await (source : Option Nat) (progress : Progress V C) :
    t.Goes (t.await source progress).control := by
  cases progress <;> simp [Goes, await, goto, pass]

theorem goes_enter {level : Nat} {force : Bool} : t.Goes (t.enter w level force).2.control := by
  unfold enter
  split
  · simp [Goes, goto]
  · split
    · simp [Goes, goto]
    · simp [Goes, push]
    · simp [Goes, push]
    · simp only [throttle]
      split <;> simp [Goes, goto, pass]
    · simp [Goes, push]
    · unfold lookUp
      split
      · simp [Goes, goto]
      · split <;> simp [Goes, goto, pass]

theorem goes_pause {layer : Nat} {firedAt : Instant} :
    t.Goes (t.pause w layer firedAt).2.control := by
  unfold pause
  split <;> simp [Goes, goto, retire, finish]

theorem goes_deliver [Perishable V] {outcome : Outcome V} :
    t.Goes (t.deliver w outcome).2.control := by
  unfold deliver
  split
  · simp [Goes, finish, goto]
  · simp only
    split
    · unfold retried
      split
      · split <;> simp [Goes, goto, pass]
      · simp [Goes, goto, pass]
    · unfold bridged
      split
      · split <;> simp [Goes, goto, pass]
      · split <;> simp [Goes, goto, pass]
      · simp [Goes, goto, pass]
    · unfold observed
      split <;> simp [Goes, goto, pass]
    · unfold refreshed
      split
      · unfold install
        split
        · simp [Goes, goto, pass]
        · split <;> simp [Goes, goto, pass, settle]
      · simp [Goes, goto, pass]
      · simp [Goes, goto, pass]
    · unfold queried
      split <;> simp [Goes, finish, goto]
    · unfold jobDone
      split <;> simp [Goes, goto, retire, finish]
    · unfold timerDone
      split
      · simp [Goes, goto]
      · exact goes_pause
      · simp [Goes, goto, retire, finish]

theorem goes_listen {favoured : Signal} {layer : Nat} {retryAfter deadline : Option Instant} :
    t.Goes (t.listen w favoured layer retryAfter deadline).2.control := by
  unfold listen
  split
  · split
    next next h =>
      obtain ⟨signal, -, hsignal⟩ := List.exists_of_findSome?_eq_some h
      unfold follow? at hsignal
      split at hsignal
      · split at hsignal
        · cases hsignal
        · cases hsignal
          simp [Goes, takeJob, push]
      · split at hsignal
        · cases hsignal
          simp [Goes, takeNotice, goto]
        · cases hsignal
      · split at hsignal
        · cases hsignal
          unfold fireTimer
          simp only
          split
          · simp [Goes, goto]
          · split
            · exact goes_pause
            · simp [Goes, push]
        · cases hsignal
    next => simp [Goes, goto]
  · simp [Goes, retire, finish, goto]

theorem goes_start [Source σ V C] : t.Goes (t.start w).2.control := by
  unfold start
  split
  · simp [Goes, goto]
  · unfold ask
    split
    · simp [Goes, finish, goto]
    · split
      · split
        · simp only [push]
          split <;> simp [Goes]
        · simp [Goes, finish, goto]
      · simp [Goes, finish, goto]
  · unfold close
    simp only
    split <;> simp [Goes, finish, goto]
  · simp [Goes, goto]
  next request => simp [Goes, goto, request]
  · simp [Goes, goto]

/-- A task that has made a step has begun, and joins another one only at its request. -/
theorem goes_step [Source σ V C] [Perishable V] {favoured : Signal} :
    t.Goes (t.step w favoured).2.control := by
  unfold step
  split
  · simp [Goes, abandon, retire, finish, goto]
  · unfold advance
    split
    next => exact goes_start
    next => exact goes_enter
    next =>
      unfold callSource
      split
      · simp [Goes, goto, pass]
      · exact goes_await _ _
    next =>
      unfold acquire
      split
      · simp [Goes, goto, pass]
      · simp only
        split <;> simp [Goes, goto]
    next control =>
      unfold stopWaiting
      split
      · simp [Goes, goto, pass]
      · split
        · simp [Goes, goto]
        · split <;> simp [Goes, goto, pass, control]
    next =>
      unfold refresh
      split <;> simp [Goes, settle, goto, pass, push]
    next control =>
      unfold resumeCall
      split
      · split
        · simp [Goes, goto, pass]
        · exact goes_await _ _
      · simp [Goes, control]
    next => exact goes_deliver
    next => exact goes_listen
    next => exact goes_listen
    next control =>
      split
      · simp [Goes, finish, goto]
      · simp [Goes, control]
    next => simp [Goes, finish, goto]
    next control => simp [Goes, control]

end Task

/-! ## One step -/

/-- Events other than a retry leave the count of retries. -/
theorem Content.retries_count {k x : Content V} {event : Event} (meter : Nat)
    (same : x.meters = k.meters) (h : event ≠ .retried) :
    (x.count meter event).tally.retries = k.tally.retries := by
  simp only [Content.tally, Content.count, Meters.tally, Meters.record, same]
  cases hm : k.meters.meters with
  | nil => simp
  | cons m ms =>
      cases meter with
      | zero => cases event <;> simp [Tally.record] at h ⊢
      | succ i => simp

/-- What a step does for a fetch with the given flag: it makes calls, which carry the flag, out of
what the fetch owes, and records retries out of what its layers can spare. -/
structure Attempt (force : Bool) (t t' : Task V C) (k k' : Content V) (made : List SourceCall)
    (retries : Nat) : Prop where
  carries : t'.Carries force
  calls : k'.calls = k.calls ++ made
  own : ∀ call ∈ made, call.task = t.id ∧ call.force = force
  counted : k'.tally.retries = k.tally.retries + retries
  owes : made.length + t'.control.owes ≤ t.control.owes + retries
  spare : retries + t'.spare k.kinds ≤ t.spare k.kinds

section Stride

variable {force : Bool} {t t' : Task V C} {k k' : Content V}

/-- A step with which a fetch stays at its level, or goes further down. -/
theorem Attempt.down {level level' : Nat} (carries : t'.Carries force) (calls : k'.calls = k.calls)
    (retries : k'.tally.retries = k.tally.retries)
    (before : t.control.level? k.kinds.length = some level)
    (after : t'.control.level? k.kinds.length = some level') (hle : level' ≤ level)
    (frames : spareOf k.kinds t'.frames ≤ spareOf k.kinds t.frames) :
    Attempt force t t' k k' [] 0 := by
  have hspare := sparedFrom_mono k.kinds hle
  refine ⟨carries, by rw [calls, List.append_nil], by simp, retries, ?_, ?_⟩
  · simp [Control.owes_eq_one before, Control.owes_eq_one after]
  · simp only [Task.spare, before, after]
    omega

/-- A step after which a fetch is on no way down. -/
theorem Attempt.up (carries : t'.Carries force) (calls : k'.calls = k.calls)
    (retries : k'.tally.retries = k.tally.retries) (after : t'.control.level? k.kinds.length = none)
    (frames : spareOf k.kinds t'.frames ≤ spareOf k.kinds t.frames) :
    Attempt force t t' k k' [] 0 := by
  refine ⟨carries, by rw [calls, List.append_nil], by simp, retries, ?_, ?_⟩
  · simp [Control.owes_eq_zero after]
  · simp only [Task.spare, after, sparedFrom]
    omega

/-- A step with which an outcome goes up past a frame. -/
theorem Attempt.pop {f : Frame} {frames : List Frame} {x : Control V C}
    (carries : (Task.goto { t with frames } x).Carries force) (calls : k'.calls = k.calls)
    (retries : k'.tally.retries = k.tally.retries) (head : t.frames = f :: frames)
    (after : x.level? k.kinds.length = none) :
    Attempt force t (Task.goto { t with frames } x) k k' [] 0 := by
  refine .up carries calls retries after (spareOf_suffix _ ?_)
  rw [head]
  exact List.suffix_cons f frames

/-- A step with which a layer that retries lets a fetch through: it may send it down a second
time. -/
theorem Attempt.wrap {layer : Nat} (control : t.control = .enter (layer + 1) force)
    (here : k.layers[layer]? = some .retry)
    (carries : (t.push (.retry layer force) (.enter layer force)).Carries force) :
    Attempt force t (t.push (.retry layer force) (.enter layer force)) k k [] 0 := by
  have hbelow := retriesBelow_succ (Content.kinds_getElem? here)
  have hpos := Nat.two_pow_pos (retriesBelow k.kinds layer)
  refine ⟨carries, (List.append_nil _).symm, by simp, rfl, ?_, ?_⟩
  · simp [Task.push, control, Control.owes, Control.level?]
  · simp only [Task.spare, Task.push, control, Control.level?, sparedFrom, spareOf_cons,
      Frame.spare, hbelow, Nat.pow_succ]
    omega

/-- The step with which it does. The retry is recorded, and the second attempt owes a call of its
own. -/
theorem Attempt.retry {layer : Nat} {frames : List Frame} {f : Failure}
    (metered : 0 < k.meters.meters.length) (control : t.control = .deliver (.failed f))
    (head : t.frames = .retry layer force :: frames)
    (carries : (Task.goto { t with frames } (.enter layer force)).Carries force) :
    Attempt force t (Task.goto { t with frames } (.enter layer force)) k (k.count 0 .retried) []
      1 := by
  have hpos := Nat.two_pow_pos (retriesBelow k.kinds layer)
  refine ⟨carries, (List.append_nil _).symm, by simp, ?_, ?_, ?_⟩
  · rw [Content.tally_count metered rfl]
    rfl
  · simp [Task.goto, Control.owes, Control.level?]
  · simp only [Task.spare, Task.goto, control, Control.level?, sparedFrom, head, spareOf_cons,
      Frame.spare]
    omega

/-- The step with which a fetch makes the call that it owes. -/
theorem Attempt.call {progress : Progress V C} (control : t.control = .call none force)
    (carries : (t.await none progress).Carries force) :
    Attempt force t (t.await none progress) k
      { k with calls := k.calls ++ [⟨k.now, force, t.id⟩] } [⟨k.now, force, t.id⟩] 0 := by
  have hbefore : t.control.level? 0 = some 0 := by rw [control]; rfl
  have hafter : (t.await none progress).control.level? k.kinds.length = none := by
    cases progress <;> rfl
  refine ⟨carries, rfl, by simp, rfl, ?_, ?_⟩
  · simp [Control.owes_eq_zero hafter, Control.owes_eq_one hbefore]
  · simp only [Task.spare, hafter, Task.frames_await, sparedFrom]
    omega

variable [Perishable V]

/-- Every step of a fetch is paid for. -/
theorem Stride.attempt (request : t.request = .fetch force)
    (metered : 0 < k.meters.meters.length) (carries : t.Carries force) (h : Stride t k t' k')
    (begun : t'.control ≠ .begin) :
    ∃ made retries, Attempt force t t' k k' made retries := by
  have hcarries : t'.Carries force := h.carries (by rw [request]; rfl) carries
  have hle : spareOf k.kinds t.frames ≤ spareOf k.kinds t.frames := Nat.le_refl _
  cases h with
  | stay =>
      cases hlevel : t.control.level? k.kinds.length with
      | none => exact ⟨_, _, .up hcarries rfl rfl hlevel hle⟩
      | some level => exact ⟨_, _, .down hcarries rfl rfl hlevel hlevel (Nat.le_refl _) hle⟩
  | rest idle idle' answer =>
      exact ⟨_, _, .up hcarries rfl rfl (Control.level?_of_isIdle idle' begun _) hle⟩
  | start control request' =>
      exact ⟨_, _, .down hcarries rfl rfl (by rw [control]; rfl) rfl
        (Nat.le_of_eq (Content.length_kinds k).symm) hle⟩
  | query control request' here =>
      -- a fetch is no query, and no worker
      rw [request] at request'
      cases request'
  | bottom control =>
      exact ⟨_, _, .down hcarries rfl rfl (by rw [control]; rfl) rfl (Nat.le_refl _) hle⟩
  | skip control | grant control =>
      exact ⟨_, _, .down hcarries rfl rfl (by rw [control]; rfl) rfl (Nat.le_succ _) hle⟩
  | @wrap layer b l f control here frame =>
      obtain rfl := carries.flag (by rw [control]; rfl)
      cases l with
      | retry =>
          -- a layer that retries can send the fetch down once more from here
          cases frame
          exact ⟨_, _, .wrap control here hcarries⟩
      | outage | health =>
          cases frame
          refine ⟨_, _, .down hcarries rfl rfl (by rw [control]; rfl) rfl (Nat.le_succ _) ?_⟩
          simp [Task.push, spareOf_cons, Frame.spare]
      | rateLimit | cache => cases frame
  | reject control here =>
      exact ⟨_, _, .up hcarries rfl (Content.retries_count 0 rfl (by simp)) rfl hle⟩
  | hit control here valid =>
      exact ⟨_, _, .up hcarries rfl (Content.retries_count _ rfl (by simp)) rfl hle⟩
  | miss control here =>
      exact ⟨_, _, .down hcarries rfl (Content.retries_count _ rfl (by simp)) (by rw [control]; rfl)
        rfl (Nat.le_succ _) hle⟩
  | @call source b progress control =>
      cases source with
      | none =>
          -- the call that the fetch owed is made
          obtain rfl := carries.flag (by rw [control]; rfl)
          exact ⟨_, _, .call control hcarries⟩
      | some index =>
          exact ⟨_, _, .up hcarries rfl rfl (by cases progress <;> rfl)
            (Nat.le_of_eq (by rw [Task.frames_await]))⟩
  | @resume source due call progress control =>
      exact ⟨_, _, .up hcarries rfl rfl (by cases progress <;> rfl)
            (Nat.le_of_eq (by rw [Task.frames_await]))⟩
  | lost control => exact ⟨_, _, .up hcarries rfl rfl rfl hle⟩
  | @ask layer seen b c x control here control' =>
      have hbefore : t.control.level? k.kinds.length = some layer := by
        rcases control with control | ⟨deadline, control⟩ <;> simp [control, Control.level?]
      have hafter : x.level? k.kinds.length = some layer := by
        rcases control' with rfl | ⟨deadline, rfl⟩ <;> rfl
      exact ⟨_, _, .down hcarries rfl rfl hbefore hafter (Nat.le_refl _) hle⟩
  | giveUp | adopt | answer => exact ⟨_, _, .up hcarries rfl rfl rfl hle⟩
  | load control =>
      refine ⟨_, _, .down hcarries rfl rfl (by rw [control]; rfl) rfl (Nat.le_refl _) ?_⟩
      simp [Task.push, spareOf_cons, Frame.spare]
  | @retry layer b frames f control head =>
      -- the fetch owes a call again, out of what this layer could spare
      have hb : b = force := carries.frames (.retry layer b) (by simp [head]) b rfl
      subst hb
      exact ⟨_, _, .retry metered control head hcarries⟩
  | store control head | observe control head | pass control head | report control head =>
      exact ⟨_, _, .pop hcarries rfl rfl head rfl⟩
  | serve control head here valid =>
      exact ⟨_, _, .pop hcarries rfl (Content.retries_count 0 rfl (by simp)) head rfl⟩
  | install control head | fail control head =>
      exact ⟨_, _, .pop hcarries rfl (Content.retries_count _ rfl (by simp)) head rfl⟩
  | crash control' frames' =>
      exact ⟨_, _, .up hcarries rfl rfl (by rw [control']; rfl) (spareOf_suffix _ frames')⟩
  | undertake idle request' frames duty =>
      rw [request] at request'
      cases request'
  | conclude control head duty idle' answer =>
      exact ⟨_, _, .pop hcarries rfl rfl head (Control.level?_of_isIdle idle' begun _)⟩
  | abandon parked =>
      exact ⟨_, _, .up hcarries rfl rfl rfl (spareOf_suffix _ List.nil_suffix)⟩

omit [Perishable V] in
/-- Counting an event keeps the meters in use. -/
theorem Content.length_count {k x : Content V} (meter : Nat) (event : Event)
    (same : x.meters = k.meters) :
    (x.count meter event).meters.meters.length = k.meters.meters.length := by
  simp [Content.count, Meters.record, same]

theorem Stride.length_meters (h : Stride t k t' k') :
    k'.meters.meters.length = k.meters.meters.length := by
  cases h with
  | reject | hit | miss | retry | serve | install | fail => exact Content.length_count _ _ rfl
  | _ => rfl

/-- A step makes calls of the source for its own task only. -/
theorem Stride.own_calls (h : Stride t k t' k') :
    ∃ made, k'.calls = k.calls ++ made ∧ ∀ call ∈ made, call.task = t.id := by
  cases h with
  | @call source force progress control =>
      cases source with
      | none => exact ⟨[⟨k.now, force, t.id⟩], rfl, by simp⟩
      | some index => exact ⟨[], (List.append_nil _).symm, by simp⟩
  | _ => exact ⟨[], (List.append_nil _).symm, by simp⟩

end Stride

namespace Machine

/-! ## Runs -/

/-- The calls of the source that a task makes in a list of moves. -/
def callsBy (id : TaskId) (moves : List (Machine V σ C × Machine V σ C)) : List SourceCall :=
  moves.flatMap fun (m, n) => (n.world.calls.drop m.world.calls.length).filter (·.task = id)

/-- The retries that a task records in a list of moves: what its steps add to the count in the
meter that the layers share. -/
def retriesBy (id : TaskId) (moves : List (Machine V σ C × Machine V σ C)) : Nat :=
  (moves.map fun (m, n) =>
    if m.running = some id then
      (n.world.meters.tally 0).retries - (m.world.meters.tally 0).retries
    else 0).sum

section Moves

variable {m n : Machine V σ C} {id : TaskId} {moves : List (Machine V σ C × Machine V σ C)}

theorem callsBy_snoc {made : List SourceCall} (h : n.world.calls = m.world.calls ++ made) :
    callsBy id (moves ++ [(m, n)]) = callsBy id moves ++ made.filter (·.task = id) := by
  simp [callsBy, h]

theorem retriesBy_snoc : retriesBy id (moves ++ [(m, n)]) =
    retriesBy id moves + if m.running = some id then
      (n.world.meters.tally 0).retries - (m.world.meters.tally 0).retries else 0 := by
  simp [retriesBy]

/-- The fetch of a task, with the given flag, has been paid for so far. -/
structure Attempting (force : Bool) (kinds : List Kind) (id : TaskId)
    (moves : List (Machine V σ C × Machine V σ C)) (n : Machine V σ C) : Prop where
  layers : n.world.content.kinds = kinds
  metered : 0 < n.world.meters.meters.length
  flags : ∀ call ∈ callsBy id moves, call.force = force
  task : ∃ t, n.tasks[id]? = some t ∧ t.request = .fetch force ∧ t.Carries force ∧
    (callsBy id moves).length + t.control.owes ≤ 1 + retriesBy id moves ∧
    retriesBy id moves + t.spare kinds + 1 ≤ 2 ^ kinds.countP Kind.isRetry

variable [Source σ V C] [Perishable V]

theorem begun_move {t' : Task V C} (move : Move m n) (running : m.running = some id)
    (task' : n.tasks[id]? = some t') : t'.control ≠ .begin := by
  cases move with
  | @advance i favoured running' =>
      rw [running] at running'
      cases running'
      cases task : m.tasks[id]? with
      | none => simp [Machine.advance, task] at task'
      | some t =>
          rw [(advanced favoured task).tasks, getElem?_set_some _ task] at task'
          cases task'
          exact Task.goes_step.1
  | resume idle | arrive idle | pass _ idle | drop idle =>
      rw [running] at idle
      cases idle

omit [Source σ V C] [Perishable V] in
/-- A move that is no step of the task leaves what it has paid for as it is. -/
theorem Attempting.beside {force : Bool} {kinds : List Kind} {t : Task V C} {made : List SourceCall}
    (h : Attempting force kinds id moves m) (layers : n.world.content.kinds = kinds)
    (meters : n.world.meters.meters.length = m.world.meters.meters.length)
    (calls : n.world.calls = m.world.calls ++ made) (others : ∀ call ∈ made, call.task ≠ id)
    (running : m.running ≠ some id) (task : m.tasks[id]? = some t)
    (task' : n.tasks[id]? = some t) : Attempting force kinds id (moves ++ [(m, n)]) n := by
  obtain ⟨u, hu, request, carries, owes, spare⟩ := h.task
  rw [task] at hu
  cases hu
  have hnone : made.filter (·.task = id) = [] := by simpa using others
  have hby : callsBy id (moves ++ [(m, n)]) = callsBy id moves := by
    rw [callsBy_snoc calls, hnone, List.append_nil]
  have hretries : retriesBy id (moves ++ [(m, n)]) = retriesBy id moves := by
    rw [retriesBy_snoc, if_neg running, Nat.add_zero]
  refine ⟨layers, by rw [meters]; exact h.metered, by rw [hby]; exact h.flags, t, task', request,
    carries, ?_, ?_⟩
  · rw [hby, hretries]
    exact owes
  · rw [hretries]
    exact spare

/-- A step of the task pays for the calls it makes. -/
theorem Attempting.step {force : Bool} {kinds : List Kind} {t t' : Task V C} (sound : m.Sound)
    (h : Attempting force kinds id moves m) (move : Move m n)
    (layers : n.world.content.kinds = kinds) (running : m.running = some id)
    (task : m.tasks[id]? = some t) (stride : Stride t m.world.content t' n.world.content)
    (same : t.Same t') (tasks : n.tasks = m.tasks.set id t') :
    Attempting force kinds id (moves ++ [(m, n)]) n := by
  obtain ⟨u, hu, request, carries, owes, spare⟩ := h.task
  rw [task] at hu
  cases hu
  have hid : t.id = id := sound.ids id t task
  have hlength := stride.length_meters
  have task' : n.tasks[id]? = some t' := by
    rw [tasks]
    exact getElem?_set_some t' task
  obtain ⟨made, retries, hcarries, hcalls, hown, hcounted, howes, hspare⟩ :=
    stride.attempt request h.metered carries (begun_move move running task')
  have hby : callsBy id (moves ++ [(m, n)]) = callsBy id moves ++ made := by
    rw [callsBy_snoc hcalls, List.filter_eq_self.2]
    simpa [hid] using fun call hcall => (hown call hcall).1
  have hretries : retriesBy id (moves ++ [(m, n)]) = retriesBy id moves + retries := by
    have hcount : (n.world.meters.tally 0).retries =
        (m.world.meters.tally 0).retries + retries := hcounted
    rw [retriesBy_snoc, if_pos running]
    omega
  rw [h.layers] at hspare
  refine ⟨layers, Nat.lt_of_lt_of_eq h.metered hlength.symm, ?_, t', task',
    same.2.trans request, hcarries, ?_, ?_⟩
  · intro call hcall
    rw [hby] at hcall
    rcases List.mem_append.1 hcall with hcall | hcall
    · exact h.flags call hcall
    · exact (hown call hcall).2
  · rw [hby, hretries, List.length_append]
    omega
  · rw [hretries]
    omega

/-- Every move keeps the fetch paid for. -/
theorem Attempting.move {force : Bool} {kinds : List Kind} (sound : m.Sound)
    (h : Attempting force kinds id moves m) (move : Move m n) :
    Attempting force kinds id (moves ++ [(m, n)]) n := by
  obtain ⟨t, task, -⟩ := h.task
  have hmove := stackMove sound move
  have hkinds := hmove.kinds.trans h.layers
  -- a move of the machine that is nobody's step makes no call and counts nothing
  have hstill : n.world.content.meters = m.world.content.meters →
      n.world.content.calls = m.world.content.calls →
      n.world.meters.meters.length = m.world.meters.meters.length ∧
        n.world.calls = m.world.calls ++ [] := fun meters calls =>
    ⟨congrArg (fun x => x.meters.length) meters, calls.trans (List.append_nil _).symm⟩
  cases hmove with
  | @turn i u u' running utask stride same tasks =>
      by_cases hi : i = id
      · subst hi
        exact h.step sound move hkinds running utask stride same tasks
      · have hid : u.id = i := sound.ids i u utask
        obtain ⟨made, hcalls, hown⟩ := stride.own_calls
        refine h.beside hkinds stride.length_meters hcalls ?_ ?_ task ?_
        · intro call hcall
          rw [hown call hcall, hid]
          exact hi
        · rw [running]
          simpa using hi
        · rw [tasks, List.getElem?_set_ne hi]
          exact task
  | arrive idle foreground tasks content =>
      obtain ⟨hmeters, hcalls⟩ := hstill (congrArg Content.meters content)
        (congrArg Content.calls content)
      refine h.beside hkinds hmeters hcalls (by simp) (by simp [idle]) task ?_
      rw [tasks]
      exact getElem?_append_some _ task
  | rest active tasks content now =>
      have hcounted := congrArg Content.meters content
      have hcalled := congrArg Content.calls content
      obtain ⟨hmeters, hcalls⟩ := hstill hcounted hcalled
      refine h.beside hkinds hmeters hcalls (by simp) ?_ task (by rw [tasks]; exact task)
      intro running
      rw [active?_of_running running task] at active
      cases active

end Moves

section Theorem

variable [Source σ V C] [Perishable V] {m n : Machine V σ C} {force : Bool}
  {moves : List (Machine V σ C × Machine V σ C)}

omit [Source σ V C] [Perishable V] in
/-- A fetch that has just arrived owes one call, and its layers can spare a retry for each way of
failing. -/
theorem attempting_of_arrival (metered : 0 < m.world.meters.meters.length) :
    Attempting force m.world.content.kinds m.tasks.length [] (m.spawn (.fetch force)).2 := by
  have hcontent : (m.spawn (.fetch force)).2.world.content = m.world.content :=
    World.content_wake _ _
  have hmeters : (m.spawn (.fetch force)).2.world.meters = m.world.meters :=
    congrArg Content.meters hcontent
  refine ⟨congrArg Content.kinds hcontent, by rw [hmeters]; exact metered, by simp [callsBy],
    Task.fresh m.tasks.length (.fetch force), by simp [spawn], rfl, Task.carries_fresh _ _ _, ?_,
    ?_⟩
  · simp [callsBy, retriesBy, Task.fresh, Control.owes, Control.level?]
  · have hpos := Nat.two_pow_pos (m.world.content.kinds.countP Kind.isRetry)
    simp only [retriesBy, List.map_nil, List.sum_nil, Task.spare, Task.fresh, Control.level?,
      sparedFrom, retriesBelow_length, spareOf]
    omega

/-- The calls of the source that a fetch makes, whatever its layers hold and whoever else is at
work, number at most one more than the retries that it records, and that is at most two to the
number of layers that retry. All of them carry the flag of the fetch. -/
theorem fetch_calls_le_retries (sound : m.Sound) (metered : 0 < m.world.meters.meters.length)
    (idle : m.running = none) (run : Run (m.spawn (.fetch force)).2 moves n) :
    (callsBy m.tasks.length moves).length ≤ 1 + retriesBy m.tasks.length moves ∧
      1 + retriesBy m.tasks.length moves ≤ 2 ^ m.world.layers.countP Layer.isRetry ∧
      ∀ call ∈ callsBy m.tasks.length moves, call.force = force := by
  have hsound : (m.spawn (.fetch force)).2.Sound := sound_move sound (.arrive idle rfl)
  have hrun : Attempting force m.world.content.kinds m.tasks.length moves n := by
    -- by induction on the run: what has been called and what is owed stays within what was recorded
    induction run with
    | start => exact attempting_of_arrival metered
    | move run move ih => exact ih.move (sound_reaches hsound run.reaches) move
  obtain ⟨t, -, -, -, howes, hspare⟩ := hrun.task
  rw [World.countP_isRetry] at hspare
  refine ⟨?_, ?_, hrun.flags⟩ <;> omega

end Theorem

/-- A source that is unavailable. -/
def absentSource : Script (Dated Nat) := ⟨[⟨0, .failure (.unavailable "down")⟩], 0, false, false, 0⟩

/-- An entry that was served for a second. -/
def lapsedEntry : Entry (Dated Nat) := ⟨⟨1, none⟩, ⟨1000000000⟩, ⟨2000000000⟩⟩

/-- Two layers that retry, and between them a cache and a value for outages that both have expired
by now. -/
def lapsedStack : Machine (Dated Nat) (Script (Dated Nat)) (ScriptReply (Dated Nat)) :=
  let settings : CacheSettings := ⟨⟨Span.ofSeconds 60, Span.ofSeconds 5⟩, Span.ofSeconds 1⟩
  let layers : List (Layer (Dated Nat)) :=
    [.retry, .outage (Span.ofSeconds 1) (some lapsedEntry),
      .cache ⟨settings, 0, some lapsedEntry, 1, Lock.free, none⟩, .retry]
  (layers.foldl addLayer (bare "chain" absentSource [])).passTo ⟨3000000000⟩

/-- A forced fetch at that stack to its end. -/
def lapsedFetch : List (Machine (Dated Nat) (Script (Dated Nat)) (ScriptReply (Dated Nat)) ×
      Machine (Dated Nat) (Script (Dated Nat)) (ScriptReply (Dated Nat))) ×
    Machine (Dated Nat) (Script (Dated Nat)) (ScriptReply (Dated Nat)) :=
  scheduled 29 (lapsedStack.spawn (.fetch true)).2

/-- Both layers retry whenever they can: as many calls of the source as two such layers allow. -/
theorem lapsed_fetch_exhausts_retries :
    (callsBy 0 lapsedFetch.1).length = 4 ∧ retriesBy 0 lapsedFetch.1 = 3 ∧
      lapsedStack.world.layers.countP Layer.isRetry = 2 ∧
      lapsedFetch.2.ended? 0 = some (.fetched (.failed (.unavailable "down")), ⟨3000000000⟩) ∧
      ∀ call ∈ callsBy 0 lapsedFetch.1, call.force = true := by
  have sound : lapsedStack.Sound := sound_of_no_tasks rfl (by decide)
  have metered : 0 < lapsedStack.world.meters.meters.length := Nat.zero_lt_one
  have run : Run (lapsedStack.spawn (.fetch true)).2 lapsedFetch.1 lapsedFetch.2 :=
    run_scheduled 29 _
  have retries : retriesBy 0 lapsedFetch.1 = 3 := rfl
  have calls : 4 ≤ (callsBy 0 lapsedFetch.1).length := by decide
  obtain ⟨hcalls, -, hforce⟩ := fetch_calls_le_retries sound metered rfl run
  refine ⟨?_, retries, rfl, rfl, hforce⟩
  have hid : lapsedStack.tasks.length = 0 := rfl
  rw [hid, retries] at hcalls
  omega

end Machine

end CredentialSupply
