import CredentialSupply.Stack.Task
import CredentialSupply.Stack.World

set_option autoImplicit false

/-!
# Steps of a task

`Task.step` is one step of a running task: a fetch descends through the layers to the source
or to an entry, and its outcome comes back up through the frames that the layers left. A step
changes the world and the task and takes no time. A worker that has been told to end gives up
what it holds instead.
-/

namespace CredentialSupply

variable {V σ C : Type}

namespace Task

/-- The task passes an outcome on. -/
def pass (t : Task V C) (outcome : Outcome V) : Task V C := t.goto (.deliver outcome)

/-- The task ends. -/
def finish (t : Task V C) (w : World V σ) (answer : Answer V) : World V σ × Task V C :=
  (w, t.goto (.ended answer w.now))

/-! ## Down to the source -/

/-- A call of a source waits or has ended. -/
def await (t : Task V C) (source : Option Nat) : Progress V C → Task V C
  | .wait due call => t.goto (.calling source due call)
  | .answer outcome => t.pass outcome

/-- The task calls a source. Calls of the stack's own source are recorded. -/
def callSource [Source σ V C] (t : Task V C) (w : World V σ) (source : Option Nat) (force : Bool) :
    World V σ × Task V C :=
  match w.source? source with
  | none => (w, t.pass (.failed .healthNotSupported))
  | some s =>
      let (s, progress) := Source.start force w.now s
      let calls := if source.isNone then w.calls ++ [⟨w.now, force, t.id⟩] else w.calls
      ({ w.setSource s source with calls }, t.await source progress)

/-- A call of a source goes on. -/
def resumeCall [Source σ V C] (t : Task V C) (w : World V σ) (source : Option Nat) (due : Instant)
    (call : C) : World V σ × Task V C :=
  if due.ceilMilli ≤ w.now then
    match w.source? source with
    | none => (w, t.pass (.failed .healthNotSupported))
    | some s =>
        let (s, progress) := Source.resume call w.now s
        (w.setSource s source, t.await source progress)
  else (w, t)

/-- A fetch at a cache: a valid entry is served, unless the fetch is forced, and otherwise the
task asks for the lock. -/
def lookUp (t : Task V C) (w : World V σ) (layer : Nat) (c : Cache V) (force : Bool) :
    World V σ × Task V C :=
  match if force then none else c.valid? w.now with
  | none => (w.count c.meter .miss, t.goto (.acquire layer c.generation force))
  | some e =>
      match c.noticed? e w.now with
      -- the clock does not represent the end of the window
      | none => (w, t.pass .crashed)
      | some c =>
          (((w.setLayer layer (.cache c)).rouse layer).count c.meter .hit, t.pass (.value e.value))

/-- A fetch at a rate limit: it goes through with a token, and otherwise fails. -/
def throttle (t : Task V C) (w : World V σ) (layer : Nat) (b : TokenBucket) (force : Bool) :
    World V σ × Task V C :=
  let (granted, b) := b.tryAcquire w.now
  let w := w.setLayer layer (.rateLimit b)
  if granted then (w, t.goto (.enter layer force))
  else (w.count 0 .rateLimited, t.pass (.failed (.rateLimitExceeded w.chain)))

/-- A fetch at a level. -/
def enter (t : Task V C) (w : World V σ) (level : Nat) (force : Bool) : World V σ × Task V C :=
  match level with
  | 0 => (w, t.goto (.call none force))
  | layer + 1 =>
      match w.layers[layer]? with
      | none => (w, t.goto (.enter layer force))
      | some .retry => (w, t.push (.retry layer force) (.enter layer force))
      | some (.outage _ _) => (w, t.push (.outage layer force) (.enter layer force))
      | some (.rateLimit b) => t.throttle w layer b force
      | some (.health _) => (w, t.push (.health layer) (.enter layer force))
      | some (.cache c) => t.lookUp w layer c force

/-! ## The lock of a cache -/

/-- The task asks for the lock of a cache, to wait for it no longer than the settings say. -/
def acquire (t : Task V C) (w : World V σ) (layer seen : Nat) (force : Bool) :
    World V σ × Task V C :=
  match w.cache? layer with
  | none => (w, t.pass .crashed)
  | some c =>
      let lock := c.lock.ask t.id
      let w := w.mapCache layer fun c => { c with lock }
      if lock.isHeldBy t.id then (w, t.goto (.locked layer seen force))
      -- a deadline that the clock does not represent never comes
      else (w, t.goto (.queued layer seen force (w.now.later? c.settings.refreshTimeout)))

/-- The task has been waiting for the lock of a cache: it goes on if it got the lock, and fails
if the deadline has passed. -/
def stopWaiting (t : Task V C) (w : World V σ) (layer seen : Nat) (force : Bool)
    (deadline : Option Instant) : World V σ × Task V C :=
  match w.cache? layer with
  | none => (w, t.pass .crashed)
  | some c =>
      -- a task that has been given the lock goes on even when the deadline has passed
      if c.lock.isHeldBy t.id then (w, t.goto (.locked layer seen force))
      else if deadline.any fun d => d.ceilMilli ≤ w.now then
        (w.mapCache layer fun c => { c with lock := c.lock.leave t.id },
          t.pass (.failed (.refreshTimeout c.settings.refreshTimeout)))
      else (w, t)

/-- The refresh of a cache ends with the entry `e`. -/
def settle (t : Task V C) (w : World V σ) (layer : Nat) (e : Entry V) : World V σ × Task V C :=
  (w.release layer, t.pass (if e.isValid w.now then .value e.value else .failed .refreshFailed))

/-- The holder of the lock takes over an entry installed since it looked, and otherwise fetches
a new value. -/
def refresh (t : Task V C) (w : World V σ) (layer seen : Nat) (force : Bool) :
    World V σ × Task V C :=
  match (w.cache? layer).bind (·.replacement? seen) with
  | some e => t.settle w layer e
  | none => (w, t.push (.load layer w.now) (.enter layer force))

/-- The value for a refresh has come: it is installed, unless the clock does not represent its
expiry. -/
def install [Perishable V] (t : Task V C) (w : World V σ) (layer : Nat) (startedAt : Instant)
    (value : V) : World V σ × Task V C :=
  match w.cache? layer with
  | none => (w, t.pass .crashed)
  | some c =>
      match c.settings.lifetime.entry? value w.now with
      | none => (w.release layer, t.pass .crashed)
      | some e =>
          let w := (w.mapCache layer (·.install e)).rouse layer
          t.settle (w.count c.meter (.refreshed (w.now.since startedAt))) layer e

/-- The fetch for a refresh has ended. -/
def refreshed [Perishable V] (t : Task V C) (w : World V σ) (layer : Nat) (startedAt : Instant) :
    Outcome V → World V σ × Task V C
  | .value v => t.install w layer startedAt v
  | .failed f =>
      let meter := ((w.cache? layer).map Cache.meter).getD 0
      ((w.count meter .refreshFailed).release layer, t.pass (.failed f))
  | .crashed => (w.release layer, t.pass .crashed)

/-! ## Workers -/

/-- The worker of a cache ends. -/
def retire (t : Task V C) (w : World V σ) (layer : Nat) : World V σ × Task V C :=
  { t with frames := [] }.finish (w.mapEarly layer EarlyRefresh.retire) .nothing

/-- The worker pauses before its timer may start another refresh. -/
def pause (t : Task V C) (w : World V σ) (layer : Nat) (firedAt : Instant) :
    World V σ × Task V C :=
  match firedAt.later? EarlyRefresh.retryPause with
  -- the clock does not represent the end of the pause, and the worker crashes
  | none => t.retire w layer
  | some retryAfter => (w, t.goto (.attend layer (some retryAfter)))

/-- The worker takes a job from the queue. -/
def takeJob (t : Task V C) (w : World V σ) (layer : Nat) (retryAfter : Option Instant)
    (job : RefreshJob) (rest : List RefreshJob) : World V σ × Task V C :=
  (w.mapEarly layer ({ · with jobs := rest, listening := false }),
    t.push (.job layer job retryAfter) (.acquire layer job.generation false))

/-- The worker takes notice of a refresh. -/
def takeNotice (t : Task V C) (w : World V σ) (layer : Nat) : World V σ × Task V C :=
  (w.mapEarly layer ({ · with refreshed := false, listening := false }),
    t.goto (.attend layer none))

/-- The timer of the worker fires: the entry is refreshed if its window has begun and no
refresh of it is scheduled. -/
def fireTimer (t : Task V C) (w : World V σ) (layer : Nat) (c : Cache V) (r : EarlyRefresh) :
    World V σ × Task V C :=
  let w := w.mapEarly layer ({ · with listening := false })
  match c.entry.filter fun e => r.isDue e w.now with
  | none => (w, t.goto (.attend layer none))
  | some e =>
      match r.claim? e.expiresAt with
      -- a refresh of the entry is on its way
      | none => t.pause w layer w.now
      | some _ =>
          (w.mapEarly layer ({ · with claimed := some e.expiresAt }),
            t.push (.timer layer ⟨c.generation, e.expiresAt⟩ w.now)
              (.acquire layer c.generation false))

/-- What the worker does when it follows a signal; none if the signal is not there. -/
def follow? (t : Task V C) (w : World V σ) (layer : Nat) (retryAfter deadline : Option Instant)
    (c : Cache V) (r : EarlyRefresh) : Signal → Option (World V σ × Task V C)
  | .job =>
      match r.jobs with
      | [] => none
      | job :: rest => some (t.takeJob w layer retryAfter job rest)
  | .notice => if r.refreshed then some (t.takeNotice w layer) else none
  | .timer =>
      if deadline.any fun d => d.ceilMilli ≤ w.now then some (t.fireTimer w layer c r) else none

/-- The worker follows a signal, the favoured one if it is there, or waits for one. -/
def listen (t : Task V C) (w : World V σ) (favoured : Signal) (layer : Nat)
    (retryAfter deadline : Option Instant) : World V σ × Task V C :=
  match w.cache? layer, w.early? layer with
  | some c, some r =>
      -- the favoured signal comes first, and the others in a fixed order
      match [favoured, .job, .notice, .timer].findSome?
          (t.follow? w layer retryAfter deadline c r) with
      | some next => next
      | none => (w.mapEarly layer ({ · with listening := true }),
          t.goto (.listening layer retryAfter deadline))
  | _, _ => t.retire w layer

/-- The worker looks when its timer is to fire, and then for a signal. -/
def attend (t : Task V C) (w : World V σ) (favoured : Signal) (layer : Nat)
    (retryAfter : Option Instant) : World V σ × Task V C :=
  let deadline := (w.early? layer).bind fun r =>
    r.deadline? ((w.cache? layer).bind Cache.entry) retryAfter
  t.listen w favoured layer retryAfter deadline

/-- The worker has refreshed for a job. -/
def jobDone (t : Task V C) (w : World V σ) (layer : Nat) (job : RefreshJob)
    (retryAfter : Option Instant) : Outcome V → World V σ × Task V C
  | .value _ => (w, t.goto (.attend layer retryAfter))
  | .failed _ => (w.mapEarly layer (·.unclaim job.expiresAt), t.goto (.attend layer retryAfter))
  | .crashed => t.retire w layer

/-- The worker has refreshed for its timer. -/
def timerDone (t : Task V C) (w : World V σ) (layer : Nat) (job : RefreshJob)
    (firedAt : Instant) : Outcome V → World V σ × Task V C
  | .value _ => (w, t.goto (.attend layer none))
  | .failed _ => t.pause (w.mapEarly layer (·.unclaim job.expiresAt)) layer firedAt
  | .crashed => t.retire w layer

/-- A task gives up the lock that its control tells it waits for. -/
def stopQueueing (id : TaskId) (w : World V σ) : Control V C → World V σ
  | .queued layer _ _ _ => w.withdraw layer id
  | _ => w

/-- A task gives up the lock that a frame tells it holds. -/
def stopLoading (id : TaskId) (w : World V σ) : Frame → World V σ
  | .load layer _ => w.withdraw layer id
  | _ => w

/-- The worker gives up the locks that it holds and waits for, and ends. -/
def abandon (t : Task V C) (w : World V σ) (layer : Nat) : World V σ × Task V C :=
  t.retire (t.frames.foldl (stopLoading t.id) (stopQueueing t.id w t.control)) layer

/-! ## Up through the layers -/

/-- A layer that retries once passes an outcome on, or fetches again. -/
def retried (t : Task V C) (w : World V σ) (layer : Nat) (force : Bool) (outcome : Outcome V) :
    World V σ × Task V C :=
  match outcome with
  | .failed f =>
      if f.isUnavailable then (w.count 0 .retried, t.goto (.enter layer force))
      else (w, t.pass outcome)
  | _ => (w, t.pass outcome)

/-- A layer for outages keeps a value, and serves the kept one, unless the fetch is forced, while
the source is unavailable. -/
def bridged (t : Task V C) (w : World V σ) (layer : Nat) (force : Bool) (outcome : Outcome V) :
    World V σ × Task V C :=
  match w.layers[layer]?, outcome with
  | some (.outage timeToLive _), .value v =>
      match w.now.later? timeToLive with
      -- the clock does not represent the end of the time to live
      | none => (w, t.pass .crashed)
      | some expiresAt =>
          (w.setLayer layer (.outage timeToLive (some ⟨v, w.now, expiresAt⟩)), t.pass outcome)
  | some (.outage _ (some e)), .failed f =>
      -- a forced fetch wants a new value or none
      if f.isUnavailable && !force && e.isValid w.now then
        (w.count 0 .outageServed, t.pass (.value e.value))
      else (w, t.pass outcome)
  | _, _ => (w, t.pass outcome)

/-- A layer that records health records whether a call produced a value. -/
def observed (t : Task V C) (w : World V σ) (layer : Nat) (outcome : Outcome V) :
    World V σ × Task V C :=
  match w.layers[layer]?, outcome with
  | _, .crashed => (w, t.pass outcome)
  | some (.health h), _ => (w.setLayer layer (.health (h.observe outcome.isValue)), t.pass outcome)
  | _, _ => (w, t.pass outcome)

/-- The fetch of a health query has ended. -/
def queried (t : Task V C) (w : World V σ) (layer observed : Nat) (outcome : Outcome V) :
    World V σ × Task V C :=
  match outcome with
  | .crashed => t.finish w (.health .crashed)
  | _ =>
      let status := match (w.layers[layer]?).bind Layer.health? with
        | none => true
        | some h => h.statusSince observed
      t.finish w (.health (.value (some status)))

/-- An outcome reaches the innermost frame, or is the answer of the task. -/
def deliver [Perishable V] (t : Task V C) (w : World V σ) (outcome : Outcome V) :
    World V σ × Task V C :=
  match t.frames with
  | [] => t.finish w (.fetched outcome)
  | frame :: frames =>
      let t := { t with frames }
      match frame with
      | .retry layer force => t.retried w layer force outcome
      | .outage layer force => t.bridged w layer force outcome
      | .health layer => t.observed w layer outcome
      | .load layer startedAt => t.refreshed w layer startedAt outcome
      | .query layer observed => t.queried w layer observed outcome
      | .job layer job retryAfter => t.jobDone w layer job retryAfter outcome
      | .timer layer job firedAt => t.timerDone w layer job firedAt outcome

/-! ## Requests -/

/-- A health query: the status on record, or, when a better one is asked for, the status after
a fetch through the target. -/
def ask [Source σ V C] (t : Task V C) (w : World V σ) (refresh : Bool) : World V σ × Task V C :=
  match w.healthLayer? with
  | none => t.finish w (.health (.failed .healthNotSupported))
  | some (layer, h) =>
      if Source.supportsHealth w.source then
        if refresh && h.success ≠ some true then
          let control : Control V C := match h.target with
            | some (.level level) => .enter level false
            | some (.source index) => .call (some index) false
            -- without a target the fetch starts at the record itself
            | some .gone | none => .enter (layer + 1) false
          (w, t.push (.query layer h.observed) control)
        else t.finish w (.health (.value h.success))
      else t.finish w (.health (.failed .healthNotSupported))

/-- Closing a stack ends its workers and closes its source. -/
def close [Source σ V C] (t : Task V C) (w : World V σ) : World V σ × Task V C :=
  let w := w.stopWorkers
  let (source, due?) := Source.close w.now w.source
  let w := { w with source }
  match due? with
  | none => t.finish w .nothing
  | some due => (w, t.goto (.resting due))

/-- The task starts its request. -/
def start [Source σ V C] (t : Task V C) (w : World V σ) : World V σ × Task V C :=
  match t.request with
  | .fetch force => (w, t.goto (.enter w.layers.length force))
  | .health refresh => t.ask w refresh
  | .close => t.close w
  | .rest due => (w, t.goto (.resting due))
  | .join task => (w, t.goto (.joining task))
  | .work layer => (w, t.goto (.attend layer none))

/-- One step of a task that has not been told to end. -/
def advance [Source σ V C] [Perishable V] (t : Task V C) (w : World V σ) (favoured : Signal) :
    World V σ × Task V C :=
  match t.control with
  | .begin => t.start w
  | .enter level force => t.enter w level force
  | .call source force => t.callSource w source force
  | .acquire layer seen force => t.acquire w layer seen force
  | .queued layer seen force deadline => t.stopWaiting w layer seen force deadline
  | .locked layer seen force => t.refresh w layer seen force
  | .calling source due call => t.resumeCall w source due call
  | .deliver outcome => t.deliver w outcome
  | .attend layer retryAfter => t.attend w favoured layer retryAfter
  | .listening layer retryAfter deadline => t.listen w favoured layer retryAfter deadline
  | .resting due => if due.ceilMilli ≤ w.now then t.finish w .nothing else (w, t)
  | .joining _ => t.finish w .nothing
  | .ended _ _ => (w, t)

/-- Whether the task is a worker that has been told to end. -/
def isStopped (t : Task V C) (w : World V σ) : Bool :=
  match t.request with
  | .work layer => (w.early? layer).any (·.stopped)
  | _ => false

/-- One step of a task. A worker follows the favoured signal where it could follow several. -/
def step [Source σ V C] [Perishable V] (t : Task V C) (w : World V σ) (favoured : Signal) :
    World V σ × Task V C :=
  match t.request, t.isStopped w with
  | .work layer, true => t.abandon w layer
  | _, _ => t.advance w favoured

end Task

end CredentialSupply
