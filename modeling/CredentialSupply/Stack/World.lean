import CredentialSupply.Metrics.Meter
import CredentialSupply.Source.Basic
import CredentialSupply.Stack.Layer

set_option autoImplicit false

/-!
# What tasks share

The `World` holds what all tasks of a stack see and change: the clock, the layers, the
sources, the meters, the record of the calls of the stack's own source, and the tasks that
have been woken, in the order in which they will run.
-/

namespace CredentialSupply

/-- A call of the source: when it started, whether it was forced, and the task that made it. -/
structure SourceCall where
  startedAt : Instant
  force : Bool
  task : TaskId
  deriving DecidableEq

/-- What the tasks of a stack share. `source` is at the bottom of the stack, and `others` are
targets of health queries outside it. The first meter is the one that the layers share. -/
structure World (V σ : Type) where
  now : Instant
  layers : List (Layer V)
  source : σ
  others : List σ
  meters : Meters
  calls : List SourceCall
  ready : List TaskId

namespace World

variable {V σ : Type}

/-- The cache that is a layer. -/
def cache? (w : World V σ) (layer : Nat) : Option (Cache V) := (w.layers[layer]?).bind Layer.cache?

/-- The world with one layer replaced. -/
def setLayer (w : World V σ) (layer : Nat) (l : Layer V) : World V σ :=
  { w with layers := w.layers.set layer l }

/-- The world with the cache that is a layer changed. -/
def mapCache (w : World V σ) (layer : Nat) (f : Cache V → Cache V) : World V σ :=
  { w with layers := w.layers.modify layer (Layer.mapCache f) }

/-- The world with the refresh before expiry of a cache changed. -/
def mapEarly (w : World V σ) (layer : Nat) (f : EarlyRefresh → EarlyRefresh) : World V σ :=
  w.mapCache layer (Cache.mapEarly · f)

/-- The refresh before expiry of the cache that is a layer. -/
def early? (w : World V σ) (layer : Nat) : Option EarlyRefresh := (w.cache? layer).bind Cache.early

/-- The stack's own source, or another one by its position. -/
def source? (w : World V σ) : Option Nat → Option σ
  | none => some w.source
  | some index => w.others[index]?

/-- The world with a source replaced. -/
def setSource (w : World V σ) (s : σ) : Option Nat → World V σ
  | none => { w with source := s }
  | some index => { w with others := w.others.set index s }

/-- The world after an event is counted. -/
def count (w : World V σ) (meter : Nat) (event : Event) : World V σ :=
  { w with meters := w.meters.record meter event }

/-- The name of the stack, under which its layers count. -/
def chain (w : World V σ) : String := w.meters.name 0

/-- The world with a task woken: it will run after those that have been woken before. -/
def wake (w : World V σ) (id : TaskId) : World V σ :=
  if id ∈ w.ready then w else { w with ready := w.ready ++ [id] }

/-- Wakes the worker of a cache if it waits although there is something for it to do. -/
def rouse (w : World V σ) (layer : Nat) : World V σ :=
  match w.early? layer with
  | none => w
  | some r => if r.isCalled then w.wake r.worker else w

/-- Releases the lock of a cache and wakes the task that gets it. -/
def release (w : World V σ) (layer : Nat) : World V σ :=
  match w.cache? layer with
  | none => w
  | some c =>
      let lock := c.lock.release
      let freed := w.mapCache layer fun c => { c with lock }
      match lock.holder with
      | none => freed
      | some id => freed.wake id

/-- Takes a task out of the lock of a cache, whether it holds the lock or waits for it. -/
def withdraw (w : World V σ) (layer : Nat) (id : TaskId) : World V σ :=
  match w.cache? layer with
  | none => w
  | some c =>
      if c.lock.isHeldBy id then w.release layer
      else w.mapCache layer fun c => { c with lock := c.lock.leave id }

/-- Tells the worker of a cache to end. -/
def stopWorker (w : World V σ) (layer : Nat) : World V σ :=
  match w.early? layer with
  | none => w
  | some r =>
      if r.accepting then (w.mapEarly layer ({ · with stopped := true })).wake r.worker else w

/-- Tells all workers to end, those of the outer layers first. -/
def stopWorkers (w : World V σ) : World V σ :=
  (List.range w.layers.length).reverse.foldl stopWorker w

/-- The outermost cache. -/
def outermostCache? (w : World V σ) : Option (Cache V) := w.layers.reverse.findSome? Layer.cache?

/-- The outermost layer that records health, with its position. -/
def healthLayer? (w : World V σ) : Option (Nat × HealthRecord) :=
  (w.layers.zipIdx.reverse).findSome? fun (layer, index) => layer.health?.map (index, ·)

end World

end CredentialSupply
