import CredentialSupply.Cache.EarlyRefresh
import CredentialSupply.Source.Basic

set_option autoImplicit false

/-!
# Tasks

A task carries out one request, or is the worker of a cache. Its `Control` says what it does
next and its `Frame`s what it does with the outcome, innermost first. A task runs until its
control is one that waits; other tasks run only then.
-/

namespace CredentialSupply

/-- What a task is for. -/
inductive Request where
  | fetch (force : Bool)
  | health (refresh : Bool)
  | close
  | rest (due : Instant)
  | join (task : TaskId)
  | work (layer : Nat)
  deriving DecidableEq

/-- Whether a task with this request keeps the stack in use. -/
def Request.usesStack : Request → Bool
  | .fetch _ | .health _ | .close => true
  | .rest _ | .join _ | .work _ => false

/-- Whether a task with this request is a worker. -/
def Request.isWork : Request → Bool
  | .work _ => true
  | _ => false

/-- What a task ends with. -/
inductive Answer (V : Type) where
  | fetched (outcome : Outcome V)
  | health (outcome : Outcome (Option Bool))
  | nothing

/-- What a task does next. -/
inductive Control (V C : Type) where
  /-- Start the request. -/
  | begin
  /-- Fetch at a level. -/
  | enter (level : Nat) (force : Bool)
  /-- Call a source: the stack's own one, or another one by its position. -/
  | call (source : Option Nat) (force : Bool)
  /-- Ask for the lock of a cache, having seen a generation. -/
  | acquire (layer seen : Nat) (force : Bool)
  /-- Wait for the lock of a cache until the deadline. -/
  | queued (layer seen : Nat) (force : Bool) (deadline : Option Instant)
  /-- Go on as the holder of the lock of a cache. -/
  | locked (layer seen : Nat) (force : Bool)
  /-- Wait for a call of a source to go on. -/
  | calling (source : Option Nat) (due : Instant) (call : C)
  /-- Pass an outcome to the innermost frame. -/
  | deliver (outcome : Outcome V)
  /-- Look, as the worker of a cache, for what there is to do. -/
  | attend (layer : Nat) (retryAfter : Option Instant)
  /-- Wait, as the worker of a cache, for something to do. -/
  | listening (layer : Nat) (retryAfter deadline : Option Instant)
  /-- Wait until an instant. -/
  | resting (due : Instant)
  /-- Wait until a task has ended. -/
  | joining (task : TaskId)
  /-- Nothing: the task ended at an instant. -/
  | ended (answer : Answer V) (endedAt : Instant)

/-- Whether a task with this control lets other tasks run. -/
def Control.isWaiting {V C : Type} : Control V C → Bool
  | .queued .. | .calling .. | .listening .. | .resting _ | .joining _ | .ended .. => true
  | _ => false

/-- The instant at which a waiting task goes on by itself. -/
def Control.due? {V C : Type} : Control V C → Option Instant
  | .queued _ _ _ deadline => deadline
  | .calling _ due _ => some due
  | .listening _ _ deadline => deadline
  | .resting due => some due
  | _ => none

/-- What waits for the outcome of a fetch. -/
inductive Frame where
  /-- The first attempt of a retrying layer. -/
  | retry (layer : Nat) (force : Bool)
  /-- A layer that keeps a value for outages. -/
  | outage (layer : Nat) (force : Bool)
  /-- A layer that records health. -/
  | health (layer : Nat)
  /-- A cache whose refresh started at an instant; the task holds its lock. -/
  | load (layer : Nat) (startedAt : Instant)
  /-- A health query that started when a number of calls had ended. -/
  | query (layer observed : Nat)
  /-- A worker that carries out a job from its queue. -/
  | job (layer : Nat) (job : RefreshJob) (retryAfter : Option Instant)
  /-- A worker that carries out a job set by its timer, which fired at an instant. -/
  | timer (layer : Nat) (job : RefreshJob) (firedAt : Instant)
  deriving DecidableEq

/-- A task. -/
structure Task (V C : Type) where
  id : TaskId
  request : Request
  control : Control V C
  frames : List Frame

namespace Task

variable {V C : Type}

/-- A task that has not run yet. -/
def fresh (id : TaskId) (request : Request) : Task V C := ⟨id, request, .begin, []⟩

/-- The task with its control replaced. -/
def goto (t : Task V C) (control : Control V C) : Task V C := { t with control }

/-- The task with a frame added and its control replaced. -/
def push (t : Task V C) (frame : Frame) (control : Control V C) : Task V C :=
  { t with frames := frame :: t.frames, control }

/-- What the task ended with, and when. -/
def ended? (t : Task V C) : Option (Answer V × Instant) :=
  match t.control with
  | .ended answer endedAt => some (answer, endedAt)
  | _ => none

/-- Whether the task has ended. -/
def hasEnded (t : Task V C) : Bool := t.ended?.isSome

end Task

end CredentialSupply
