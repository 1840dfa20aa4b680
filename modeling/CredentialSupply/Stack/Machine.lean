import CredentialSupply.Stack.Step

set_option autoImplicit false

/-!
# Machines

A `Machine` is a world with its tasks. At most one task runs at a time, until it waits; then
the task that was woken first runs. A worker that could act on several signals takes a job
first. Time passes only when no task is ready, up to the next whole millisecond at which some
task goes on by itself. `Machine.next?` is one move of this schedule, and `Machine.runUntil`
makes moves until a condition holds.
-/

namespace CredentialSupply

/-- A world and its tasks, each at the position that is its number. -/
structure Machine (V σ C : Type) where
  world : World V σ
  tasks : List (Task V C)
  running : Option TaskId
  dropped : Bool

namespace Machine

variable {V σ C : Type}

/-- The machine with its world changed. -/
def mapWorld (m : Machine V σ C) (f : World V σ → World V σ) : Machine V σ C :=
  { m with world := f m.world }

/-- What a task ended with, and when. -/
def ended? (m : Machine V σ C) (id : TaskId) : Option (Answer V × Instant) :=
  (m.tasks[id]?).bind Task.ended?

/-- Whether a task has ended. -/
def hasEnded (m : Machine V σ C) (id : TaskId) : Bool := (m.ended? id).isSome

/-! ## Tasks come and go -/

/-- A new task that will run after those that have been woken. -/
def spawn (m : Machine V σ C) (request : Request) : TaskId × Machine V σ C :=
  let id := m.tasks.length
  (id, { m with tasks := m.tasks ++ [Task.fresh id request], world := m.world.wake id })

/-- A task that has been woken runs. -/
def resume (m : Machine V σ C) (id : TaskId) : Machine V σ C :=
  { m with world := { m.world with ready := m.world.ready.erase id }, running := some id }

/-- A new task that runs at once. -/
def submit (m : Machine V σ C) (request : Request) : TaskId × Machine V σ C :=
  let spawned := m.spawn request
  (spawned.1, spawned.2.resume spawned.1)

/-- Whether a task keeps the stack in use. -/
def isInUse (m : Machine V σ C) : Bool :=
  m.tasks.any fun t => t.request.usesStack && !t.hasEnded

/-- The workers of a stack that nobody holds or uses are told to end. -/
def reclaim (m : Machine V σ C) : Machine V σ C :=
  if m.dropped && !m.isInUse then m.mapWorld World.stopWorkers else m

/-- Nobody holds the stack any more. -/
def drop (m : Machine V σ C) : Machine V σ C := { m with dropped := true }.reclaim

/-- Whether a task waits for the end of the given one. -/
def isJoining (id : TaskId) (t : Task V C) : Bool :=
  match t.control with
  | .joining task => task == id
  | _ => false

/-- The tasks that wait for the end of a task are woken. -/
def wakeJoining (m : Machine V σ C) (id : TaskId) : Machine V σ C :=
  m.mapWorld fun w => (m.tasks.filter (isJoining id)).foldl (fun w t => w.wake t.id) w

/-- Whether a task lets other tasks run. A task that is to wait for one that has ended goes on. -/
def isWaiting (m : Machine V σ C) (t : Task V C) : Bool :=
  match t.control with
  | .joining task => !m.hasEnded task
  | control => control.isWaiting

/-! ## Time -/

/-- The instants at which waiting tasks go on by themselves. -/
def dueInstants (m : Machine V σ C) : List Instant :=
  m.tasks.filterMap fun t => t.control.due?.map Instant.ceilMilli

/-- The clock moves on to an instant, and the tasks that are due are woken. -/
def passTo (m : Machine V σ C) (instant : Instant) : Machine V σ C :=
  let world := { m.world with now := m.world.now.latest instant }
  let isDue (t : Task V C) : Bool := t.control.due?.any fun due => due.ceilMilli ≤ world.now
  -- those that are due at the same instant run in the order of their numbers
  { m with world := (m.tasks.filter isDue).foldl (fun w t => w.wake t.id) world }

/-- Time passes until some task goes on by itself; none if no task ever does. -/
def passTime? (m : Machine V σ C) : Option (Machine V σ C) :=
  match m.dueInstants with
  | [] => none
  | due :: rest => some (m.passTo (rest.foldl Instant.earliest due))

/-- Whether no task is running or ready. -/
def isSettled (m : Machine V σ C) : Bool := m.running.isNone && m.world.ready.isEmpty

/-! ## Schedule -/

variable [Source σ V C] [Perishable V]

/-- One step of the running task. -/
def advance (m : Machine V σ C) (favoured : Signal) (id : TaskId) : Machine V σ C :=
  match m.tasks[id]? with
  | none => { m with running := none }
  | some t =>
      let (world, t) := t.step m.world favoured
      let m := { m with world, tasks := m.tasks.set id t }
      let m := { m with running := if m.isWaiting t then none else some id }
      -- the end of a task may be the end of the last use of the stack
      if t.hasEnded then (m.wakeJoining id).reclaim else m

/-- One move of the schedule; none if nothing can ever happen again. -/
def next? (m : Machine V σ C) : Option (Machine V σ C) :=
  match m.running, m.world.ready with
  | some id, _ => some (m.advance .job id)
  | none, id :: _ => some (m.resume id)
  | none, [] => m.passTime?

/-- At most `fuel` moves of the schedule, until the condition holds. -/
def runUntil (done : Machine V σ C → Bool) : Nat → Machine V σ C → Machine V σ C
  | 0, m => m
  | fuel + 1, m =>
      if done m then m
      else
        match m.next? with
        | none => m
        | some m => runUntil done fuel m

/-- Moves that a run is given; no run in practice comes near. -/
def patience : Nat := 1000000000

/-- Runs until no task is running or ready, without time passing. -/
def settle (m : Machine V σ C) : Machine V σ C := m.runUntil isSettled patience

/-- Runs a new task to its end. -/
def perform (m : Machine V σ C) (request : Request) : TaskId × Machine V σ C :=
  let submitted := m.submit request
  (submitted.1, submitted.2.runUntil (·.hasEnded submitted.1) patience)

end Machine

end CredentialSupply
