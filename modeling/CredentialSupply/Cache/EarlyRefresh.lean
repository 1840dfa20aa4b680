import CredentialSupply.Cache.Lock
import CredentialSupply.Cache.Settings

set_option autoImplicit false

/-!
# Refresh before expiry

A cache may have a worker that refreshes the entry in a window before its expiry. Lookups in
the window queue a job for the worker, and in eager mode the worker also wakes by itself when
the window begins. `claimed` is the expiry of the entry for which a refresh was last
scheduled, so that an entry is scheduled once unless its refresh failed.
-/

namespace CredentialSupply

variable {V : Type}

/-- Whether an entry is served for longer than the window, so that it is worth a refresh before
its expiry. -/
def Entry.outlasts (e : Entry V) (window : Span) : Bool := window.nanos < e.lifetime

/-- The start of the window before the expiry of an entry, or the expiry when the clock does
not reach back that far. -/
def Entry.windowStart (e : Entry V) (window : Span) : Instant :=
  (e.expiresAt.earlier? window).getD e.expiresAt

/-- What a worker acts on: a job, a refresh that somebody made, or its timer. -/
inductive Signal where
  | job
  | notice
  | timer
  deriving DecidableEq

/-- A refresh to be done by the worker: the generation that it replaces, and the expiry of
that generation. -/
structure RefreshJob where
  generation : Nat
  expiresAt : Instant
  deriving DecidableEq

/-- State of the refresh before expiry. `accepting` tells whether the worker still takes jobs,
`refreshed` whether it has a refresh to take notice of, `listening` whether it waits for
either, and `stopped` that it has been told to end. -/
structure EarlyRefresh where
  window : Span
  mode : RefreshMode
  worker : TaskId
  claimed : Option Instant
  jobs : List RefreshJob
  accepting : Bool
  refreshed : Bool
  listening : Bool
  stopped : Bool

namespace EarlyRefresh

/-- Most jobs that wait in the queue. -/
def queueCapacity : Nat := 4

/-- Pause between the start of a failed refresh by the timer and the next one. -/
def retryPause : Span := Span.ofSeconds 5

/-- A worker that has not run yet. -/
def fresh (window : Span) (mode : RefreshMode) (worker : TaskId) : EarlyRefresh :=
  ⟨window, mode, worker, none, [], true, false, false, false⟩

/-- Claims the generation with the given expiry, unless that expiry is claimed already. -/
def claim? (r : EarlyRefresh) (expiresAt : Instant) : Option EarlyRefresh :=
  if r.claimed = some expiresAt then none else some { r with claimed := some expiresAt }

/-- Gives up the claim on the given expiry. -/
def unclaim (r : EarlyRefresh) (expiresAt : Instant) : EarlyRefresh :=
  if r.claimed = some expiresAt then { r with claimed := none } else r

/-- Whether the queue takes one more job. -/
def takesJob (r : EarlyRefresh) : Bool := r.accepting && r.jobs.length < queueCapacity

/-- Schedules a job unless its expiry is claimed. A job that the queue does not take leaves no
claim. -/
def schedule (r : EarlyRefresh) (job : RefreshJob) : EarlyRefresh :=
  match r.claim? job.expiresAt with
  | none => r
  | some r =>
      -- a full or closed queue leaves the expiry to the next lookup
      if r.takesJob then { r with jobs := r.jobs ++ [job] } else r.unclaim job.expiresAt

/-- The instant at which the worker wakes by itself: in eager mode, for an entry that outlasts
the window, the start of the window, but not before `retryAfter`. -/
def deadline? (r : EarlyRefresh) (entry : Option (Entry V)) (retryAfter : Option Instant) :
    Option Instant :=
  match r.mode, entry with
  | .eager, some e =>
      if e.outlasts r.window then
        let start := e.windowStart r.window
        some (match retryAfter with
          | none => start
          | some t => start.latest t)
      else none
  | _, _ => none

/-- Whether the timer of the worker starts a refresh of the entry at `now`. -/
def isDue (r : EarlyRefresh) (e : Entry V) (now : Instant) : Bool :=
  e.outlasts r.window && e.windowStart r.window ≤ now

/-- Whether the worker waits although there is something for it to do. -/
def isCalled (r : EarlyRefresh) : Bool := r.listening && (r.refreshed || !r.jobs.isEmpty)

/-- The worker ends: no job is taken any more. -/
def retire (r : EarlyRefresh) : EarlyRefresh :=
  { r with jobs := [], accepting := false, listening := false }

theorem schedule_of_claimed {r : EarlyRefresh} {job : RefreshJob}
    (h : r.claimed = some job.expiresAt) : r.schedule job = r := by
  simp [schedule, claim?, h]

end EarlyRefresh

end CredentialSupply
