import CredentialSupply.Stack.Machine

set_option autoImplicit false

/-!
# Runs

The schedule of a machine is one of many orders in which its tasks may run. A `Move` is a move
under any of them: a ready task is resumed whichever it is, a worker acts on whichever signal
it likes, requests arrive and time passes whenever no task runs. `Reaches` is a run of moves.
The schedule is such a run (`reaches_runUntil`), so that what holds in all runs holds of it.
-/

namespace CredentialSupply

namespace Machine

variable {V σ C : Type} [Source σ V C] [Perishable V]

/-- A move of a machine. -/
inductive Move : Machine V σ C → Machine V σ C → Prop where
  /-- The running task makes a step. -/
  | advance {m : Machine V σ C} {id : TaskId} (favoured : Signal) (running : m.running = some id) :
      Move m (m.advance favoured id)
  /-- A task that has been woken runs. -/
  | resume {m : Machine V σ C} {id : TaskId} (idle : m.running = none)
      (ready : id ∈ m.world.ready) : Move m (m.resume id)
  /-- A request arrives. -/
  | arrive {m : Machine V σ C} {request : Request} (idle : m.running = none)
      (foreground : request.isWork = false) : Move m (m.spawn request).2
  /-- Time passes. -/
  | pass {m : Machine V σ C} (instant : Instant) (idle : m.running = none) :
      Move m (m.passTo instant)
  /-- The stack is given up. -/
  | drop {m : Machine V σ C} (idle : m.running = none) : Move m m.drop

/-- A run of moves. -/
inductive Reaches : Machine V σ C → Machine V σ C → Prop where
  | refl (m : Machine V σ C) : Reaches m m
  | step {m n k : Machine V σ C} : Move m n → Reaches n k → Reaches m k

theorem Reaches.trans {m n k : Machine V σ C} (h : Reaches m n) (h' : Reaches n k) :
    Reaches m k := by
  induction h with
  | refl => exact h'
  | step move _ ih => exact .step move (ih h')

theorem move_of_next? {m n : Machine V σ C} (h : m.next? = some n) : Move m n := by
  unfold next? at h
  split at h
  next id running => cases h; exact .advance .job running
  next id rest idle ready => cases h; exact .resume idle (by simp [ready])
  next idle ready =>
    unfold passTime? at h
    split at h
    next => cases h
    next due rest _ => cases h; exact .pass _ idle

theorem reaches_runUntil (done : Machine V σ C → Bool) (fuel : Nat) (m : Machine V σ C) :
    Reaches m (m.runUntil done fuel) := by
  induction fuel generalizing m with
  | zero => exact .refl m
  | succ fuel ih =>
    unfold runUntil
    split
    next => exact .refl m
    next =>
      split
      next => exact .refl m
      next n h => exact .step (move_of_next? h) (ih n)

/-- A request that has arrived is carried out by further moves. -/
theorem reaches_carriedOut {m : Machine V σ C} (request : Request) (idle : m.running = none) :
    Reaches (m.spawn request).2 (m.perform request).2 := by
  have start : Move (m.spawn request).2 ((m.spawn request).2.resume (m.spawn request).1) :=
    .resume idle (by
      simp only [spawn, World.wake]
      split
      next h => exact h
      next => simp)
  have run := reaches_runUntil (·.hasEnded (m.spawn request).1) patience
    ((m.spawn request).2.resume (m.spawn request).1)
  exact .step start run

theorem reaches_perform {m : Machine V σ C} {request : Request} (idle : m.running = none)
    (foreground : request.isWork = false) : Reaches m (m.perform request).2 :=
  .step (.arrive idle foreground) (reaches_carriedOut request idle)

end Machine

end CredentialSupply
