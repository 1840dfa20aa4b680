set_option autoImplicit false

/-!
# Fair locks

A lock is held by at most one task, and the tasks that wait for it get it in the order in
which they asked. A release hands the lock over to the first waiting task.
-/

namespace CredentialSupply

/-- The number of a task. -/
abbrev TaskId := Nat

/-- A lock: who holds it, and who waits for it in order. -/
structure Lock where
  holder : Option TaskId
  waiting : List TaskId
  deriving DecidableEq

namespace Lock

/-- A lock that nobody holds. -/
def free : Lock := ⟨none, []⟩

/-- Whether the task holds the lock. -/
def isHeldBy (l : Lock) (id : TaskId) : Bool := l.holder = some id

/-- The task asks for the lock: it gets a free lock, and otherwise waits as the last one. -/
def ask (l : Lock) (id : TaskId) : Lock :=
  match l.holder with
  | none => { l with holder := some id }
  | some _ => { l with waiting := l.waiting ++ [id] }

/-- The holder gives the lock to the task that has waited longest. -/
def release (l : Lock) : Lock :=
  match l.waiting with
  | [] => free
  | id :: rest => ⟨some id, rest⟩

/-- The task gives up waiting. -/
def leave (l : Lock) (id : TaskId) : Lock := { l with waiting := l.waiting.erase id }

theorem holder_release (l : Lock) : l.release.holder = l.waiting.head? := by
  unfold release
  cases l.waiting <;> rfl

end Lock

end CredentialSupply
