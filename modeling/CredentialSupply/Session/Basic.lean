import CredentialSupply.Keys.KeySet
import CredentialSupply.Source.Script
import CredentialSupply.Stack.Build
import CredentialSupply.Stack.Description
import CredentialSupply.Token.AccessToken

set_option autoImplicit false

/-!
# Sessions

A session is one user of a stack who takes one step after another: fetches, health queries,
tasks of their own that are started and joined, waits. Between two steps everything that can
run without time passing runs; the steps of a batch follow each other at once.

A crash of a fetch is the result of that step, since the fetch has a task of its own. A health
query and the lookup of a key run in the session itself, so a crash in them ends the session:
there is no result, no step after it, and all that is left is the stack (`Ending`).
-/

namespace CredentialSupply

/-- Values in which keys may be looked up. -/
class Keyed (V : Type) where
  key? : V → String → Option Key

instance : Keyed KeySet := ⟨KeySet.find?⟩

instance : Keyed AccessToken := ⟨fun _ _ => none⟩

instance {α : Type} : Keyed (Dated α) := ⟨fun _ _ => none⟩

/-- A step of a session. -/
inductive Action where
  | fetch (force : Bool)
  | spawn (name : String) (force : Bool)
  | join (name : String)
  | burst (count : Nat) (force : Bool)
  | sleep (millis : Nat)
  | health (refresh : Bool)
  | supportsHealth
  | available
  | resolve (kid : String)
  | describe
  | close
  | drop
  | batch (actions : List Action)
  deriving Inhabited

/-- What a step results in. -/
inductive Result (V : Type) where
  | nothing
  | dropped
  | fetched (outcome : Outcome V)
  | joined (outcome : Outcome V) (endedAt : Instant)
  | health (answer : Except Failure (Option Bool))
  | truth (b : Bool)
  | count (n : Option Nat)
  | key (answer : Except Failure Key)
  | text (s : String)
  | many (results : List (Result V))

/-- A stack in use: its configuration if it is a chain, and the tasks started by name. -/
structure Session (V σ C : Type) where
  machine : Machine V σ C
  config : Option Config
  named : List (String × TaskId)

namespace Session

/-- What comes of something that a session does: an answer, or the end of the session, which leaves
the stack behind. -/
abbrev Ending (V σ C α : Type) : Type := Except (Machine V σ C) α

variable {V σ C : Type}

/-- What comes of a call that the session makes itself. -/
def ending {α : Type} (m : Machine V σ C) :
    Outcome α → Ending V σ C (Except Failure α × Machine V σ C)
  | .value a => .ok (.ok a, m)
  | .failed f => .ok (.error f, m)
  | .crashed => .error m

/-- The stack after a call of the session, whether the session goes on or has ended with it. -/
def after {α : Type} : Ending V σ C (α × Machine V σ C) → Machine V σ C
  | .ok (_, m) => m
  | .error m => m

/-- The outcome of the fetch that a task carried out. -/
def outcome? (m : Machine V σ C) (id : TaskId) : Option (Outcome V × Instant) :=
  match m.ended? id with
  | some (.fetched outcome, endedAt) => some (outcome, endedAt)
  | _ => none

/-- The result of a joined task. -/
def joined (m : Machine V σ C) (id : TaskId) : Result V :=
  match outcome? m id with
  | some (outcome, endedAt) => .joined outcome endedAt
  | none => .nothing

/-- The position of the outermost limit of the rate, and its bucket. -/
def bucket? (m : Machine V σ C) : Option (Nat × TokenBucket) :=
  (m.world.layers.zipIdx.reverse).findSome? fun (layer, index) => layer.bucket?.map (index, ·)

/-- The tokens in the outermost bucket. -/
def available (m : Machine V σ C) : Option Nat × Machine V σ C :=
  match bucket? m with
  | none => (none, m)
  | some (index, b) =>
      let (n, b) := b.available m.world.now
      (some n, m.mapWorld (·.setLayer index (.rateLimit b)))

variable [Source σ V C] [Perishable V]

/-- A fetch by the session. -/
def fetch (m : Machine V σ C) (force : Bool) : Outcome V × Machine V σ C :=
  let (id, m) := m.perform (.fetch force)
  (((outcome? m id).map Prod.fst).getD .crashed, m)

/-- A health query by the session. One that never comes back ends it too. -/
def health (m : Machine V σ C) (refresh : Bool) :
    Ending V σ C (Except Failure (Option Bool) × Machine V σ C) :=
  let (id, m) := m.perform (.health refresh)
  match m.ended? id with
  | some (.health outcome, _) => ending m outcome
  | _ => .error m

/-- Waits until a task has ended. -/
def await (m : Machine V σ C) (id : TaskId) : Machine V σ C :=
  if m.hasEnded id then m else (m.perform (.join id)).2

/-- Looks a key up: a key that the supplied value does not have is looked up once more in a
fresh one. -/
def resolve [Keyed V] (m : Machine V σ C) (kid : String) :
    Ending V σ C (Except Failure Key × Machine V σ C) :=
  match fetch m false with
  | (.value v, m) =>
      match Keyed.key? v kid with
      | some key => .ok (.ok key, m)
      | none =>
          match fetch m true with
          | (.value v, m) =>
              match Keyed.key? v kid with
              | some key => .ok (.ok key, m)
              | none => .ok (.error (.keyNotFound kid), m)
          | (.failed f, m) => .ok (.error f, m)
          | (.crashed, m) => .error m
  | (.failed f, m) => .ok (.error f, m)
  | (.crashed, m) => .error m

/-- Whether the health of the stack can be told. A chain has to be configured for it. -/
def supportsHealth (s : Session V σ C) : Bool :=
  (s.config.all Config.health) && Source.supportsHealth s.machine.world.source

/-- The stack in words. -/
def text (s : Session V σ C) : String :=
  match s.config with
  | none => s.machine.world.text
  | some c => c.chainText

/-- Starts tasks that fetch, and tells their numbers. -/
def spawnMany (m : Machine V σ C) (count : Nat) (force : Bool) : List TaskId × Machine V σ C :=
  (List.range count).foldl (fun (ids, m) _ =>
    let (id, m) := m.spawn (.fetch force)
    (ids ++ [id], m)) (([], m) : List TaskId × Machine V σ C)

/-- An action that does not depend on the stack being held. -/
def performFree (s : Session V σ C) : Action → Option (Result V × Session V σ C)
  | .sleep millis =>
      let now := s.machine.world.now
      let (_, machine) := s.machine.perform (.rest ⟨now.nanos + millis * nanosPerMilli⟩)
      some (.nothing, { s with machine })
  | .join name =>
      match s.named.lookup name with
      | none => some (.nothing, s)
      | some id =>
          let machine := await s.machine id
          some (joined machine id, { s with machine })
  | _ => none

/-- An action on a stack that is held. -/
def performHeld [Keyed V] (s : Session V σ C) :
    Action → Ending V σ C (Result V × Session V σ C)
  | .fetch force =>
      let (outcome, machine) := fetch s.machine force
      .ok (.fetched outcome, { s with machine })
  | .spawn name force =>
      let (id, machine) := s.machine.spawn (.fetch force)
      .ok (.nothing, { s with machine, named := (name, id) :: s.named })
  | .burst count force =>
      let (ids, machine) := spawnMany s.machine count force
      let machine := ids.foldl await machine
      .ok (.many (ids.map (joined machine)), { s with machine })
  | .health refresh => do
      let (answer, machine) ← health s.machine refresh
      return (.health answer, { s with machine })
  | .supportsHealth => .ok (.truth s.supportsHealth, s)
  | .available =>
      let (n, machine) := available s.machine
      .ok (.count n, { s with machine })
  | .resolve kid => do
      let (answer, machine) ← resolve s.machine kid
      return (.key answer, { s with machine })
  | .describe => .ok (.text s.text, s)
  | .close =>
      let (_, machine) := s.machine.perform .close
      .ok (.nothing, { s with machine })
  | .drop => .ok (.nothing, { s with machine := s.machine.drop })
  | .sleep _ | .join _ | .batch _ => .ok (.nothing, s)

mutual

/-- Carries out an action. -/
def perform [Keyed V] (s : Session V σ C) : Action → Ending V σ C (Result V × Session V σ C)
  | .batch actions => do
      let (results, s) ← performAll s actions
      return (.many results, s)
  | action =>
      match performFree s action with
      | some answer => .ok answer
      | none => if s.machine.dropped then .ok (.dropped, s) else performHeld s action

/-- Carries out actions one after the other, at once. -/
def performAll [Keyed V] (s : Session V σ C) :
    List Action → Ending V σ C (List (Result V) × Session V σ C)
  | [] => .ok ([], s)
  | action :: actions => do
      let (result, s) ← perform s action
      let (results, s) ← performAll s actions
      return (result :: results, s)

end

/-- A step: an action, and then everything that can run without time passing. -/
def step [Keyed V] (s : Session V σ C) (action : Action) :
    Ending V σ C (Result V × Session V σ C) := do
  let (result, s) ← s.perform action
  return (result, { s with machine := s.machine.settle })

end Session

end CredentialSupply
