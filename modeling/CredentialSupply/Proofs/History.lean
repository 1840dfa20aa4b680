import CredentialSupply.Proofs.Sound

set_option autoImplicit false

/-!
# Runs with their history

A `Run` is a run of moves together with the list of its moves, oldest first. What happens at a
cache is read off a move: an inner call ends (`innerEnd?`), and a fetch returns (`Returns`). The
ends of all inner calls over a run (`innerEnds`), and those that succeeded (`successes`), are what
the entry of a cache is compared with. The `scheduled` runs are those that a machine takes by
itself, with no choice left.
-/

namespace CredentialSupply

variable {V σ C : Type}

namespace Task

/-- The outcome of the inner call of the cache at a layer, if the task is about to hand it to the
cache. -/
def innerOutcome? (t : Task V C) (layer : Nat) : Option (Outcome V) :=
  match t.control, t.frames with
  | .deliver outcome, .load l _ :: _ => if l = layer then some outcome else none
  | _, _ => none

/-- Whether the task is in a fetch at the cache at a layer: about to look it up, or somewhere
between the lookup and the outcome. -/
def IsInside (layer : Nat) (t : Task V C) : Prop :=
  (∃ force, t.control = .enter (layer + 1) force) ∨ t.stage layer ≠ .away

variable {layer : Nat} {t : Task V C}

theorem innerOutcome?_eq_none (h : ∀ outcome, t.control ≠ .deliver outcome) :
    t.innerOutcome? layer = none := by
  rw [innerOutcome?]
  split
  next outcome l startedAt rest control _ => exact absurd control (h outcome)
  next => rfl

theorem innerOutcome?_of_load {startedAt : Instant} {frames : List Frame} {outcome : Outcome V}
    (control : t.control = .deliver outcome) (head : t.frames = .load layer startedAt :: frames) :
    t.innerOutcome? layer = some outcome := by
  simp [innerOutcome?, control, head]

theorem innerOutcome?_of_single {f : Frame} (frames : t.frames = [f])
    (h : f.isLoad layer = false) : t.innerOutcome? layer = none := by
  rw [innerOutcome?]
  split
  next l startedAt rest _ hf =>
    rw [frames] at hf
    cases hf
    simpa [Frame.isLoad] using h
  next => rfl

theorem ActsOn.of_innerOutcome? {outcome : Outcome V} (h : t.innerOutcome? layer = some outcome) :
    t.ActsOn layer ∧ t.stage layer = .loading := by
  unfold innerOutcome? at h
  split at h
  next o l startedAt frames control head =>
    split at h
    next hl =>
      subst hl
      refine ⟨?_, ?_⟩
      · simp only [ActsOn, control]
        exact ⟨_, _, head, Or.inl (by simp [Frame.isLoad])⟩
      · exact stage_of_load control head
    next => cases h
  next => cases h

end Task

section Turn

variable [Perishable V] {layer : Nat} {now : Instant} {t t' : Task V C} {c c' : Cache V}

/-- The entry changes exactly when an inner call has produced a value whose stamp the clock
represents. -/
theorem Turn.entry_cases (h : Turn layer now t c t' c') :
    (c'.entry = c.entry ∧ c'.generation = c.generation ∧
        ∀ v, t.innerOutcome? layer = some (.value v) → c.settings.lifetime.entry? v now = none) ∨
      ∃ v e, t.innerOutcome? layer = some (.value v) ∧ c.settings.lifetime.entry? v now = some e ∧
        c'.entry = some e ∧ c'.generation = c.generation + 1 := by
  have hno : t.innerOutcome? layer = none → ∀ v, t.innerOutcome? layer = some (.value v) →
      c.settings.lifetime.entry? v now = none := by
    intro h v h'
    rw [h] at h'
    cases h'
  have hcontrol : (∀ outcome, t.control ≠ .deliver outcome) →
      ∀ v, t.innerOutcome? layer = some (.value v) → c.settings.lifetime.entry? v now = none :=
    fun h => hno (Task.innerOutcome?_eq_none h)
  have hattends : t.Attends layer →
      ∀ v, t.innerOutcome? layer = some (.value v) → c.settings.lifetime.entry? v now = none :=
    fun attends => hcontrol fun _ => attends.not_deliver
  cases h with
  | elsewhere acts =>
      refine Or.inl ⟨rfl, rfl, fun v hv => ?_⟩
      exact absurd (Task.ActsOn.of_innerOutcome? hv).1 acts
  | hit control valid noticed =>
      have hkept : c'.entry = c.entry ∧ c'.generation = c.generation := by
        rcases Cache.noticed?_cases noticed with rfl | ⟨r, -, -, -, rfl⟩ <;> exact ⟨rfl, rfl⟩
      exact Or.inl ⟨hkept.1, hkept.2, hcontrol (by simp [control])⟩
  | overrun control | miss control | seize control | queue control | receive control
  | giveUp control | adopt control | load control =>
      exact Or.inl ⟨rfl, rfl, hcontrol (by simp [control])⟩
  | @install startedAt frames v e control head entry =>
      exact Or.inr ⟨v, e, Task.innerOutcome?_of_load control head, entry, rfl, rfl⟩
  | fail control head =>
      refine Or.inl ⟨rfl, rfl, fun v hv => ?_⟩
      rw [Task.innerOutcome?_of_load control head] at hv
      cases hv
  | crash control head lost =>
      -- a call that crashed has no value, and one whose stamp cannot be represented has one
      refine Or.inl ⟨rfl, rfl, fun v hv => ?_⟩
      rw [Task.innerOutcome?_of_load control head] at hv
      rcases lost with rfl | ⟨w, rfl, hnone⟩
      · cases hv
      · cases hv
        exact hnone
  | tend attends | takeJob attends | fire attends => exact Or.inl ⟨rfl, rfl, hattends attends⟩
  | succeed control frames duty =>
      have hload := Frame.isLoad_of_duty? duty
      exact Or.inl ⟨rfl, rfl, hno (Task.innerOutcome?_of_single frames hload)⟩
  | forgo control frames duty =>
      have hload := Frame.isLoad_of_duty? (Option.isSome_of_mem duty)
      exact Or.inl ⟨rfl, rfl, hno (Task.innerOutcome?_of_single frames hload)⟩
  | retire request away =>
      refine Or.inl ⟨rfl, rfl, fun v hv => ?_⟩
      rw [(Task.ActsOn.of_innerOutcome? hv).2] at away
      cases away
  | abandon request parked =>
      refine Or.inl ⟨rfl, rfl, hcontrol ?_⟩
      cases hc : t.control <;> simp_all [Control.isParked, Control.isWaiting]
  | tell request frames control => exact Or.inl ⟨rfl, rfl, hcontrol (by simp [control])⟩

/-- How a fetch at the cache at a layer returns at `now`: with a hit, after too long a wait for the
lock, with an entry that was installed meanwhile, or with the outcome of its own inner call. -/
inductive Task.Return (layer : Nat) (now : Instant) (t : Task V C) (c : Cache V) :
    Outcome V → Cache V → Prop where
  | hit {e : Entry V} {c' : Cache V} (control : t.control = .enter (layer + 1) false)
      (valid : c.valid? now = some e) (noticed : c.noticed? e now = some c') :
      Return layer now t c (.value e.value) c'
  | giveUp {seen : Nat} {force : Bool} {deadline : Option Instant}
      (control : t.control = .queued layer seen force deadline) :
      Return layer now t c (.failed (.refreshTimeout c.settings.refreshTimeout))
        { c with lock := c.lock.leave t.id }
  | adopt {seen : Nat} {force : Bool} {e : Entry V}
      (control : t.control = .locked layer seen force) (newer : c.replacement? seen = some e) :
      Return layer now t c (e.outcome now) { c with lock := c.lock.release }
  | install {v : V} {e : Entry V} (ended : t.innerOutcome? layer = some (.value v))
      (entry : c.settings.lifetime.entry? v now = some e) :
      Return layer now t c (e.outcome now) { c.install e with lock := c.lock.release }
  | fail {f : Failure} (ended : t.innerOutcome? layer = some (.failed f)) :
      Return layer now t c (.failed f) { c with lock := c.lock.release }
  | crash {c' : Cache V} (entry : c'.entry = c.entry) : Return layer now t c .crashed c'

/-- The list is complete. -/
theorem Turn.return {outcome : Outcome V} (h : Turn layer now t c t' c') (inside : t.IsInside layer)
    (control' : t'.control = .deliver outcome) (away : t'.stage layer = .away) :
    t.Return layer now c outcome c' := by
  cases h with
  | elsewhere acts stage duty =>
      rcases inside with ⟨force, control⟩ | hstage
      · exact absurd (by simp [Task.ActsOn, control]) acts
      · exact absurd (stage.symm.trans away) hstage
  | hit control valid noticed =>
      cases control'
      exact .hit control valid noticed
  | giveUp control =>
      cases control'
      exact .giveUp control
  | adopt control newer =>
      cases control'
      exact .adopt control newer
  | install control head entry =>
      cases control'
      exact .install (Task.innerOutcome?_of_load control head) entry
  | fail control head =>
      cases control'
      exact .fail (Task.innerOutcome?_of_load control head)
  | overrun | crash =>
      cases control'
      exact .crash rfl
  | miss | seize | queue | receive | load | takeJob | fire | abandon => cases control'
  | tend _ _ _ _ _ _ attends' => exact absurd control' attends'.not_deliver
  | succeed _ _ _ attends' => exact absurd control' attends'.not_deliver
  | forgo _ _ _ attends' => exact absurd control' attends'.not_deliver
  | retire request away early worker jobs accepting frames' ended =>
      rw [Task.going_of_deliver control'] at ended
      cases ended
  | tell request frames control frames' idle =>
      exact absurd idle (Task.not_resting_of_deliver control')

end Turn

/-- The end of an inner call: the task that made it, its outcome, and the instant. -/
structure InnerEnd (V : Type) where
  task : TaskId
  outcome : Outcome V
  instant : Instant

/-- The value of an inner call that succeeded, and the instant. -/
def InnerEnd.success? (e : InnerEnd V) : Option (V × Instant) :=
  match e.outcome with
  | .value v => some (v, e.instant)
  | _ => none

namespace Machine

/-- The inner call of the cache at a layer that ends with the next step of the running task. -/
def innerEnd? (layer : Nat) (m : Machine V σ C) : Option (InnerEnd V) :=
  m.active?.bind fun t =>
    (t.innerOutcome? layer).map fun outcome => ⟨t.id, outcome, m.world.now⟩

/-- The ends of the inner calls of the cache at a layer in a list of moves, oldest first. -/
def innerEnds (layer : Nat) (moves : List (Machine V σ C × Machine V σ C)) : List (InnerEnd V) :=
  moves.filterMap fun move => innerEnd? layer move.1

/-- The inner calls that succeeded, with their values and instants. -/
def successes (layer : Nat) (moves : List (Machine V σ C × Machine V σ C)) : List (V × Instant) :=
  (innerEnds layer moves).filterMap InnerEnd.success?

/-- With the move from `m` to `n` a fetch at the cache at a layer, made by a task, returns. -/
def Returns (layer : Nat) (m n : Machine V σ C) (id : TaskId) (outcome : Outcome V) : Prop :=
  ∃ t t', m.running = some id ∧ m.tasks[id]? = some t ∧ t.IsInside layer ∧
    n.tasks[id]? = some t' ∧ t'.control = .deliver outcome ∧ t'.stage layer = .away

theorem innerEnds_append (layer : Nat) (before after : List (Machine V σ C × Machine V σ C)) :
    innerEnds layer (before ++ after) = innerEnds layer before ++ innerEnds layer after :=
  List.filterMap_append

theorem successes_append (layer : Nat) (before after : List (Machine V σ C × Machine V σ C)) :
    successes layer (before ++ after) = successes layer before ++ successes layer after := by
  rw [successes, innerEnds_append, List.filterMap_append]
  rfl

variable [Source σ V C] [Perishable V]

/-- A run from `m₀` with its moves, oldest first. -/
inductive Run (m₀ : Machine V σ C) : List (Machine V σ C × Machine V σ C) → Machine V σ C → Prop
  where
  | start : Run m₀ [] m₀
  | move {moves : List (Machine V σ C × Machine V σ C)} {m n : Machine V σ C} :
      Run m₀ moves m → Move m n → Run m₀ (moves ++ [(m, n)]) n

variable {m₀ m n : Machine V σ C} {moves : List (Machine V σ C × Machine V σ C)}

theorem Reaches.tail (h : Reaches m₀ m) (move : Move m n) : Reaches m₀ n :=
  h.trans (.step move (.refl n))

theorem Run.reaches (run : Run m₀ moves m) : Reaches m₀ m := by
  induction run with
  | start => exact .refl m₀
  | move _ move ih => exact ih.tail move

/-- A move of a run stands between what led to it and what came after it. -/
theorem Run.of_mem {k l : Machine V σ C} (run : Run m₀ moves m) (h : (k, l) ∈ moves) :
    Reaches m₀ k ∧ Move k l ∧ Reaches l m := by
  induction run with
  | start => cases h
  | @move moves m n run step ih =>
      rcases List.mem_append.1 h with h | h
      · obtain ⟨before, move, after⟩ := ih h
        exact ⟨before, move, after.tail step⟩
      · cases List.mem_singleton.1 h
        exact ⟨run.reaches, step, .refl _⟩

theorem Run.append {later : List (Machine V σ C × Machine V σ C)} (run : Run m₀ moves m)
    (run' : Run m later n) : Run m₀ (moves ++ later) n := by
  induction run' with
  | start => simpa using run
  | move _ move ih =>
      rw [← List.append_assoc]
      exact .move ih move

/-- Whatever can be reached is reached by some run. -/
theorem exists_run (h : Reaches m₀ m) : ∃ moves, Run m₀ moves m := by
  induction h with
  | refl m => exact ⟨[], .start⟩
  | @step m n k move _ ih =>
      obtain ⟨moves, run⟩ := ih
      exact ⟨[(m, n)] ++ moves, (Run.start.move move).append run⟩

/-! ## Runs of the schedule -/

/-- The first moves of the schedule, and where they lead. -/
def scheduled : Nat → Machine V σ C → List (Machine V σ C × Machine V σ C) × Machine V σ C
  | 0, m => ([], m)
  | k + 1, m =>
      match m.next? with
      | none => ([], m)
      | some n => ((m, n) :: (scheduled k n).1, (scheduled k n).2)

theorem run_scheduled (k : Nat) (m : Machine V σ C) :
    Run m (scheduled k m).1 (scheduled k m).2 := by
  induction k generalizing m with
  | zero => exact .start
  | succ k ih =>
      cases h : m.next? with
      | none =>
          simp only [scheduled, h]
          exact .start
      | some n =>
          simp only [scheduled, h]
          exact (Run.start.move (move_of_next? h)).append (ih n)

theorem mem_scheduled {k : Nat} {m l l' : Machine V σ C} (h : (l, l') ∈ (scheduled k m).1) :
    ∃ i, i < k ∧ l = (scheduled i m).2 := by
  induction k generalizing m with
  | zero => cases h
  | succ k ih =>
      cases hn : m.next? with
      | none =>
          simp only [scheduled, hn] at h
          cases h
      | some n =>
          simp only [scheduled, hn] at h
          rcases List.mem_cons.1 h with heq | h
          · cases heq
            exact ⟨0, Nat.succ_pos k, rfl⟩
          · obtain ⟨i, hi, rfl⟩ := ih h
            refine ⟨i + 1, Nat.succ_lt_succ hi, ?_⟩
            simp only [scheduled, hn]

/-- Each of those moves is what the schedule makes of the machine before it. -/
theorem next?_of_mem_scheduled {k : Nat} {m l l' : Machine V σ C}
    (h : (l, l') ∈ (scheduled k m).1) : l.next? = some l' := by
  induction k generalizing m with
  | zero => cases h
  | succ k ih =>
      cases hn : m.next? with
      | none =>
          simp only [scheduled, hn] at h
          cases h
      | some n =>
          simp only [scheduled, hn] at h
          rcases List.mem_cons.1 h with heq | h
          · cases heq
            exact hn
          · exact ih h

/-- A request that arrives before the first moves of the schedule. -/
def requested (request : Request) (k : Nat) (m : Machine V σ C) :
    List (Machine V σ C × Machine V σ C) × Machine V σ C :=
  let arrived := (m.spawn request).2
  ((m, arrived) :: (scheduled k arrived).1, (scheduled k arrived).2)

theorem run_requested {request : Request} (k : Nat) (idle : m.running = none)
    (foreground : request.isWork = false) :
    Run m (requested request k m).1 (requested request k m).2 :=
  (Run.start.move (.arrive idle foreground)).append (run_scheduled k _)

end Machine

end CredentialSupply
