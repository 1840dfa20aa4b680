import CredentialSupply.Proofs.Burst
import CredentialSupply.Proofs.SingleFlight

set_option autoImplicit false

/-!
# Visits to a cache without a worker

`Machine.log` collects from the moves of a run who came to a cache, who began an inner call of it,
and what ended. Where no caller waits up to its deadline and no worker of another cache is
inside, a turn of a cache without a worker is a `Visit`: a step in the course of a burst, or
one that the callers do not notice (`Turn.visit`).
-/

namespace CredentialSupply

variable {V σ C : Type}

/-! ## What a step tells -/

namespace Task

variable {layer : Nat} {t t' : Task V C}

/-- The cache at which the task is about to make a lookup. -/
def entered? (t : Task V C) : Option Nat :=
  match t.control with
  | .enter (layer + 1) _ => some layer
  | _ => none

theorem entered?_eq_some_iff :
    t.entered? = some layer ↔ ∃ force, t.control = .enter (layer + 1) force := by
  constructor
  · intro h
    unfold entered? at h
    split at h
    next l force control =>
      cases h
      exact ⟨force, control⟩
    next => cases h
  · rintro ⟨force, control⟩
    simp [entered?, control]

theorem isInside_iff : t.IsInside layer ↔ t.entered? = some layer ∨ t.stage layer ≠ .away := by
  rw [entered?_eq_some_iff]
  rfl

instance (layer : Nat) (t : Task V C) : Decidable (t.IsInside layer) :=
  decidable_of_iff _ isInside_iff.symm

/-- Whether a step begins an inner call of the cache. -/
def begins (layer : Nat) (t t' : Task V C) : Bool :=
  t.stage layer ≠ .loading && t'.stage layer = .loading

/-- The outcome with which a step ends a fetch at the cache. -/
def answer? (layer : Nat) (t t' : Task V C) : Option (Outcome V) :=
  match t'.control with
  | .deliver outcome => if t.IsInside layer ∧ t'.stage layer = .away then some outcome else none
  | _ => none

theorem answer?_of_deliver {outcome : Outcome V} (inside : t.IsInside layer)
    (control' : t'.control = .deliver outcome) (away : t'.stage layer = .away) :
    t.answer? layer t' = some outcome := by
  simp [answer?, control', inside, away]

theorem answer?_of_inside (h : t'.stage layer ≠ .away ∨ ¬ t.IsInside layer) :
    t.answer? layer t' = none := by
  rw [answer?]
  split
  · rw [if_neg]
    rintro ⟨inside, away⟩
    rcases h with h | h
    · exact h away
    · exact h inside
  · rfl

/-- All that a step tells: whether the task makes a lookup, the outcome of its inner call that it
hands to the cache, whether it begins an inner call, and the outcome of its fetch. -/
structure Marks (layer : Nat) (t t' : Task V C) (comes : Bool) (inner : Option (Outcome V))
    (begins : Bool) (answer : Option (Outcome V)) : Prop where
  comes : t.entered? = some layer ↔ comes = true
  inner : t.innerOutcome? layer = inner
  begins : t.begins layer t' = begins
  answer : t.answer? layer t' = answer

/-- A step that does not come to the cache and leaves the stage tells nothing. -/
theorem marks_of_same_stage (entered : t.entered? ≠ some layer)
    (inner : t.innerOutcome? layer = none) (stage : t'.stage layer = t.stage layer) :
    t.Marks layer t' false none false none := by
  refine ⟨?_, inner, ?_, ?_⟩
  · simp [entered]
  · simp [begins, stage]
  · apply answer?_of_inside
    by_cases haway : t.stage layer = .away
    · right
      rw [isInside_iff]
      simp [entered, haway]
    · left
      rw [stage]
      exact haway

theorem entered?_ne_of_control (control : ∀ force, t.control ≠ .enter (layer + 1) force) :
    t.entered? ≠ some layer := by
  intro h
  obtain ⟨force, hcontrol⟩ := entered?_eq_some_iff.1 h
  exact control force hcontrol

/-- A step that is not about the cache tells nothing. -/
theorem marks_of_elsewhere (acts : ¬ t.ActsOn layer) (stage : t'.stage layer = t.stage layer) :
    t.Marks layer t' false none false none := by
  refine marks_of_same_stage (entered?_ne_of_control ?_) ?_ stage
  · intro force control
    exact acts (by simp [ActsOn, control])
  · cases hinner : t.innerOutcome? layer with
    | none => rfl
    | some outcome => exact absurd (ActsOn.of_innerOutcome? hinner).1 acts

/-- A step outside the cache that is no lookup tells nothing. -/
theorem marks_of_away (entered : t.entered? ≠ some layer) (away : t.stage layer = .away)
    (away' : t'.stage layer = .away) : t.Marks layer t' false none false none := by
  refine marks_of_same_stage entered ?_ (away'.trans away.symm)
  cases hinner : t.innerOutcome? layer with
  | none => rfl
  | some outcome =>
      rw [(ActsOn.of_innerOutcome? hinner).2] at away
      cases away

/-- After its lookup, and before its inner call, a task has told that it came and has no outcome. -/
theorem silent_of_hasSnapshot (layer : Nat) (snapshot : t.control.hasSnapshot = true) :
    t.entered? ≠ some layer ∧ t.innerOutcome? layer = none := by
  constructor
  · apply entered?_ne_of_control
    intro force control
    simp [control] at snapshot
  · apply innerOutcome?_eq_none
    intro outcome control
    simp [control] at snapshot

/-- A step with which such a task waits at the cache or gets the lock tells nothing. -/
theorem marks_of_wait (snapshot : t.control.hasSnapshot = true) (inside : t'.stage layer ≠ .away)
    (apart : t'.stage layer ≠ .loading) : t.Marks layer t' false none false none := by
  obtain ⟨entered, inner⟩ := silent_of_hasSnapshot layer snapshot
  refine ⟨?_, inner, ?_, answer?_of_inside (Or.inl inside)⟩
  · simp [entered]
  · simp [begins, apart]

/-- A step with which a fetch at the cache ends tells its outcome, and that of its inner call. -/
theorem marks_of_return {inner : Option (Outcome V)} {outcome : Outcome V}
    (entered : t.entered? ≠ some layer) (hinner : t.innerOutcome? layer = inner)
    (inside : t.stage layer ≠ .away) (control' : t'.control = .deliver outcome)
    (away : t'.stage layer = .away) : t.Marks layer t' false inner false (some outcome) := by
  refine ⟨?_, hinner, ?_, answer?_of_deliver (Or.inr inside) control' away⟩
  · simp [entered]
  · simp [begins, away]

/-- The step with which the cache gets the outcome of an inner call, and passes an outcome on. -/
theorem marks_of_load {startedAt : Instant} {frames : List Frame} {inner : Outcome V}
    (shaped : t.Shaped) (control : t.control = .deliver inner)
    (head : t.frames = .load layer startedAt :: frames) (outcome : Outcome V) :
    t.Marks layer (pass { t with frames } outcome) false (some inner) false (some outcome) ∧
      t.stage layer = .loading ∧ (pass { t with frames } outcome).stage layer = .away := by
  have hstage := stage_of_load control head
  have haway : (pass { t with frames } outcome).stage layer = .away :=
    around_tail shaped control head
  refine ⟨marks_of_return ?_ (innerOutcome?_of_load control head) ?_ rfl haway, hstage, haway⟩
  · exact entered?_ne_of_control (by simp [control])
  · simp [hstage]

end Task

/-- The deadline of a task that waits for the lock. -/
def Stage.deadline? : Stage → Option Instant
  | .waiting _ _ deadline => deadline
  | _ => none

namespace Machine

/-- The task that makes a lookup at the cache at a layer with the next step. -/
def came? (layer : Nat) (m : Machine V σ C) : Option TaskId :=
  m.active?.bind fun t => if t.entered? = some layer then some t.id else none

/-- The task that begins an inner call with the move from `m` to `n`. -/
def called? (layer : Nat) (m n : Machine V σ C) : Option TaskId :=
  m.active?.bind fun t => (n.tasks[t.id]?).bind fun t' =>
    if t.begins layer t' then some t.id else none

/-- The fetch that ends with the move from `m` to `n`. -/
def returned? (layer : Nat) (m n : Machine V σ C) : Option (Return V) :=
  m.active?.bind fun t => (n.tasks[t.id]?).bind fun t' =>
    (t.answer? layer t').map fun outcome => ⟨t.id, outcome, m.world.now⟩

/-- What happens at the cache at a layer in a list of moves. -/
def log (layer : Nat) (moves : List (Machine V σ C × Machine V σ C)) : Log V where
  came := moves.filterMap fun move => came? layer move.1
  called := moves.filterMap fun move => called? layer move.1 move.2
  ended := innerEnds layer moves
  returned := moves.filterMap fun move => returned? layer move.1 move.2

variable {layer : Nat} {m n : Machine V σ C} {moves : List (Machine V σ C × Machine V σ C)}

/-- While no task runs, nothing happens. -/
theorem log_of_rest (active : m.active? = none) :
    log layer (moves ++ [(m, n)]) = log layer moves := by
  simp [log, innerEnds, came?, called?, returned?, innerEnd?, active]

/-- What a step of the running task adds. -/
theorem log_of_turn {id : TaskId} {t t' : Task V C} {comes begins : Bool}
    {inner answer : Option (Outcome V)} (running : m.running = some id)
    (task : m.tasks[id]? = some t) (hid : t.id = id) (task' : n.tasks[id]? = some t')
    (marks : t.Marks layer t' comes inner begins answer) :
    log layer (moves ++ [(m, n)]) =
      { came := (log layer moves).came ++ if comes then [id] else []
        called := (log layer moves).called ++ if begins then [id] else []
        ended := (log layer moves).ended ++
          (inner.map fun outcome => ⟨id, outcome, m.world.now⟩).toList
        returned := (log layer moves).returned ++
          (answer.map fun outcome => ⟨id, outcome, m.world.now⟩).toList } := by
  have active := active?_of_running running task
  have hcame : (came? layer m).toList = if comes then [id] else [] := by
    simp only [came?, active, Option.bind_some, marks.comes, hid]
    cases comes <;> rfl
  have hcalled : (called? layer m n).toList = if begins then [id] else [] := by
    simp only [called?, active, Option.bind_some, hid, task', marks.begins]
    cases begins <;> rfl
  have hended : innerEnd? layer m = inner.map fun outcome => ⟨id, outcome, m.world.now⟩ := by
    simp only [innerEnd?, active, Option.bind_some, marks.inner, hid]
  have hreturned : returned? layer m n =
      answer.map fun outcome => ⟨id, outcome, m.world.now⟩ := by
    simp only [returned?, active, Option.bind_some, hid, task', marks.answer]
  -- each of the four lists gets what this move tells, or nothing
  simp only [log, innerEnds, List.filterMap_append, List.filterMap_cons, List.filterMap_nil]
  rw [← hcame, ← hcalled, ← hended, ← hreturned]
  cases came? layer m <;> cases called? layer m n <;> cases innerEnd? layer m <;>
    cases returned? layer m n <;> rfl

end Machine

/-! ## Turns as visits -/

/-- What a step at `now` makes of a cache without a worker, as its callers see it. -/
inductive Visit [Perishable V] (layer : Nat) (now : Instant) (t : Task V C) (c : Cache V)
    (t' : Task V C) (c' : Cache V) : Prop where
  /-- Nothing, except that the task may find that it has been given the lock. -/
  | aside (marks : t.Marks layer t' false none false none) (lock : c'.lock = c.lock)
      (entry : c'.entry = c.entry) (generation : c'.generation = c.generation)
      (stage : t'.stage layer = t.stage layer ∨ ∃ seen force deadline,
        t.stage layer = .waiting seen force deadline ∧ t'.stage layer = .holding seen force)
  /-- The task comes and finds no valid entry. -/
  | come {force : Bool} (marks : t.Marks layer t' true none false none)
      (stage : t.stage layer = .away) (stage' : t'.stage layer = .asking c.generation force)
      (cache : c' = c)
  /-- The task asks for the lock. -/
  | ask {seen : Nat} {force : Bool} (marks : t.Marks layer t' false none false none)
      (stage : t.stage layer = .asking seen force)
      (stage' : t'.stage layer = .holding seen force ∨
        (c.lock.ask t.id).isHeldBy t.id = false ∧
          ∃ deadline, t'.stage layer = .waiting seen force deadline)
      (cache : c' = { c with lock := c.lock.ask t.id })
  /-- The task begins an inner call. -/
  | call {seen : Nat} {force : Bool} (marks : t.Marks layer t' false none true none)
      (stage : t.stage layer = .holding seen force) (stage' : t'.stage layer = .loading)
      (current : c.replacement? seen = none) (cache : c' = c)
  /-- No entry comes of the inner call. -/
  | fail {outcome : Outcome V}
      (marks : t.Marks layer t' false (some outcome) false (some outcome.lost))
      (stage : t.stage layer = .loading) (stage' : t'.stage layer = .away)
      (lost : ∀ v, outcome = .value v → c.settings.lifetime.entry? v now = none)
      (cache : c' = { c with lock := c.lock.release })
  /-- An entry comes of the inner call. -/
  | succeed {v : V} {e : Entry V}
      (marks : t.Marks layer t' false (some (.value v)) false (some (e.outcome now)))
      (stage : t.stage layer = .loading) (stage' : t'.stage layer = .away)
      (entry : c.settings.lifetime.entry? v now = some e)
      (cache : c' = { c.install e with lock := c.lock.release })
  /-- The task takes over an entry that was installed since it came. -/
  | share {seen : Nat} {force : Bool} {e : Entry V}
      (marks : t.Marks layer t' false none false (some (e.outcome now)))
      (stage : t.stage layer = .holding seen force) (stage' : t'.stage layer = .away)
      (newer : c.replacement? seen = some e) (cache : c' = { c with lock := c.lock.release })

section Turn

variable [Perishable V] {layer : Nat} {now : Instant} {t t' : Task V C} {c c' : Cache V}

/-- A lookup finds no entry that it may serve. -/
theorem Visit.of_miss {force : Bool} (shaped : t.Shaped)
    (control : t.control = .enter (layer + 1) force) :
    Visit layer now t c (t.goto (.acquire layer c.generation force)) c := by
  have hstage' : (t.goto (.acquire layer c.generation force)).stage layer =
      .asking c.generation force :=
    Task.stage_goto_acquire c.generation force
  refine .come ⟨?_, ?_, ?_, ?_⟩ (Task.stage_of_enter shaped control) hstage' rfl
  · simp [Task.entered?, control]
  · exact Task.innerOutcome?_eq_none (by simp [control])
  · simp [Task.begins, hstage']
  · exact Task.answer?_of_inside (Or.inl (by simp [hstage']))

/-- The holder of the lock makes an inner call. -/
theorem Visit.of_load {seen : Nat} {force : Bool} (control : t.control = .locked layer seen force)
    (current : c.replacement? seen = none) :
    Visit layer now t c (t.push (.load layer now) (.enter layer force)) c := by
  have hstage := Task.stage_of_locked control
  have hstage' : (t.push (.load layer now) (.enter layer force)).stage layer = .loading :=
    Task.stage_push_load now force
  have snapshot : t.control.hasSnapshot = true := by simp [control]
  obtain ⟨entered, inner⟩ := Task.silent_of_hasSnapshot layer snapshot
  refine .call ⟨?_, inner, ?_, ?_⟩ hstage hstage' current rfl
  · simp [entered]
  · simp [Task.begins, hstage, hstage']
  · exact Task.answer?_of_inside (Or.inl (by simp [hstage']))

/-- The holder of the lock returns with an entry that was installed since it came. -/
theorem Visit.of_adopt {seen : Nat} {force : Bool} {e : Entry V} (shaped : t.Shaped)
    (control : t.control = .locked layer seen force) (newer : c.replacement? seen = some e) :
    Visit layer now t c (t.pass (e.outcome now)) { c with lock := c.lock.release } := by
  have hstage := Task.stage_of_locked control
  have snapshot : t.control.hasSnapshot = true := by simp [control]
  have haround : t.around layer = .away := Task.around_of_snapshot shaped (by simp [control])
  have haway : (t.pass (e.outcome now)).stage layer = .away := haround
  obtain ⟨entered, inner⟩ := Task.silent_of_hasSnapshot layer snapshot
  exact .share (Task.marks_of_return entered inner (by simp [hstage]) rfl haway) hstage haway newer
    rfl

/-- A task does something else outside the cache. -/
theorem Visit.of_away (entered : t.entered? ≠ some layer) (away : t.stage layer = .away)
    (away' : t'.stage layer = .away) (lock : c'.lock = c.lock) (entry : c'.entry = c.entry)
    (generation : c'.generation = c.generation) : Visit layer now t c t' c' :=
  .aside (Task.marks_of_away entered away away') lock entry generation
    (Or.inl (away'.trans away.symm))

/-- A turn of a cache without a worker is a visit, unless the task is served from the entry. -/
theorem Turn.visit (shaped : t.Shaped) (h : Turn layer now t c t' c') (blocking : c.early = none)
    (stale : t.entered? = some layer → c.valid? now = none)
    (patient : ∀ d, (t.stage layer).deadline? = some d → now < d)
    (foreground : t.request.isWork = true → t.stage layer = .away)
    (posted : t.request ≠ .work layer) : Visit layer now t c t' c' := by
  -- many turns are about a worker
  have hworker : ∀ {r : EarlyRefresh}, c.early = some r → Visit layer now t c t' c' := by
    intro r hr
    rw [blocking] at hr
    cases hr
  have hduty : ∀ {f : Frame} {job : RefreshJob}, t.frames = [f] → f.duty? layer = some job →
      Visit layer now t c t' c' := by
    intro f job frames duty
    have hjob : t.duty? layer = some job := (Task.duty?_of_single frames).trans duty
    exact absurd (Task.request_of_duty shaped hjob) posted
  have hstale : ∀ {force : Bool} {e : Entry V}, t.control = .enter (layer + 1) force →
      c.valid? now = some e → Visit layer now t c t' c' := by
    intro force e control valid
    rw [stale (Task.entered?_eq_some_iff.2 ⟨force, control⟩)] at valid
    cases valid
  cases h with
  | elsewhere acts stage duty =>
      exact .aside (Task.marks_of_elsewhere acts stage) rfl rfl rfl (Or.inl stage)
  | hit control valid => exact hstale control valid
  | overrun control valid => exact hstale control valid
  | miss control _ => exact .of_miss shaped control
  | @seize seen force control held =>
      exact .ask (Task.marks_of_wait (by simp [control]) (by simp) (by simp))
        (Task.stage_of_acquire control) (Or.inl (Task.stage_goto_locked seen force)) rfl
  | @queue seen force control held =>
      exact .ask (Task.marks_of_wait (by simp [control]) (by simp) (by simp))
        (Task.stage_of_acquire control) (Or.inr ⟨held, _, Task.stage_goto_queued seen force _⟩) rfl
  | @receive seen force deadline control held =>
      exact .aside (Task.marks_of_wait (by simp [control]) (by simp) (by simp)) rfl rfl rfl
        (Or.inr ⟨seen, force, deadline, Task.stage_of_queued control,
          Task.stage_goto_locked seen force⟩)
  | @giveUp seen force deadline control held due =>
      -- no caller waits that long
      have hstage := Task.stage_of_queued control
      cases deadline with
      | none => simp at due
      | some d =>
          have hlt := patient d (by rw [hstage]; rfl)
          rw [Option.any_some, decide_eq_true_iff] at due
          exact absurd (Instant.le_trans (Instant.le_ceilMilli d) due) (Int.not_le.2 hlt)
  | adopt control newer => exact .of_adopt shaped control newer
  | load control same => exact .of_load control same
  | @install startedAt frames v e control head entry =>
      obtain ⟨marks, stage, away⟩ := Task.marks_of_load shaped control head (e.outcome now)
      exact .succeed marks stage away entry rfl
  | @fail startedAt frames f control head =>
      obtain ⟨marks, stage, away⟩ := Task.marks_of_load shaped control head (.failed f)
      exact .fail marks stage away (fun v hv => by cases hv) rfl
  | @crash startedAt frames outcome control head lost =>
      obtain ⟨marks, stage, away⟩ := Task.marks_of_load shaped control head .crashed
      have houtcome : outcome.lost = .crashed := by
        rcases lost with rfl | ⟨v, rfl, -⟩ <;> rfl
      refine .fail (by rw [houtcome]; exact marks) stage away ?_ rfl
      rintro v rfl
      rcases lost with h | ⟨u, hu, hnone⟩
      · cases h
      · cases hu
        exact hnone
  | tend attends early => exact hworker early
  | takeJob attends early => exact hworker early
  | fire attends early => exact hworker early
  | retire request away early => exact hworker early
  | succeed control frames duty =>
      obtain ⟨job, hjob⟩ := Option.isSome_iff_exists.1 duty
      exact hduty frames hjob
  | forgo control frames duty => exact hduty frames duty
  | abandon request parked =>
      -- a worker of another cache, which is not inside this one
      have haway := foreground (by rw [request]; rfl)
      refine .of_away (Task.entered?_ne_of_control ?_) haway (Task.stage_of_hasEnded rfl rfl) ?_
        rfl rfl
      · intro force control
        simp [control, Control.isParked, Control.isWaiting] at parked
      · simp [haway, Stage.isEngaged]
  | tell request frames control frames' idle =>
      have haway : t.stage layer = .away := Task.stage_eq_away_of_nil frames (by simp [control])
      exact .of_away (Task.entered?_ne_of_control (by simp [control])) haway
        (Task.stage_of_resting frames' idle) rfl rfl rfl

end Turn

end CredentialSupply
