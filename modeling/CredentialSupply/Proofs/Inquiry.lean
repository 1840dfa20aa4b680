import CredentialSupply.Proofs.Background
import CredentialSupply.Proofs.Record
import CredentialSupply.Session.Basic

set_option autoImplicit false

/-!
# What a health query tells

A query that is to refresh the status fetches once, at the top of the chain, since all that a fetch
enters lies below where it started (`Stride.sinks`). It compares the record of health before with
the record after. So, whatever other tasks do meanwhile, it tells the status of the last call that
came back while it was out, if there was one (`Fetching.report`), and nothing else can become of a
query (`Inquiry.move`, `health_tells_last_call`). A session that asks is told this answer, or ends
with the crash of the fetch (`Heard`).
-/

namespace CredentialSupply

variable {V σ C : Type}

/-! ## One fetch at the top -/

section Beneath

variable {top : Nat} {t t' : Task V C}

/-- The levels and the retries of a task are below the top of the stack. -/
structure Task.Beneath (top : Nat) (t : Task V C) : Prop where
  level : ∀ level force, t.control = .enter level force → level ≤ top
  retry : ∀ layer force, Frame.retry layer force ∈ t.frames → layer < top

/-- A step from `t` to `t'` keeps a task below the top, and brings it there only at its start. -/
structure Task.Sinks (top : Nat) (t t' : Task V C) : Prop where
  beneath : t'.Beneath top
  entry : t'.control = t.control ∨ t.control = .begin ∨ ∀ force, t'.control ≠ .enter top force

theorem Task.beneath_fresh (top : Nat) (id : TaskId) (request : Request) :
    (Task.fresh id request : Task V C).Beneath top := by
  constructor
  · intro level force control
    cases control
  · intro layer force mem
    cases mem

/-- A fetch at a level goes on below it. -/
theorem Task.enter_descends {w : World V σ} {level inner : Nat} {force force' : Bool}
    (h : (t.enter w level force).2.control = .enter inner force') : inner < level := by
  unfold enter at h
  split at h
  · cases h
  next layer =>
    split at h
    · cases h
      exact Nat.lt_succ_self _
    · cases h
      exact Nat.lt_succ_self _
    · cases h
      exact Nat.lt_succ_self _
    · simp only [throttle] at h
      split at h
      · cases h
        exact Nat.lt_succ_self _
      · cases h
    · cases h
      exact Nat.lt_succ_self _
    · simp only [lookUp] at h
      split at h
      · cases h
      · split at h <;> cases h

/-- All steps at a chain keep a task below its top. -/
theorem Stride.sinks [Perishable V] {c : Config} {k k' : Content V} (kinds : k.kinds = c.kinds)
    (housed : t.Housed c.kinds) (beneath : t.Beneath c.kinds.length) (h : Stride t k t' k') :
    t.Sinks c.kinds.length t' := by
  -- a fetch goes on below where it was, and starts at the top
  have henter : ∀ level force, t'.control = .enter level force →
      t' = t ∨ level < c.kinds.length ∨ t.control = .begin ∧ level = c.kinds.length := by
    intro level force control'
    rcases h.enter_cases control' with rfl | control | ⟨seen, control⟩ | ⟨frames, head⟩ |
      ⟨control, hlevel | ⟨layer, record, here, aim⟩⟩
    · exact Or.inl rfl
    · exact Or.inr (Or.inl (beneath.level _ _ control))
    · obtain ⟨settings, meter, hcache⟩ := housed.control level seen (by rw [control]; rfl)
      exact Or.inr (Or.inl (List.getElem?_eq_some_iff.1 hcache).1)
    · exact Or.inr (Or.inl (beneath.retry level force (by rw [head]; exact List.mem_cons_self)))
    · exact Or.inr (Or.inr ⟨control, by rw [hlevel, ← kinds, Content.length_kinds]⟩)
    · have hkind := Content.kinds_getElem? here
      rw [kinds] at hkind
      have htarget : record.target = some (.level c.kinds.length) := Config.health_kind hkind
      rw [HealthRecord.aim, htarget] at aim
      cases aim
      exact Or.inr (Or.inr ⟨control, rfl⟩)
  refine ⟨⟨?_, ?_⟩, ?_⟩
  · intro level force control'
    rcases henter level force control' with rfl | hlt | ⟨-, heq⟩
    · exact beneath.level level force control'
    · exact Nat.le_of_lt hlt
    · exact Nat.le_of_eq heq
  · intro layer force member
    rcases h.frame_cases member with before | ⟨i, b, l, control, -, frame⟩ |
      ⟨i, seen, b, -, frame⟩ | ⟨i, seen, frame⟩ | duty
    · exact beneath.retry layer force before
    · cases l <;> cases frame
      exact beneath.level _ _ control
    · cases frame
    · cases frame
    · cases duty
  · by_cases hsame : t'.control = t.control
    · exact Or.inl hsame
    by_cases hbegin : t.control = .begin
    · exact Or.inr (Or.inl hbegin)
    refine Or.inr (Or.inr fun force control' => ?_)
    rcases henter _ force control' with rfl | hlt | ⟨control, -⟩
    · exact hsame rfl
    · exact Nat.lt_irrefl _ hlt
    · exact hbegin control

end Beneath

/-! ## Queries -/

/-- Whether a query fetches: it is to refresh a status that is missing or bad. -/
def queryFetches (supported refresh : Bool) (recorded : Option Bool) : Bool :=
  supported && refresh && recorded != some true

/-- What a query tells, given the status on record when it begins and the one observed last while it
fetches. -/
def healthAnswer (supported refresh : Bool) (recorded latest : Option Bool) :
    Outcome (Option Bool) :=
  if !supported then .failed .healthNotSupported
  else if queryFetches supported refresh recorded then .value (some (latest.getD true))
  else .value recorded

theorem healthAnswer_of_fetches {supported refresh : Bool} {recorded : Option Bool}
    (fetches : queryFetches supported refresh recorded = true) (latest : Option Bool) :
    healthAnswer supported refresh recorded latest = .value (some (latest.getD true)) := by
  have hsupported : supported = true := by
    cases supported with
    | true => rfl
    | false => simp [queryFetches] at fetches
  rw [healthAnswer, hsupported, ← hsupported, fetches, hsupported]
  rfl

/-- The first step of a query. -/
theorem Task.step_of_query [Source σ V C] [Perishable V] {t : Task V C} {w : World V σ}
    {refresh : Bool} (favoured : Signal) (control : t.control = .begin)
    (request : t.request = .health refresh) : t.step w favoured = t.ask w refresh := by
  rw [step_of_foreground favoured (by rw [request]; rfl), advance, control, start, request]

/-- A query fetches at the top of the chain, or answers at once. -/
theorem Task.ask_eq [Source σ V C] {c : Config} {t : Task V C} {w : World V σ} {seen : List Bool}
    (refresh : Bool) (kinds : w.content.kinds = c.kinds) (record : c.health = true →
      ∃ h, w.layers[c.healthLayer]? = some (.health h) ∧ h.Sums seen) :
    t.ask w refresh =
      if queryFetches (c.health && Source.supportsHealth w.source) refresh seen.getLast? then
        (w, t.push (.query c.healthLayer seen.length) (.enter c.kinds.length false))
      else t.finish w (.health
        (healthAnswer (c.health && Source.supportsHealth w.source) refresh seen.getLast? none)) := by
  rw [ask]
  cases hhealth : c.health with
  | false =>
      rw [World.healthLayer?_eq_none kinds hhealth]
      simp [queryFetches, healthAnswer]
  | true =>
      obtain ⟨h, here, sums⟩ := record hhealth
      rw [World.healthLayer?_of_kinds kinds here]
      have hkind := Content.kinds_getElem? (World.layers_content here)
      rw [kinds, Config.kinds_healthLayer hhealth] at hkind
      have htarget : h.target = some (.level c.kinds.length) :=
        (Kind.health.inj (Option.some.inj hkind)).symm
      cases Source.supportsHealth w.source with
      | false => simp [queryFetches, healthAnswer]
      | true =>
          simp only [htarget, sums.success, sums.observed]
          cases refresh <;> by_cases hlast : seen.getLast? = some true <;>
            simp [queryFetches, healthAnswer, hlast]

/-- The last step of a query that has fetched. -/
theorem Task.step_of_queried [Source σ V C] [Perishable V] {t : Task V C} {w : World V σ}
    {refresh : Bool} {layer seen : Nat} {outcome : Outcome V} (favoured : Signal)
    (request : t.request = .health refresh) (control : t.control = .deliver outcome)
    (frames : t.frames = [.query layer seen]) :
    t.step w favoured = Task.queried { t with frames := [] } w layer seen outcome := by
  rw [step_of_deliver (by rw [request]; rfl) control, deliver, frames]

/-- A query that has fetched tells what has been observed meanwhile, unless its fetch crashed. -/
theorem Task.queried_cases {t : Task V C} {w : World V σ} {layer : Nat} {before during : List Bool}
    {record : HealthRecord} (outcome : Outcome V)
    (here : w.layers[layer]? = some (.health record)) (sums : record.Sums (before ++ during)) :
    ∃ answer, t.queried w layer before.length outcome = t.finish w (.health answer) ∧
      (answer = .value (some (during.getLast?.getD true)) ∨
        answer = .crashed ∧ outcome = .crashed) := by
  cases outcome with
  | crashed => exact ⟨_, rfl, Or.inr ⟨rfl, rfl⟩⟩
  | value v | failed f =>
      refine ⟨_, ?_, Or.inl rfl⟩
      simp only [queried, here, Option.bind_some, Layer.health?, sums.statusSince]

namespace Machine

/-- A task starts its request with the next move. -/
def Begins (m : Machine V σ C) (id : TaskId) : Prop :=
  m.running = some id ∧ ∃ t, m.tasks[id]? = some t ∧ t.control = .begin

/-- Whether the fetch that a task starts at a level with the next move is forced; none if it starts
none there. -/
def fetchAt? (level : Nat) (id : TaskId) (m : Machine V σ C) : Option Bool :=
  if m.running = some id then
    match (m.tasks[id]?).map Task.control with
    | some (.enter l force) => if l = level then some force else none
    | _ => none
  else none

/-- The fetches that a task starts at a level in a list of moves, oldest first. -/
def fetchesAt (level : Nat) (id : TaskId) (moves : List (Machine V σ C × Machine V σ C)) :
    List Bool :=
  moves.filterMap fun move => move.1.fetchAt? level id

theorem fetchesAt_snoc (level : Nat) (id : TaskId) (moves : List (Machine V σ C × Machine V σ C))
    (m n : Machine V σ C) :
    fetchesAt level id (moves ++ [(m, n)]) =
      fetchesAt level id moves ++ (m.fetchAt? level id).toList := by
  rw [fetchesAt, List.filterMap_append]
  cases h : m.fetchAt? level id <;> simp [fetchesAt, h]

section Inquiry

variable {level : Nat} {id : TaskId} {m n m₀ : Machine V σ C} {t : Task V C}

theorem fetchAt?_of_not_running (h : m.running ≠ some id) : m.fetchAt? level id = none := by
  rw [fetchAt?, if_neg h]

theorem fetchAt?_of_task (task : m.tasks[id]? = some t)
    (h : ∀ force, t.control ≠ .enter level force) : m.fetchAt? level id = none := by
  rw [fetchAt?, task]
  split
  · split
    next l force control =>
      split
      next hl =>
        subst hl
        exact absurd (Option.some.inj control) (h force)
      next => rfl
    next => rfl
  · rfl

theorem fetchAt?_of_enter {force : Bool} (running : m.running = some id)
    (task : m.tasks[id]? = some t) (control : t.control = .enter level force) :
    m.fetchAt? level id = some force := by
  simp [fetchAt?, running, task, control]

theorem fetchAt?_of_none (none : m.tasks[id]? = none) : m.fetchAt? level id = .none := by
  rw [fetchAt?, none]
  split <;> rfl

theorem Begins.observation?_eq_none {layer : Nat} (h : m.Begins id) :
    m.observation? layer = none := by
  obtain ⟨running, t, task, control⟩ := h
  rw [observation?, active?_of_running running task, Option.bind_some]
  exact Task.observation?_eq_none (by simp [control])

variable [Source σ V C]

/-- A health query of a chain that began at `k`, after the moves `before`, and is out on a fetch. -/
structure Fetching (c : Config) (id : TaskId) (refresh : Bool)
    (before during : List (Machine V σ C × Machine V σ C)) (k l : Machine V σ C)
    (moves : List (Machine V σ C × Machine V σ C)) (m : Machine V σ C) (t : Task V C) : Prop where
  history : moves = before ++ (k, l) :: during
  begins : k.Begins id
  going : ∀ move ∈ during, move.1.hasEnded id = false
  due : queryFetches (Session.supportsHealth ⟨k, some c, []⟩) refresh
    (observations c.healthLayer before).getLast? = true
  task : m.tasks[id]? = some t
  errand : t.frames.getLast? =
    some (.query c.healthLayer (observations c.healthLayer before).length)
  /-- The fetch starts at the top, and only once. -/
  once : (t.control = .enter c.kinds.length false ∧ fetchesAt c.kinds.length id moves = []) ∨
    (∀ force, t.control ≠ .enter c.kinds.length force) ∧
      fetchesAt c.kinds.length id moves = [false]

/-- A health query of a chain that began at `k`, after the moves `before`, and has ended with the
last of the moves `during`. -/
structure Told (c : Config) (id : TaskId) (refresh : Bool)
    (before during after : List (Machine V σ C × Machine V σ C)) (k l : Machine V σ C)
    (moves : List (Machine V σ C × Machine V σ C)) (m : Machine V σ C)
    (answer : Outcome (Option Bool)) (fetches : Bool) : Prop where
  history : moves = before ++ (k, l) :: (during ++ after)
  begins : k.Begins id
  going : ∀ move ∈ during, move.1.hasEnded id = false
  past : ∀ move ∈ after, move.1.hasEnded id = true
  due : fetches = queryFetches (Session.supportsHealth ⟨k, some c, []⟩) refresh
    (observations c.healthLayer before).getLast?
  once : fetchesAt c.kinds.length id moves = if fetches then [false] else []
  /-- Without a fetch the query ends with its first step. -/
  brief : fetches = false → during = []
  ended : ∃ endedAt, m.ended? id = some (.health answer, endedAt)
  /-- Nothing but a crash of its own fetch keeps the query from its answer. -/
  right : answer = healthAnswer (Session.supportsHealth ⟨k, some c, []⟩) refresh
      (observations c.healthLayer before).getLast? (observations c.healthLayer during).getLast? ∨
    answer = .crashed ∧ fetches = true ∧ ∃ move ∈ during, ∃ t, move.1.tasks[id]? = some t ∧
      t.control = .deliver .crashed

/-- What has become of a health query of a chain after some moves. -/
inductive Inquiry (c : Config) (id : TaskId) (refresh : Bool)
    (moves : List (Machine V σ C × Machine V σ C)) (m : Machine V σ C) : Prop where
  /-- It has not begun. -/
  | unasked (control : ∀ t, m.tasks[id]? = some t → t.control = .begin)
      (fetches : fetchesAt c.kinds.length id moves = [])
  | fetching {before during : List (Machine V σ C × Machine V σ C)} {k l : Machine V σ C}
      {t : Task V C} (fetching : Fetching c id refresh before during k l moves m t)
  | told {before during after : List (Machine V σ C × Machine V σ C)} {k l : Machine V σ C}
      {answer : Outcome (Option Bool)} {fetches : Bool}
      (told : Told c id refresh before during after k l moves m answer fetches)

/-- The layers, the tasks and the record of health of a chain after some moves. -/
structure Tracked (c : Config) (moves : List (Machine V σ C × Machine V σ C))
    (m : Machine V σ C) : Prop where
  sound : m.Sound
  kinds : m.world.content.kinds = c.kinds
  housed : ∀ (i : TaskId) (t : Task V C), m.tasks[i]? = some t → t.Housed c.kinds
  beneath : ∀ (i : TaskId) (t : Task V C), m.tasks[i]? = some t → t.Beneath c.kinds.length
  record : c.health = true → ∃ h, m.world.layers[c.healthLayer]? = some (.health h) ∧
    h.Sums (observations c.healthLayer moves)

variable [Perishable V] {c : Config} {moves : List (Machine V σ C × Machine V σ C)}
  {refresh : Bool}

theorem Tracked.move (h : Tracked c moves m) (move : Move m n) :
    Tracked c (moves ++ [(m, n)]) n := by
  have hstack := stackMove h.sound move
  -- a step keeps its task where it may stand, and no other task moves
  have hhoused : ∀ (i : TaskId) (t : Task V C), n.tasks[i]? = some t →
      t.Housed c.kinds ∧ t.Beneath c.kinds.length := by
    intro i x hx
    cases hstack with
    | @turn id t t' running task stride same tasks =>
        rw [tasks] at hx
        rcases getElem?_set_cases hx with ⟨rfl, rfl⟩ | ⟨-, hx⟩
        · have hcacheAt : ∀ layer, t.request = .work layer →
              CacheAt m.world.content.kinds layer := fun layer => h.sound.cacheAt task
          have hhoused := h.housed i t task
          refine ⟨?_, (stride.sinks h.kinds hhoused (h.beneath i t task)).beneath⟩
          rw [← h.kinds] at hhoused ⊢
          exact stride.housed hcacheAt hhoused
        · exact ⟨h.housed i x hx, h.beneath i x hx⟩
    | arrive idle foreground tasks content =>
        rw [tasks] at hx
        rcases getElem?_snoc hx with hx | ⟨-, rfl⟩
        · exact ⟨h.housed i x hx, h.beneath i x hx⟩
        · exact ⟨Task.housed_fresh _ _ _, Task.beneath_fresh _ _ _⟩
    | rest active tasks content now =>
        rw [tasks] at hx
        exact ⟨h.housed i x hx, h.beneath i x hx⟩
  refine ⟨sound_move h.sound move, hstack.kinds.trans h.kinds, fun i x hx => (hhoused i x hx).1,
    fun i x hx => (hhoused i x hx).2, ?_⟩
  intro health
  obtain ⟨record, here, sums⟩ := h.record health
  refine ⟨_, World.layers_of_content (record_move h.sound move here) (by simp), ?_⟩
  rw [observations_snoc]
  exact sums.after _

/-- The status on record. -/
def status (m : Machine V σ C) : Option Bool :=
  m.world.healthLayer?.bind fun found => found.2.success

/-- A query begins: it is out on a fetch, or has told the status at once. -/
theorem Inquiry.begin (h : Tracked c moves m) (move : Move m n) (begins : m.Begins id)
    (request : ∀ t, m.tasks[id]? = some t → t.request = .health refresh)
    (fetches : fetchesAt c.kinds.length id moves = []) :
    Inquiry c id refresh (moves ++ [(m, n)]) n := by
  obtain ⟨running, t, task, control⟩ := begins
  have hbegins : m.Begins id := ⟨running, t, task, control⟩
  have hfetches : fetchesAt c.kinds.length id (moves ++ [(m, n)]) = [] := by
    rw [fetchesAt_snoc, fetches, fetchAt?_of_task task (by simp [control])]
    rfl
  rcases move.step_cases task with ⟨idle, -⟩ | ⟨favoured, -, -, task'⟩
  · exact absurd running idle
  · rw [Task.step_of_query favoured control (request t task),
      Task.ask_eq refresh h.kinds h.record] at task'
    have hframes := (h.sound.shaped id t task).of_begin control
    cases hdue : queryFetches (c.health && Source.supportsHealth m.world.source) refresh
        (observations c.healthLayer moves).getLast? with
    | true =>
        rw [hdue, if_pos rfl] at task'
        have history : moves ++ [(m, n)] = moves ++ (m, n) :: [] := rfl
        exact .fetching ⟨history, hbegins, by simp, hdue, task', by simp [Task.push, hframes],
          Or.inl ⟨rfl, hfetches⟩⟩
    | false =>
        rw [hdue, if_neg Bool.false_ne_true] at task'
        have history : moves ++ [(m, n)] = moves ++ (m, n) :: ([] ++ []) := rfl
        refine .told ⟨history, hbegins, by simp, by simp, hdue.symm, hfetches, fun _ => rfl,
          ⟨m.world.now, ?_⟩, Or.inl rfl⟩
        rw [ended?, task']
        rfl

section Fetching

variable {before during : List (Machine V σ C × Machine V σ C)} {k l : Machine V σ C}

omit [Perishable V] in
theorem Fetching.not_isIdle (h : Fetching c id refresh before during k l moves m t)
    (shaped : t.Shaped) : t.frames ≠ [] ∧ t.control.isIdle = false := by
  have hframes : t.frames ≠ [] := by
    intro hnil
    have herrand := h.errand
    rw [hnil] at herrand
    cases herrand
  refine ⟨hframes, ?_⟩
  cases idle : t.control.isIdle with
  | false => rfl
  | true => exact absurd (shaped.frames_of_isIdle idle) hframes

omit [Perishable V] in
theorem Fetching.going_snoc (h : Fetching c id refresh before during k l moves m t)
    (shaped : t.Shaped) : ∀ move ∈ during ++ [(m, n)], move.1.hasEnded id = false := by
  intro move hmem
  rcases List.mem_append.1 hmem with hmem | hmem
  · exact h.going move hmem
  · rw [List.mem_singleton.1 hmem, hasEnded_of_task h.task]
    obtain ⟨-, hidle⟩ := h.not_isIdle shaped
    cases control : t.control <;> simp [Task.hasEnded, Task.ended?, control]
    rw [control] at hidle
    cases hidle

omit [Perishable V] in
theorem Fetching.history_snoc (h : Fetching c id refresh before during k l moves m t) :
    moves ++ [(m, n)] = before ++ (k, l) :: (during ++ [(m, n)]) := by
  rw [h.history]
  simp

/-- A query stays out on its fetch, which does not start again. -/
theorem Fetching.step {favoured : Signal} (h : Fetching c id refresh before during k l moves m t)
    (tracked : Tracked c moves m) (running : m.running = some id)
    (foreground : t.request.isWork = false) (stride : Strides t m.world (t.step m.world favoured))
    (task' : n.tasks[id]? = some (t.step m.world favoured).2)
    (errand : (t.step m.world favoured).2.frames.getLast? =
      some (.query c.healthLayer (observations c.healthLayer before).length)) :
    Inquiry c id refresh (moves ++ [(m, n)]) n := by
  have shaped := tracked.sound.shaped id t h.task
  refine .fetching ⟨h.history_snoc, h.begins, h.going_snoc shaped, h.due, task', errand,
    Or.inr ?_⟩
  rcases h.once with ⟨control, hnone⟩ | ⟨hbelow, honce⟩
  · -- the step is the fetch at the top, which goes on below it
    constructor
    · intro force control'
      rw [Task.step_of_foreground favoured foreground, Task.advance, control] at control'
      exact absurd (Task.enter_descends control') (Nat.lt_irrefl _)
    · rw [fetchesAt_snoc, hnone, fetchAt?_of_enter running h.task control]
      rfl
  · constructor
    · intro force control'
      rcases (stride.sinks tracked.kinds (tracked.housed id t h.task)
          (tracked.beneath id t h.task)).entry with hsame | hbegin | hno
      · exact hbelow force (hsame.symm.trans control')
      · obtain ⟨-, hidle⟩ := h.not_isIdle shaped
        rw [hbegin] at hidle
        cases hidle
      · exact hno force control'
    · rw [fetchesAt_snoc, honce, fetchAt?_of_task h.task hbelow]
      rfl

/-- A query whose fetch has come back tells what has been observed since it began. -/
theorem Fetching.report {favoured : Signal} {outcome : Outcome V}
    (h : Fetching c id refresh before during k l moves m t) (tracked : Tracked c moves m)
    (running : m.running = some id) (request : t.request = .health refresh)
    (control : t.control = .deliver outcome)
    (frames : t.frames = [.query c.healthLayer (observations c.healthLayer before).length])
    (task' : n.tasks[id]? = some (t.step m.world favoured).2) :
    Inquiry c id refresh (moves ++ [(m, n)]) n := by
  have hbelow : ∀ force, t.control ≠ .enter c.kinds.length force := by simp [control]
  -- the query has made its one fetch, and itself observes nothing
  have honce : fetchesAt c.kinds.length id moves = [false] := by
    rcases h.once with ⟨control', -⟩ | ⟨-, honce⟩
    · exact absurd control' (hbelow false)
    · exact honce
  have hsilent : m.observation? c.healthLayer = none := by
    rw [observation?, active?_of_running running h.task, Option.bind_some, Task.observation?,
      control, frames]
  have hseen : observations c.healthLayer (during ++ [(m, n)]) =
      observations c.healthLayer during := by
    rw [observations_snoc, hsilent, Option.toList_none, List.append_nil]
  obtain ⟨record, here, sums⟩ := tracked.record (by
    have hdue := h.due
    cases hhealth : c.health with
    | true => rfl
    | false => simp [queryFetches, Session.supportsHealth, hhealth] at hdue)
  rw [h.history, observations_append, observations_cons, h.begins.observation?_eq_none,
    Option.toList_none, List.nil_append] at sums
  obtain ⟨answer, hqueried, hright⟩ := Task.queried_cases outcome here sums
  rw [Task.step_of_queried favoured request control frames, hqueried] at task'
  have hhistory : moves ++ [(m, n)] = before ++ (k, l) :: (during ++ [(m, n)] ++ []) := by
    rw [h.history_snoc, List.append_nil]
  have hended : n.ended? id = some (.health answer, m.world.now) := by
    rw [ended?, task']
    rfl
  refine .told ⟨hhistory, h.begins, h.going_snoc (tracked.sound.shaped id t h.task), by simp,
    h.due.symm, ?_, by simp, ⟨m.world.now, hended⟩, ?_⟩
  · rw [fetchesAt_snoc, honce, fetchAt?_of_task h.task hbelow]
    rfl
  · rw [hseen, healthAnswer_of_fetches h.due]
    rcases hright with hvalue | ⟨hcrashed, rfl⟩
    · exact Or.inl hvalue
    · exact Or.inr ⟨hcrashed, rfl, (m, n), by simp, t, h.task, control⟩

/-- A query that is out on a fetch goes on with it, or tells the status. -/
theorem Fetching.move (h : Fetching c id refresh before during k l moves m t)
    (tracked : Tracked c moves m) (move : Move m n) (request : t.request = .health refresh) :
    Inquiry c id refresh (moves ++ [(m, n)]) n := by
  have shaped := tracked.sound.shaped id t h.task
  rcases move.step_cases h.task with ⟨idle, task'⟩ | ⟨favoured, running, -, task'⟩
  · refine .fetching ⟨h.history_snoc, h.begins, h.going_snoc shaped, h.due, task', h.errand, ?_⟩
    rw [fetchesAt_snoc, fetchAt?_of_not_running idle, Option.toList_none, List.append_nil]
    exact h.once
  · have hforeground : t.request.isWork = false := by
      rw [request]
      rfl
    have hsame : t.Same (t.step m.world favoured).2 := Task.same_step
    have hother : ∀ force, (t.step m.world favoured).2.request ≠ .fetch force := by
      intro force
      rw [hsame.2, request]
      exact Request.noConfusion
    have hgoing : t.isStopped m.world = false := by simp [Task.isStopped, request]
    have hstride : Strides t m.world (t.step m.world favoured) := by
      apply Task.strides_step shaped
      intro hstopped
      rw [hgoing] at hstopped
      cases hstopped
    have shaped' := (sound_move tracked.sound move).shaped id _ task'
    rcases hstride.errand_cases shaped shaped' hother h.errand with
      hstays | ⟨parked, ended⟩ | ⟨outcome, control, frames⟩
    · exact h.step tracked running hforeground hstride task' hstays
    · obtain ⟨hframes, -⟩ := h.not_isIdle shaped
      rw [Task.going_of_parked shaped hframes parked hgoing] at ended
      cases ended
    · exact h.report tracked running request control frames task'

end Fetching

/-- A query that has told the status is over. -/
theorem Told.move {before during after : List (Machine V σ C × Machine V σ C)}
    {k l : Machine V σ C} {answer : Outcome (Option Bool)} {fetches : Bool}
    (h : Told c id refresh before during after k l moves m answer fetches) (move : Move m n)
    (request : ∀ t, m.tasks[id]? = some t → t.request = .health refresh) :
    Told c id refresh before during (after ++ [(m, n)]) k l (moves ++ [(m, n)]) n answer
      fetches := by
  obtain ⟨endedAt, ended⟩ := h.ended
  obtain ⟨t, task, control⟩ := task_of_ended? ended
  have task' := task_of_returned move task (by rw [request t task]; rfl) control
  refine { h with history := ?_, past := ?_, once := ?_, ended := ⟨endedAt, ?_⟩ }
  · rw [h.history]
    simp
  · intro move hmem
    rcases List.mem_append.1 hmem with hmem | hmem
    · exact h.past move hmem
    · rw [List.mem_singleton.1 hmem, hasEnded, ended]
      rfl
  · rw [fetchesAt_snoc, h.once, fetchAt?_of_task task (by simp [control]), Option.toList_none,
      List.append_nil]
  · rw [← ended, ended?, ended?, task', task]

/-- What a move makes of a health query. -/
theorem Inquiry.move (tracked : Tracked c moves m) (move : Move m n)
    (request : ∀ t, n.tasks[id]? = some t → t.request = .health refresh)
    (h : Inquiry c id refresh moves m) : Inquiry c id refresh (moves ++ [(m, n)]) n := by
  have hrequest : ∀ t, m.tasks[id]? = some t → t.request = .health refresh := by
    intro t task
    obtain ⟨t', task', same⟩ := move.stays task
    exact same.2.symm.trans (request t' task')
  cases h with
  | unasked control fetches =>
      cases task : m.tasks[id]? with
      | none =>
          refine .unasked ?_ ?_
          · intro x hx
            rcases move.task hx with ⟨t, ht, -⟩ | ⟨r, rfl, -⟩
            · rw [task] at ht
              cases ht
            · rfl
          · rw [fetchesAt_snoc, fetches, fetchAt?_of_none task]
            rfl
      | some t =>
          rcases move.step_cases task with ⟨idle, task'⟩ | ⟨favoured, running, -, -⟩
          · refine .unasked ?_ ?_
            · intro x hx
              rw [task'] at hx
              cases hx
              exact control t task
            · rw [fetchesAt_snoc, fetches, fetchAt?_of_not_running idle]
              rfl
          · exact .begin tracked move ⟨running, t, task, control t task⟩ hrequest fetches
  | fetching fetching => exact fetching.move tracked move (hrequest _ fetching.task)
  | told told => exact .told (told.move move hrequest)

end Inquiry

end Machine

end CredentialSupply
