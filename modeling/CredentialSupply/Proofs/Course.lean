import CredentialSupply.Proofs.Visits

set_option autoImplicit false

/-!
# The course of a burst in a machine

A run of a machine in which callers come to a cache that has no worker and no valid entry, all of
them before the first inner call ends, is the course of a `Burst`. The parties of the lock, and
whoever is about to ask for it, are the line, and each visit takes the burst one step further
(`Course.visit`).
-/

namespace CredentialSupply

variable {V σ C : Type}

/-- Whether the task is about to ask for the lock. -/
def Stage.isAsking : Stage → Bool
  | .asking .. => true
  | _ => false

namespace Task

variable {layer : Nat} {t : Task V C}

/-- The stage of a task before its inner call can be read off its control. -/
theorem stage_cases (t : Task V C) (layer : Nat) :
    (∃ seen force, t.control = .acquire layer seen force ∧
      t.stage layer = .asking seen force) ∨
    (∃ seen force deadline, t.control = .queued layer seen force deadline ∧
      t.stage layer = .waiting seen force deadline) ∨
    (∃ seen force, t.control = .locked layer seen force ∧
      t.stage layer = .holding seen force) ∨
    t.stage layer = .away ∨ t.stage layer = .loading := by
  have haround : t.around layer = .away ∨ t.around layer = .loading := by
    rw [around]
    split
    · exact Or.inr rfl
    · exact Or.inl rfl
  cases control : t.control with
  | acquire l seen force =>
      by_cases hl : l = layer
      · subst hl
        exact Or.inl ⟨seen, force, rfl, by simp [stage, control]⟩
      · simpa [stage, control, hl] using haround
  | queued l seen force deadline =>
      by_cases hl : l = layer
      · subst hl
        exact Or.inr (Or.inl ⟨seen, force, deadline, rfl, by simp [stage, control]⟩)
      · simpa [stage, control, hl] using haround
  | locked l seen force =>
      by_cases hl : l = layer
      · subst hl
        exact Or.inr (Or.inr (Or.inl ⟨seen, force, rfl, by simp [stage, control]⟩))
      · simpa [stage, control, hl] using haround
  | _ =>
      rw [stage_eq_around layer (by simp [control])]
      exact Or.inr (Or.inr (Or.inr haround))

/-- Only a running task is about to ask for the lock. -/
theorem isAsking_of_parked (h : t.control.isParked = true) :
    (t.stage layer).isAsking = false := by
  rcases t.stage_cases layer with ⟨seen, force, control, -⟩ | ⟨seen, force, deadline, -, stage⟩ |
    ⟨seen, force, -, stage⟩ | stage | stage
  · rw [control] at h
    cases h
  · rw [stage]
    rfl
  · rw [stage]
    rfl
  · rw [stage]
    rfl
  · rw [stage]
    rfl

end Task

namespace Machine

/-! ## The line -/

/-- The running task, if it is about to ask for the lock of the cache at a layer. -/
def asking (layer : Nat) (m : Machine V σ C) : List TaskId :=
  match m.active? with
  | none => []
  | some t => if (t.stage layer).isAsking then [t.id] else []

/-- Those who have asked for the lock and not gone, and whoever is about to ask. -/
def line (layer : Nat) (m : Machine V σ C) (l : Lock) : List TaskId := l.parties ++ asking layer m

/-- Who is in its inner call of the cache at a layer. -/
def Calling (layer : Nat) (m : Machine V σ C) (calling : Option TaskId) : Prop :=
  ∀ i, calling = some i ↔ ∃ t, m.tasks[i]? = some t ∧ t.stage layer = .loading

variable {layer : Nat} {m n : Machine V σ C} {id : TaskId} {t t' : Task V C}
  {calling : Option TaskId}

theorem asking_of_running (running : m.running = some id) (task : m.tasks[id]? = some t)
    (hid : t.id = id) : asking layer m = if (t.stage layer).isAsking then [id] else [] := by
  simp only [asking, active?_of_running running task, hid]

theorem asking_of_parked
    (h : ∀ (i : Nat) (t : Task V C), m.tasks[i]? = some t → t.control.isParked = true) :
    asking layer m = [] := by
  rw [asking]
  split
  next => rfl
  next t active =>
    obtain ⟨i, -, task⟩ := Option.bind_eq_some_iff.1 active
    rw [Task.isAsking_of_parked (h i t task)]
    rfl

theorem asking_of_turn (task' : n.tasks[id]? = some t') (hid : t'.id = id)
    (running' : n.running = none ∨ n.running = some id)
    (parked : n.running ≠ some id → t'.control.isParked = true) :
    asking layer n = if (t'.stage layer).isAsking then [id] else [] := by
  rcases running' with hnone | hsome
  · have hparked := parked (by simp [hnone])
    rw [Task.isAsking_of_parked hparked]
    simp [asking, active?_of_idle hnone]
  · exact asking_of_running hsome task' hid

/-- The running task takes its turn, and is `t'` after it. -/
structure Taken (layer : Nat) (m n : Machine V σ C) (id : TaskId) (t t' : Task V C) : Prop where
  running : m.running = some id
  task : m.tasks[id]? = some t
  number : t.id = id
  tasks : n.tasks = m.tasks.set id t'
  asking : asking layer n = if (t'.stage layer).isAsking then [id] else []
  now : n.world.now = m.world.now

theorem Taken.task_after (turn : Taken layer m n id t t') : n.tasks[id]? = some t' := by
  rw [turn.tasks]
  exact getElem?_set_some t' turn.task

/-- Who is in its inner call after a turn: the one who took it, or someone else who was before. -/
theorem Calling.turn (h : Calling layer m calling) (turn : Taken layer m n id t t') (i : TaskId) :
    (∃ u, n.tasks[i]? = some u ∧ u.stage layer = .loading) ↔
      if i = id then t'.stage layer = .loading else calling = some i := by
  rw [turn.tasks]
  by_cases hi : i = id
  · subst hi
    rw [getElem?_set_some t' turn.task, if_pos rfl]
    simp
  · rw [List.getElem?_set_ne (Ne.symm hi), if_neg hi]
    exact (h i).symm

/-- A turn that neither begins nor ends an inner call. -/
theorem Calling.of_turn (h : Calling layer m calling) (turn : Taken layer m n id t t')
    (same : t'.stage layer = .loading ↔ t.stage layer = .loading) : Calling layer n calling := by
  intro i
  rw [h.turn turn i]
  by_cases hi : i = id
  · subst hi
    rw [if_pos rfl, h i, turn.task]
    simp [same]
  · rw [if_neg hi]

theorem Calling.begin (h : Calling layer m none) (turn : Taken layer m n id t t')
    (stage' : t'.stage layer = .loading) : Calling layer n (some id) := by
  intro i
  rw [h.turn turn i]
  by_cases hi : i = id
  · simp [hi, stage']
  · simp [hi, Ne.symm hi]

theorem Calling.finish (h : Calling layer m (some id)) (turn : Taken layer m n id t t')
    (stage' : t'.stage layer = .away) : Calling layer n none := by
  intro i
  rw [h.turn turn i]
  by_cases hi : i = id
  · simp [hi, stage']
  · simp [hi, Ne.symm hi]

/-- No task begins or ends an inner call when it is not its turn. -/
theorem Calling.joined (h : Calling layer m calling) (joined : Joined m n) :
    Calling layer n calling := by
  intro i
  rw [h i]
  constructor
  · rintro ⟨t, task, stage⟩
    exact ⟨t, joined.kept i t task, stage⟩
  · rintro ⟨t, task, stage⟩
    rcases joined.task_or_away task layer with hm | haway
    · exact ⟨t, hm, stage⟩
    · rw [haway] at stage
      cases stage

/-- A task that goes on as the holder is not in its inner call, and neither is anybody else. -/
theorem Calling.none_of_holding {c : Cache V} {seen : Nat} {force : Bool}
    (h : Calling layer m calling) (queued : Queued layer m c.lock) (task : m.tasks[id]? = some t)
    (stage : t.stage layer = .holding seen force) : calling = none := by
  cases calling with
  | none => rfl
  | some i =>
      obtain ⟨u, hu, hloading⟩ := (h i).1 rfl
      have hi := queued.owner i u hu (by rw [hloading]; rfl)
      rw [queued.owner id t task (by rw [stage]; rfl)] at hi
      cases hi
      rw [task] at hu
      cases hu
      rw [stage] at hloading
      cases hloading

theorem Taken.line_before (turn : Taken layer m n id t t') (l : Lock) :
    line layer m l = l.parties ++ if (t.stage layer).isAsking then [id] else [] := by
  rw [line, asking_of_running turn.running turn.task turn.number]

theorem Taken.line_after (turn : Taken layer m n id t t') (l : Lock) :
    line layer n l = l.parties ++ if (t'.stage layer).isAsking then [id] else [] := by
  rw [line, turn.asking]

/-- The line stays as it is when nobody comes and the lock stays as it is. -/
theorem Taken.line_same (turn : Taken layer m n id t t')
    (same : (t'.stage layer).isAsking = (t.stage layer).isAsking) (l : Lock) :
    line layer n l = line layer m l := by
  rw [turn.line_after, turn.line_before, same]

/-- Whoever has the lock is the first one in line. -/
theorem Taken.line_of_owner {l : Lock} (turn : Taken layer m n id t t') (queued : Queued layer m l)
    (owner : (t.stage layer).isOwner = true) : line layer m l = id :: l.waiting := by
  have haway : (t.stage layer).isAsking = false := by
    cases stage : t.stage layer with
    | asking seen force =>
        rw [stage] at owner
        cases owner
    | _ => rfl
  rw [turn.line_before, haway, Lock.parties_of_holder (queued.owner id t turn.task owner)]
  exact List.append_nil _

/-- Nobody but the others is left in line when whoever has the lock goes. -/
theorem Taken.line_left {l : Lock} (turn : Taken layer m n id t t') (queued : Queued layer m l)
    (owner : (t.stage layer).isOwner = true) (stage' : t'.stage layer = .away) :
    line layer n l.release = l.waiting := by
  have hholder := queued.owner id t turn.task owner
  rw [turn.line_after, stage', Lock.parties_release l hholder, Lock.parties_of_holder hholder]
  exact List.append_nil _

/-! ## The course of a burst -/

/-- What a cache holds in a burst that found the generation `seen`: no valid entry, or the entry
that was installed since. -/
def Found (seen : Nat) (now : Instant) (c : Cache V) : Option (Entry V) → Prop
  | none => c.generation = seen ∧ c.valid? now = none
  | some e => c.generation = seen + 1 ∧ c.entry = some e

theorem Found.later {seen : Nat} {now now' : Instant} {c : Cache V} {installed : Option (Entry V)}
    (h : Found seen now c installed) (hle : now ≤ now') : Found seen now' c installed := by
  cases installed with
  | some e => exact h
  | none =>
      refine ⟨h.1, ?_⟩
      have hnone := h.2
      rw [Cache.valid?, Option.filter_eq_none_iff] at hnone ⊢
      intro e he hvalid
      apply hnone e he
      rw [Entry.isValid_iff] at hvalid ⊢
      exact Instant.le_trans hle hvalid

theorem Found.congr {seen : Nat} {now : Instant} {c c' : Cache V}
    {installed : Option (Entry V)} (h : Found seen now c installed) (entry : c'.entry = c.entry)
    (generation : c'.generation = c.generation) : Found seen now c' installed := by
  cases installed with
  | none =>
      refine ⟨generation.trans h.1, ?_⟩
      rw [Cache.valid?, entry]
      exact h.2
  | some e => exact ⟨generation.trans h.1, entry.trans h.2⟩

/-- Somebody who came before the entry was installed takes it over. -/
theorem Found.replacement? {seen : Nat} {now : Instant} {c : Cache V}
    {installed : Option (Entry V)} (h : Found seen now c installed) :
    c.replacement? seen = installed := by
  cases installed with
  | none => rw [Cache.replacement?, if_pos h.1]
  | some e =>
      have hne : c.generation ≠ seen := by
        rw [h.1]
        exact Nat.succ_ne_self seen
      rw [Cache.replacement?, if_neg hne]
      exact h.2

section Course

variable [Perishable V]

/-- What has happened at a cache, who stands in line, who is in its inner call, and what was
installed are the course of a burst. -/
structure Course (l : Lifetime) (prompt : Prop) (layer seen : Nat) (happened : Log V)
    (m : Machine V σ C) (c : Cache V) (calling : Option TaskId)
    (installed : Option (Entry V)) : Prop where
  burst : Burst l prompt happened (line layer m c.lock) calling installed
  calling : Calling layer m calling
  found : Found seen m.world.now c installed
  soon : prompt → ∀ e, installed = some e → line layer m c.lock ≠ [] →
    m.world.now = e.installedAt

variable {l : Lifetime} {prompt : Prop} {seen : Nat} {c c' : Cache V}
  {installed : Option (Entry V)} {moves : List (Machine V σ C × Machine V σ C)}

/-- While no inner call has ended, no entry has been installed. -/
theorem Course.not_installed {happened : Log V}
    (h : Course l prompt layer seen happened m c calling installed) (ended : happened.ended = []) :
    installed = none := by
  cases installed with
  | none => rfl
  | some e =>
      obtain ⟨-, failed, last, shares, served⟩ := h.burst.facts.served e rfl
      have hended := served.ended
      rw [ended] at hended
      simp at hended

/-- An entry that was installed is taken over, and nobody makes an inner call any more. -/
theorem Course.not_installed_of_calling {happened : Log V}
    (h : Course l prompt layer seen happened m c (some id) installed) : installed = none := by
  cases installed with
  | none => rfl
  | some e => cases (h.burst.facts.served e rfl).1

/-! ### One lemma for each kind of visit -/

theorem Course.aside (h : Course l prompt layer seen (log layer moves) m c calling installed)
    (turn : Taken layer m n id t t') (marks : t.Marks layer t' false none false none)
    (lock : c'.lock = c.lock) (entry : c'.entry = c.entry)
    (generation : c'.generation = c.generation)
    (stage : t'.stage layer = t.stage layer ∨ ∃ s force deadline,
      t.stage layer = .waiting s force deadline ∧ t'.stage layer = .holding s force) :
    Course l prompt layer seen (log layer (moves ++ [(m, n)])) n c' calling installed := by
  have hsame : (t'.stage layer).isAsking = (t.stage layer).isAsking ∧
      (t'.stage layer = .loading ↔ t.stage layer = .loading) := by
    rcases stage with h | ⟨s, force, deadline, hs, hs'⟩
    · rw [h]
      exact ⟨rfl, Iff.rfl⟩
    · rw [hs, hs']
      exact ⟨rfl, by simp⟩
  have hline : line layer n c'.lock = line layer m c.lock := by
    rw [lock, turn.line_same hsame.1]
  refine ⟨?_, h.calling.of_turn turn hsame.2, ?_, ?_⟩
  · rw [log_of_turn turn.running turn.task turn.number turn.task_after marks, hline]
    simpa using h.burst
  · rw [turn.now]
    exact h.found.congr entry generation
  · rw [turn.now, hline]
    exact h.soon

theorem Course.come {s : Nat} {force : Bool}
    (h : Course l prompt layer seen (log layer moves) m c calling installed)
    (turn : Taken layer m n id t t') (early : (log layer moves).ended = [])
    (marks : t.Marks layer t' true none false none) (stage : t.stage layer = .away)
    (stage' : t'.stage layer = .asking s force) :
    Course l prompt layer seen (log layer (moves ++ [(m, n)])) n c calling installed := by
  have hnone := h.not_installed early
  subst hnone
  have hline : line layer n c.lock = line layer m c.lock ++ [id] := by
    rw [turn.line_after, turn.line_before, stage, stage']
    simp [Stage.isAsking]
  refine ⟨?_, h.calling.of_turn turn (by simp [stage, stage']), ?_, ?_⟩
  · rw [log_of_turn turn.running turn.task turn.number turn.task_after marks, hline]
    simpa using h.burst.come id
  · rw [turn.now]
    exact h.found
  · intro _ e he
    cases he

/-- Who asks for the lock moves from the end of the line to the end of the parties, and the line
stays as it is. -/
theorem Course.ask {s : Nat} {force : Bool}
    (h : Course l prompt layer seen (log layer moves) m c calling installed)
    (turn : Taken layer m n id t t') (queued : Queued layer m c.lock)
    (marks : t.Marks layer t' false none false none) (stage : t.stage layer = .asking s force)
    (stage' : t'.stage layer = .holding s force ∨ ∃ deadline,
      t'.stage layer = .waiting s force deadline) :
    Course l prompt layer seen (log layer (moves ++ [(m, n)])) n
      { c with lock := c.lock.ask t.id } calling installed := by
  have hsame : (t'.stage layer).isAsking = false ∧ t'.stage layer ≠ .loading := by
    rcases stage' with h | ⟨deadline, h⟩ <;> rw [h] <;> exact ⟨rfl, Stage.noConfusion⟩
  have hline : line layer n (c.lock.ask t.id) = line layer m c.lock := by
    rw [turn.line_after, turn.line_before, hsame.1, stage, Lock.parties_ask queued.proper,
      turn.number]
    simp [Stage.isAsking]
  refine ⟨?_, h.calling.of_turn turn (by simp [stage, hsame.2]), ?_, ?_⟩
  · rw [log_of_turn turn.running turn.task turn.number turn.task_after marks, hline]
    simpa using h.burst
  · rw [turn.now]
    exact h.found.congr rfl rfl
  · rw [turn.now, hline]
    exact h.soon

/-- Who goes on as the holder is the first one in line, and nobody is in an inner call. -/
theorem Course.of_holding {s : Nat} {force : Bool}
    (h : Course l prompt layer seen (log layer moves) m c calling installed)
    (turn : Taken layer m n id t t') (queued : Queued layer m c.lock)
    (stage : t.stage layer = .holding s force) :
    calling = none ∧ line layer m c.lock = id :: c.lock.waiting :=
  ⟨h.calling.none_of_holding queued turn.task stage,
    turn.line_of_owner queued (by rw [stage]; rfl)⟩

theorem Course.call {force : Bool}
    (h : Course l prompt layer seen (log layer moves) m c calling installed)
    (turn : Taken layer m n id t t') (queued : Queued layer m c.lock)
    (marks : t.Marks layer t' false none true none) (stage : t.stage layer = .holding seen force)
    (stage' : t'.stage layer = .loading) (current : c.replacement? seen = none) :
    Course l prompt layer seen (log layer (moves ++ [(m, n)])) n c (some id) none := by
  obtain ⟨rfl, hfirst⟩ := h.of_holding turn queued stage
  -- an entry that was installed since the task came would be taken over
  have hinstalled : installed = none := h.found.replacement?.symm.trans current
  subst hinstalled
  have hline := turn.line_same (by rw [stage, stage']; rfl) c.lock
  refine ⟨?_, h.calling.begin turn stage', ?_, ?_⟩
  · have hburst := h.burst
    rw [hfirst] at hburst
    rw [log_of_turn turn.running turn.task turn.number turn.task_after marks, hline, hfirst]
    simpa using hburst.call
  · rw [turn.now]
    exact h.found
  · intro _ e he
    cases he

/-- Whose inner call has ended is the first one in line, and nothing has been installed so far. -/
theorem Course.of_loading (h : Course l prompt layer seen (log layer moves) m c calling installed)
    (turn : Taken layer m n id t t') (queued : Queued layer m c.lock)
    (stage : t.stage layer = .loading) :
    calling = some id ∧ installed = none ∧ line layer m c.lock = id :: c.lock.waiting := by
  have hcalling : calling = some id := (h.calling id).2 ⟨t, turn.task, stage⟩
  subst hcalling
  exact ⟨rfl, h.not_installed_of_calling, turn.line_of_owner queued (by rw [stage]; rfl)⟩

theorem Course.fail {outcome : Outcome V}
    (h : Course l prompt layer seen (log layer moves) m c calling installed)
    (turn : Taken layer m n id t t') (lifetime : c.settings.lifetime = l)
    (queued : Queued layer m c.lock)
    (marks : t.Marks layer t' false (some outcome) false (some outcome.lost))
    (stage : t.stage layer = .loading) (stage' : t'.stage layer = .away)
    (lost : ∀ v, outcome = .value v → c.settings.lifetime.entry? v m.world.now = none) :
    Course l prompt layer seen (log layer (moves ++ [(m, n)])) n
      { c with lock := c.lock.release } none none := by
  obtain ⟨rfl, rfl, hfirst⟩ := h.of_loading turn queued stage
  have hline := turn.line_left queued (by rw [stage]; rfl) stage'
  have hlost : InnerEnd.entry? l ⟨id, outcome, m.world.now⟩ = none := by
    rw [InnerEnd.entry?]
    split
    next v hv => rw [← lifetime]; exact lost v hv
    next => rfl
  refine ⟨?_, h.calling.finish turn stage', ?_, ?_⟩
  · have hburst := h.burst
    rw [hfirst] at hburst
    rw [log_of_turn turn.running turn.task turn.number turn.task_after marks]
    show Burst l prompt _ (line layer n c.lock.release) none none
    rw [hline]
    simpa [InnerEnd.own] using hburst.fail ⟨id, outcome, m.world.now⟩ hlost
  · rw [turn.now]
    exact h.found.congr rfl rfl
  · intro _ e he
    cases he

theorem Course.succeed {v : V} {e : Entry V}
    (h : Course l prompt layer seen (log layer moves) m c calling installed)
    (turn : Taken layer m n id t t') (lifetime : c.settings.lifetime = l)
    (queued : Queued layer m c.lock)
    (marks : t.Marks layer t' false (some (.value v)) false (some (e.outcome m.world.now)))
    (stage : t.stage layer = .loading) (stage' : t'.stage layer = .away)
    (entry : c.settings.lifetime.entry? v m.world.now = some e) :
    Course l prompt layer seen (log layer (moves ++ [(m, n)])) n
      { c.install e with lock := c.lock.release } none (some e) := by
  obtain ⟨rfl, rfl, hfirst⟩ := h.of_loading turn queued stage
  have hline := turn.line_left queued (by rw [stage]; rfl) stage'
  have hentry : InnerEnd.entry? l ⟨id, .value v, m.world.now⟩ = some e := by
    rw [← lifetime]
    exact entry
  refine ⟨?_, h.calling.finish turn stage', ⟨?_, rfl⟩, ?_⟩
  · have hburst := h.burst
    rw [hfirst] at hburst
    rw [log_of_turn turn.running turn.task turn.number turn.task_after marks]
    show Burst l prompt _ (line layer n c.lock.release) none (some e)
    rw [hline]
    simpa using hburst.succeed ⟨id, .value v, m.world.now⟩ hentry
  · show c.generation + 1 = seen + 1
    rw [h.found.1]
  · intro _ e' he _
    cases he
    rw [turn.now]
    exact (Lifetime.installedAt_of_entry? entry).symm

/-- Who takes over the entry that was installed stood in line all the while. -/
theorem Course.share {force : Bool} {e : Entry V}
    (h : Course l prompt layer seen (log layer moves) m c calling installed)
    (turn : Taken layer m n id t t') (queued : Queued layer m c.lock)
    (marks : t.Marks layer t' false none false (some (e.outcome m.world.now)))
    (stage : t.stage layer = .holding seen force) (stage' : t'.stage layer = .away)
    (newer : c.replacement? seen = some e) :
    Course l prompt layer seen (log layer (moves ++ [(m, n)])) n
      { c with lock := c.lock.release } none (some e) := by
  obtain ⟨rfl, hfirst⟩ := h.of_holding turn queued stage
  have hinstalled : installed = some e := h.found.replacement?.symm.trans newer
  subst hinstalled
  have hline := turn.line_left queued (by rw [stage]; rfl) stage'
  have hsoon : prompt → m.world.now = e.installedAt := by
    intro hprompt
    exact h.soon hprompt e rfl (by rw [hfirst]; exact List.cons_ne_nil _ _)
  refine ⟨?_, h.calling.of_turn turn (by simp [stage, stage']), ?_, ?_⟩
  · have hburst := h.burst
    rw [hfirst] at hburst
    rw [log_of_turn turn.running turn.task turn.number turn.task_after marks]
    show Burst l prompt _ (line layer n c.lock.release) none (some e)
    rw [hline]
    simpa using hburst.share m.world.now hsoon
  · rw [turn.now]
    exact h.found.congr rfl rfl
  · intro hprompt e' he _
    cases he
    rw [turn.now]
    exact hsoon hprompt

/-- A visit takes a burst one step further. -/
theorem Course.visit (h : Course l prompt layer seen (log layer moves) m c calling installed)
    (lifetime : c.settings.lifetime = l) (queued : Queued layer m c.lock)
    (snapshots : ∀ (i : Nat) (u : Task V C) (s : Nat), m.tasks[i]? = some u →
      (u.stage layer).seen? = some s → s = seen)
    (turn : Taken layer m n id t t')
    (early : came? layer m ≠ none → (log layer moves).ended = [])
    (visit : Visit layer m.world.now t c t' c') :
    ∃ calling' installed',
      Course l prompt layer seen (log layer (moves ++ [(m, n)])) n c' calling' installed' := by
  have hseen : ∀ {s : Nat} {force : Bool}, t.stage layer = .holding s force → s = seen :=
    fun stage => snapshots id t _ turn.task (by rw [stage]; rfl)
  cases visit with
  | aside marks lock entry generation stage =>
      exact ⟨_, _, h.aside turn marks lock entry generation stage⟩
  | come marks stage stage' cache =>
      subst cache
      -- everybody comes before the first inner call ends
      have hended : (log layer moves).ended = [] := by
        apply early
        simp [came?, active?_of_running turn.running turn.task, marks.comes.2 rfl]
      exact ⟨_, _, h.come turn hended marks stage stage'⟩
  | ask marks stage stage' cache =>
      subst cache
      exact ⟨_, _, h.ask turn queued marks stage (stage'.imp_right And.right)⟩
  | call marks stage stage' current cache =>
      subst cache
      cases hseen stage
      exact ⟨_, _, h.call turn queued marks stage stage' current⟩
  | fail marks stage stage' lost cache =>
      subst cache
      exact ⟨_, _, h.fail turn lifetime queued marks stage stage' lost⟩
  | succeed marks stage stage' entry cache =>
      subst cache
      exact ⟨_, _, h.succeed turn lifetime queued marks stage stage' entry⟩
  | share marks stage stage' newer cache =>
      subst cache
      cases hseen stage
      exact ⟨_, _, h.share turn queued marks stage stage' newer⟩

end Course

end Machine

end CredentialSupply
