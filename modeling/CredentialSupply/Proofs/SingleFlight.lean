import CredentialSupply.Proofs.History
import CredentialSupply.Proofs.Queueing
import CredentialSupply.Source.Script

set_option autoImplicit false

/-!
# One inner call at a time

At most one inner call of a cache is in flight (`Queued.inFlight_le_one`), because whoever makes
one holds the lock. A task that gets the lock after an entry was installed that its snapshot does
not know takes that entry over and makes no inner call (`takes_over`), and a task that gives up
waiting has done nothing to the cache or to the other tasks (`untouched_of_timeout`).
-/

namespace CredentialSupply

variable {V σ C : Type}

/-! ## Inner calls in flight -/

theorem Nested.countP_isLoad_le_one {request : Request} {depth : Nat} {frames : List Frame}
    (h : Nested request depth frames) (layer : Nat) : frames.countP (Frame.isLoad layer) ≤ 1 := by
  induction frames generalizing depth with
  | nil => exact Nat.zero_le 1
  | cons f frames ih =>
      cases f with
      | retry l force => simpa [List.countP_cons, Frame.isLoad] using ih h.2
      | outage l force => simpa [List.countP_cons, Frame.isLoad] using ih h.2
      | health l => simpa [List.countP_cons, Frame.isLoad] using ih h.2
      | load l startedAt =>
          by_cases hl : l = layer
          · subst hl
            have hnone := Nested.not_isLoad h.2 (Nat.lt_succ_self _)
            have hzero : frames.countP (Frame.isLoad l) = 0 := by
              rw [List.countP_eq_zero]
              intro f hf
              rw [List.any_eq_false] at hnone
              exact hnone f hf
            simp [hzero, Frame.isLoad]
          · simpa [List.countP_cons, Frame.isLoad, hl] using ih h.2
      | query l seen => simp [h.2, Frame.isLoad]
      | job l job retryAfter => simp [h.2.2, Frame.isLoad]
      | timer l job firedAt => simp [h.2.2, Frame.isLoad]

namespace Task

variable {t : Task V C} {layer : Nat}

theorem countP_isLoad_le_one (shaped : t.Shaped) (layer : Nat) :
    t.frames.countP (Frame.isLoad layer) ≤ 1 := by
  rcases shaped.nested_or_nil with ⟨depth, hn⟩ | hf
  · exact hn.countP_isLoad_le_one layer
  · simp [hf]

/-- A task with an inner call in flight is at the stage of loading. -/
theorem stage_of_isLoad (shaped : t.Shaped) (h : t.frames.any (Frame.isLoad layer) = true) :
    t.stage layer = .loading := by
  have haround : t.around layer = .loading := by simp [around, h]
  cases hcontrol : t.control with
  | acquire l seen force | queued l seen force deadline | locked l seen force =>
      by_cases hl : l = layer
      · rw [around_of_snapshot shaped (by simp [hcontrol, hl])] at haround
        cases haround
      · simp [stage, hcontrol, hl, haround]
  | _ =>
      rw [stage_eq_around layer (by simp [hcontrol])]
      exact haround

end Task

/-- At most one element in all of some lists, if none of them has two and only one has any. -/
theorem countP_flatMap_le_one {α β : Type} {p : β → Bool} {f : α → List β} {l : List α}
    (le_one : ∀ x ∈ l, (f x).countP p ≤ 1)
    (single : ∀ (i j : Nat) (x y : α), l[i]? = some x → l[j]? = some y →
      0 < (f x).countP p → 0 < (f y).countP p → i = j) :
    (l.flatMap f).countP p ≤ 1 := by
  induction l with
  | nil => exact Nat.zero_le 1
  | cons x l ih =>
      rw [List.flatMap_cons, List.countP_append]
      have htail : (l.flatMap f).countP p ≤ 1 := by
        refine ih (fun y hy => le_one y (List.mem_cons_of_mem x hy)) ?_
        intro i j y z hy hz hy' hz'
        have hsame := single (i + 1) (j + 1) y z (by simpa using hy) (by simpa using hz) hy' hz'
        exact Nat.succ.inj hsame
      by_cases hx : (f x).countP p = 0
      · omega
      · -- the others have none
        have hzero : (l.flatMap f).countP p = 0 := by
          rw [List.countP_eq_zero]
          intro b hb hpb
          obtain ⟨y, hy, hby⟩ := List.mem_flatMap.1 hb
          obtain ⟨j, hj⟩ := List.getElem?_of_mem hy
          have hpos : 0 < (f y).countP p := List.countP_pos_iff.2 ⟨b, hby, hpb⟩
          have := single 0 (j + 1) x y rfl (by simpa using hj) (by omega) hpos
          omega
        have := le_one x List.mem_cons_self
        omega

namespace Machine

/-- Inner calls of the cache at a layer that have begun and not ended. -/
def inFlight (layer : Nat) (m : Machine V σ C) : Nat :=
  (m.tasks.flatMap Task.frames).countP (Frame.isLoad layer)

theorem Queued.inFlight_le_one {layer : Nat} {m : Machine V σ C} {l : Lock}
    (queued : Queued layer m l) (sound : m.Sound) : m.inFlight layer ≤ 1 := by
  apply countP_flatMap_le_one
  · intro t ht
    obtain ⟨i, hi⟩ := List.getElem?_of_mem ht
    exact Task.countP_isLoad_le_one (sound.shaped i t hi) layer
  · -- both tasks would hold the lock
    intro i j t u ht hu hpos hpos'
    have hholder : ∀ (k : Nat) (x : Task V C), m.tasks[k]? = some x →
        0 < x.frames.countP (Frame.isLoad layer) → l.holder = some k := by
      intro k x hx hcount
      have hany : x.frames.any (Frame.isLoad layer) = true := by
        rw [List.countP_pos_iff] at hcount
        exact List.any_eq_true.2 hcount
      apply queued.owner k x hx
      rw [Task.stage_of_isLoad (sound.shaped k x hx) hany]
      rfl
    have hi := hholder i t ht hpos
    rw [hholder j u hu hpos'] at hi
    exact (Option.some.inj hi).symm

end Machine

/-! ## Snapshots -/

/-- The generation that a task at this stage saw. -/
def Stage.seen? : Stage → Option Nat
  | .asking seen _ | .waiting seen _ _ | .holding seen _ => some seen
  | .away | .loading => none

section Turn

variable [Perishable V] {layer : Nat} {now : Instant} {t t' : Task V C} {c c' : Cache V}

theorem Turn.generation_le (h : Turn layer now t c t' c') : c.generation ≤ c'.generation := by
  cases h with
  | install control head entry => exact Nat.le_succ _
  | hit control valid noticed =>
      rcases Cache.noticed?_cases noticed with rfl | ⟨r, -, -, -, rfl⟩ <;> exact Nat.le_refl _
  | _ => exact Nat.le_refl _

/-- A cache that has installed an entry has one. -/
theorem Turn.entry_none (h : Turn layer now t c t' c') (hc : c.entry = none → c.generation = 0) :
    c'.entry = none → c'.generation = 0 := by
  intro hnone
  cases h with
  | install => cases hnone
  | hit control valid noticed =>
      rcases Cache.noticed?_cases noticed with rfl | ⟨r, -, -, -, rfl⟩ <;> exact hc hnone
  | _ => exact hc hnone

/-- A task takes its snapshot from the cache or from a job in its queue. -/
theorem Turn.seen_cases {seen : Nat} (h : Turn layer now t c t' c')
    (hs : (t'.stage layer).seen? = some seen) :
    (t.stage layer).seen? = some seen ∨ seen = c.generation ∨
      t.Attends layer ∧ ∃ r job, c.early = some r ∧ job ∈ r.jobs ∧ job.generation = seen := by
  -- a task that has gone, has ended or rests has no snapshot
  have haround : ∀ {u : Task V C}, (u.around layer).seen? = some seen → False := by
    intro u hu
    unfold Task.around at hu
    split at hu <;> cases hu
  have hnil : ∀ {u : Task V C}, u.frames = [] → u.hasEnded = true →
      (u.stage layer).seen? = some seen → False := by
    intro u hf ended hu
    rw [Task.stage_of_hasEnded hf ended] at hu
    cases hu
  have hrest : t'.Attends layer → False := by
    intro attends
    rw [(attends.outside layer).1] at hs
    cases hs
  cases h with
  | elsewhere acts stage duty => exact Or.inl (by rw [← stage]; exact hs)
  | hit | overrun | giveUp | adopt | install | fail | crash => exact (haround hs).elim
  | miss control stale =>
      have hs : some c.generation = some seen := by
        simpa [Stage.seen?] using hs
      exact Or.inr (Or.inl (Option.some.inj hs).symm)
  | seize control held =>
      left
      rw [Task.stage_of_acquire control]
      simpa [Stage.seen?] using hs
  | queue control held =>
      left
      rw [Task.stage_of_acquire control]
      simpa [Stage.seen?] using hs
  | receive control held =>
      left
      rw [Task.stage_of_queued control]
      simpa [Stage.seen?] using hs
  | load control same => simp [Stage.seen?] at hs
  | tend _ _ _ _ _ _ attends' => exact (hrest attends').elim
  | succeed _ _ _ attends' => exact (hrest attends').elim
  | forgo _ _ _ attends' => exact (hrest attends').elim
  | @takeJob r job rest retryAfter attends early jobs =>
      have hs : some job.generation = some seen := by
        simpa [Task.stage, Task.push, Stage.seen?] using hs
      exact Or.inr (Or.inr ⟨attends, r, job, early, by simp [jobs], Option.some.inj hs⟩)
  | fire attends early entry isDue unclaimed =>
      have hs : some c.generation = some seen := by
        simpa [Task.stage, Task.push, Stage.seen?] using hs
      exact Or.inr (Or.inl (Option.some.inj hs).symm)
  | retire request away early worker jobs accepting frames' ended =>
      exact (hnil frames' ended hs).elim
  | abandon request parked => exact (hnil rfl rfl hs).elim
  | tell request frames control frames' idle =>
      rw [Task.stage_of_resting frames' idle] at hs
      cases hs

/-- A job in the queue was there before, or is for the generation of the cache. -/
theorem Turn.jobs_cases {r' : EarlyRefresh} {job : RefreshJob} (h : Turn layer now t c t' c')
    (hr' : c'.early = some r') (hjob : job ∈ r'.jobs) :
    (∃ r, c.early = some r ∧ job ∈ r.jobs) ∨ job.generation = c.generation := by
  -- a change of the worker that adds nothing to its queue
  have hmap : ∀ {f : EarlyRefresh → EarlyRefresh}, c.early.map f = some r' →
      (∀ r, (f r).jobs = r.jobs ∨ (f r).jobs = []) → ∃ r, c.early = some r ∧ job ∈ r.jobs := by
    intro f hmap hf
    obtain ⟨r, hr, rfl⟩ := Option.map_eq_some_iff.1 hmap
    rcases hf r with h | h <;> rw [h] at hjob
    · exact ⟨r, hr, hjob⟩
    · cases hjob
  cases h with
  | elsewhere | overrun | miss | seize | queue | receive | giveUp | adopt | load | fail | crash
  | succeed => exact Or.inl ⟨r', hr', hjob⟩
  | hit control valid noticed =>
      rcases Cache.noticed?_cases noticed with rfl | ⟨r, hr, -, -, rfl⟩
      · exact Or.inl ⟨r', hr', hjob⟩
      · cases hr'
        rcases r.schedule_cases ⟨c.generation, _⟩ with ⟨-, h⟩ | ⟨-, -, h⟩ | ⟨-, -, h⟩ <;>
          rw [h] at hjob
        · exact Or.inl ⟨r, hr, hjob⟩
        · rcases List.mem_append.1 hjob with hjob | hjob
          · exact Or.inl ⟨r, hr, hjob⟩
          · rw [List.mem_singleton.1 hjob]
            exact Or.inr rfl
        · exact Or.inl ⟨r, hr, hjob⟩
  | install control head entry =>
      have hr' : c.early.map ({ · with refreshed := true }) = some r' := hr'
      exact Or.inl (hmap hr' fun _ => Or.inl rfl)
  | tend attends early worker claimed jobs accepting attends' =>
      cases hr'
      rw [jobs] at hjob
      exact Or.inl ⟨_, early, hjob⟩
  | takeJob attends early jobs =>
      cases hr'
      exact Or.inl ⟨_, early, by rw [jobs]; exact List.mem_cons_of_mem _ hjob⟩
  | fire attends early entry isDue unclaimed =>
      cases hr'
      exact Or.inl ⟨_, early, hjob⟩
  | forgo control frames duty =>
      refine Or.inl (hmap hr' fun r => Or.inl ?_)
      unfold EarlyRefresh.unclaim
      split <;> rfl
  | retire request away early worker jobs =>
      cases hr'
      rw [jobs] at hjob
      cases hjob
  | abandon request parked =>
      have hr' : (if _ then c.early.map EarlyRefresh.retire else c.early) = some r' := hr'
      split at hr'
      · exact Or.inl (hmap hr' fun _ => Or.inr rfl)
      · exact Or.inl ⟨r', hr', hjob⟩
  | tell =>
      have hr' : c.early.map ({ · with stopped := true }) = some r' := hr'
      exact Or.inl (hmap hr' fun _ => Or.inl rfl)

end Turn

namespace Machine

/-- A snapshot of the cache at a layer that somebody has: a task that has not yet made its inner
call, or a job that waits for the worker. -/
def HasSnapshot (layer : Nat) (m : Machine V σ C) (seen : Nat) : Prop :=
  (∃ (i : Nat) (t : Task V C), m.tasks[i]? = some t ∧ (t.stage layer).seen? = some seen) ∨
    ∃ c r job, m.world.cache? layer = some c ∧ c.early = some r ∧ job ∈ r.jobs ∧
      job.generation = seen

/-- The generations that are remembered are not ahead of the cache. -/
structure Remembering (layer : Nat) (m : Machine V σ C) (c : Cache V) : Prop where
  entry : c.entry = none → c.generation = 0
  tasks : ∀ (i : Nat) (t : Task V C) (seen : Nat), m.tasks[i]? = some t →
    (t.stage layer).seen? = some seen → seen ≤ c.generation
  jobs : ∀ (r : EarlyRefresh) (job : RefreshJob), c.early = some r → job ∈ r.jobs →
    job.generation ≤ c.generation

theorem Fresh.remembering {layer : Nat} {m : Machine V σ C} {c : Cache V} (fresh : m.Fresh)
    (hc : m.world.cache? layer = some c) : Remembering layer m c := by
  have hempty := fresh.caches layer c hc
  refine ⟨?_, ?_, ?_⟩
  · intro _
    rw [hempty.eq_empty]
    rfl
  · intro i t seen ht hs
    rw [(fresh.outside ht layer).1] at hs
    cases hs
  · intro r job hr hjob
    rw [(hempty.early r hr).1] at hjob
    cases hjob

theorem Remembering.told {layer : Nat} {m : Machine V σ C} {c : Cache V}
    (h : Remembering layer m c) : Remembering layer m c.told := by
  refine ⟨h.entry, h.tasks, ?_⟩
  intro r job hr hjob
  obtain ⟨r₀, hr₀, rfl⟩ := Option.map_eq_some_iff.1 hr
  exact h.jobs r₀ job hr₀ hjob

variable [Perishable V] {layer : Nat} {m n : Machine V σ C} {c c' : Cache V}

theorem Remembering.move (h : Remembering layer m c) (move : LayerMove layer m c n c') :
    Remembering layer n c' ∧ c.generation ≤ c'.generation := by
  cases move with
  | @turn id t t' c₁ running task turn same tasks running' parked told now =>
      have hle := turn.generation_le
      -- a snapshot is an old one, that of now, or that of a job that was queued
      have hturn : Remembering layer n c₁ := by
        refine ⟨turn.entry_none h.entry, ?_, ?_⟩
        · intro i x seen hx hs
          rw [tasks] at hx
          rcases getElem?_set_cases hx with ⟨rfl, rfl⟩ | ⟨-, hx⟩
          · rcases turn.seen_cases hs with hold | rfl | ⟨-, r, job, hr, hjob, rfl⟩
            · exact Nat.le_trans (h.tasks i t seen task hold) hle
            · exact hle
            · exact Nat.le_trans (h.jobs r job hr hjob) hle
          · exact Nat.le_trans (h.tasks i x seen hx hs) hle
        · intro r job hr hjob
          rcases turn.jobs_cases hr hjob with ⟨r₀, hr₀, hjob₀⟩ | heq
          · exact Nat.le_trans (h.jobs r₀ job hr₀ hjob₀) hle
          · exact Nat.le_trans (Nat.le_of_eq heq) hle
      rcases told with rfl | ⟨-, rfl⟩
      · exact ⟨hturn, hle⟩
      · exact ⟨hturn.told, hle⟩
  | arrive idle foreground tasks cache now =>
      subst cache
      refine ⟨⟨h.entry, ?_, h.jobs⟩, Nat.le_refl _⟩
      intro i x seen hx hs
      rcases (joined_of_arrive tasks).task_or_away hx layer with hx | haway
      · exact h.tasks i x seen hx hs
      · rw [haway] at hs
        cases hs
  | rest active tasks cache now =>
      have hrest : Remembering layer n c := by
        refine ⟨h.entry, ?_, h.jobs⟩
        intro i x seen hx hs
        rw [tasks] at hx
        exact h.tasks i x seen hx hs
      rcases cache with rfl | rfl
      · exact ⟨hrest, Nat.le_refl _⟩
      · exact ⟨hrest.told, Nat.le_refl _⟩

theorem remembering_reaches [Source σ V C] (sound : m.Sound)
    (hc : m.world.cache? layer = some c) (h : Remembering layer m c) (run : Reaches m n) :
    ∃ c', n.world.cache? layer = some c' ∧ Remembering layer n c' ∧
      c.generation ≤ c'.generation := by
  refine run.invariant (P := fun k d => Remembering layer k d ∧ c.generation ≤ d.generation) ?_
    sound hc ⟨h, Nat.le_refl _⟩
  rintro k l d d' - - - next ⟨hk, hle⟩
  obtain ⟨hl, hle'⟩ := hk.move next
  exact ⟨hl, Nat.le_trans hle hle'⟩

end Machine

/-! ## Calls that give up -/

namespace Task

variable {t : Task V C} {layer : Nat}

theorem not_isInside_pass (outcome : Outcome V) (h : t.around layer = .away) :
    ¬ (t.pass outcome).IsInside layer := by
  rintro (⟨force, hcontrol⟩ | hstage)
  · cases hcontrol
  · exact hstage h

/-- A task in a fetch has not ended. -/
theorem IsInside.going (h : t.IsInside layer) (shaped : t.Shaped) : t.hasEnded = false := by
  cases hended : t.hasEnded with
  | false => rfl
  | true =>
      unfold hasEnded ended? at hended
      split at hended
      next answer endedAt control =>
        unfold Shaped at shaped
        rw [control] at shaped
        rcases h with ⟨force, hcontrol⟩ | hstage
        · rw [control] at hcontrol
          cases hcontrol
        · exact absurd (stage_eq_away_of_nil shaped (by simp [control])) hstage
      next => cases hended

theorem Attends.not_isInside {l : Nat} (h : t.Attends l) : ¬ t.IsInside layer := by
  rintro (⟨force, hcontrol⟩ | hstage)
  · obtain ⟨-, -, control⟩ := h
    rw [hcontrol] at control
    exact control
  · exact hstage (h.outside layer).1

end Task

section Turn

variable [Perishable V] {layer : Nat} {now : Instant} {t t' : Task V C} {c c' : Cache V}

/-- What the turn of a task that has not acted as the holder leaves, unless it begins to act so. -/
theorem Turn.untouched (h : Turn layer now t c t' c') (before : (t.stage layer).isOwner = false)
    (after : (t'.stage layer).isOwner = false) (going : t'.hasEnded = false) :
    c'.entry = c.entry ∧ c'.generation = c.generation ∧ c'.lock.holder = c.lock.holder := by
  have hloading : ∀ {startedAt : Instant} {frames : List Frame} {outcome : Outcome V},
      t.control = .deliver outcome → t.frames = .load layer startedAt :: frames → False := by
    intro startedAt frames outcome control head
    rw [Task.stage_of_load control head] at before
    cases before
  cases h with
  | elsewhere | overrun | miss | receive | load | succeed => exact ⟨rfl, rfl, rfl⟩
  | hit control valid noticed =>
      rcases Cache.noticed?_cases noticed with rfl | ⟨r, -, -, -, rfl⟩ <;> exact ⟨rfl, rfl, rfl⟩
  | seize control held => simp [Stage.isOwner] at after
  | queue control held =>
      refine ⟨rfl, rfl, ?_⟩
      show (c.lock.ask t.id).holder = c.lock.holder
      rw [Lock.ask] at held ⊢
      split
      next hnone =>
        rw [hnone] at held
        simp [Lock.isHeldBy] at held
      next => rfl
  | giveUp control held due => exact ⟨rfl, rfl, rfl⟩
  | adopt control newer =>
      rw [Task.stage_of_locked control] at before
      cases before
  | install control head entry => exact (hloading control head).elim
  | fail control head => exact (hloading control head).elim
  | crash control head lost => exact (hloading control head).elim
  | tend | takeJob | fire | forgo => exact ⟨rfl, rfl, rfl⟩
  | retire request away early worker jobs accepting frames' ended =>
      rw [ended] at going
      cases going
  | abandon => cases going
  | tell => exact ⟨rfl, rfl, rfl⟩

/-- A task that acts as the holder does so until it leaves the cache. -/
theorem Turn.owner_stays (shaped : t.Shaped) (h : Turn layer now t c t' c')
    (owner : (t.stage layer).isOwner = true) (inside' : t'.IsInside layer) :
    (t'.stage layer).isOwner = true := by
  have haway : t.stage layer = .away → False := by
    intro haway
    rw [haway] at owner
    cases owner
  -- every step that releases the lock leaves the cache
  cases h with
  | elsewhere acts stage duty =>
      rw [stage]
      exact owner
  | hit control =>
      exact (Task.not_isInside_pass _ (Task.around_of_enter shaped control) inside').elim
  | overrun control =>
      exact (Task.not_isInside_pass _ (Task.around_of_enter shaped control) inside').elim
  | miss control => exact (haway (Task.stage_of_enter shaped control)).elim
  | seize control held | queue control held =>
      rw [Task.stage_of_acquire control] at owner
      cases owner
  | receive control held =>
      rw [Task.stage_goto_locked]
      rfl
  | giveUp control held due =>
      rw [Task.stage_of_queued control] at owner
      cases owner
  | adopt control newer =>
      have hs : t.around layer = .away := Task.around_of_snapshot shaped (by simp [control])
      exact (Task.not_isInside_pass _ hs inside').elim
  | load control same =>
      rw [Task.stage_push_load]
      rfl
  | install control head entry =>
      exact (Task.not_isInside_pass _ (Task.around_tail shaped control head) inside').elim
  | fail control head =>
      exact (Task.not_isInside_pass _ (Task.around_tail shaped control head) inside').elim
  | crash control head lost =>
      exact (Task.not_isInside_pass _ (Task.around_tail shaped control head) inside').elim
  | tend attends | takeJob attends | fire attends => exact (haway (attends.outside layer).1).elim
  | succeed _ _ _ attends' => exact (attends'.not_isInside inside').elim
  | forgo _ _ _ attends' => exact (attends'.not_isInside inside').elim
  | retire request away => exact (haway away).elim
  | abandon =>
      rcases inside' with ⟨force, hcontrol⟩ | hstage
      · cases hcontrol
      · exact absurd (Task.stage_of_hasEnded rfl rfl) hstage
  | tell request frames control =>
      exact (haway (Task.stage_eq_away_of_nil frames (by simp [control]))).elim

/-- A task that goes on as the holder and finds a newer entry takes it over. -/
theorem Turn.takes_over {seen : Nat} {force : Bool} {e : Entry V} (h : Turn layer now t c t' c')
    (control : t.control = .locked layer seen force) (newer : c.replacement? seen = some e) :
    t' = t.pass (if e.isValid now then .value e.value else .failed .refreshFailed) := by
  cases h with
  | elsewhere acts => exact absurd (by simp [Task.ActsOn, control]) acts
  | adopt control' newer' =>
      rw [control] at control'
      cases control'
      rw [newer] at newer'
      cases newer'
      rfl
  | load control' unchanged =>
      rw [control] at control'
      cases control'
      rw [newer] at unchanged
      cases unchanged
  | hit control' | overrun control' | miss control' | seize control' | queue control'
  | receive control' | giveUp control' | install control' | fail control'
  | crash control' | succeed control' | forgo control' =>
      rw [control] at control'
      cases control'
  | tend attends | takeJob attends | fire attends =>
      obtain ⟨-, -, h⟩ := attends
      rw [control] at h
      exact h.elim
  | retire request away =>
      rw [Task.stage, control] at away
      simp at away
  | abandon request parked => simp [control, Control.isParked, Control.isWaiting] at parked
  | tell request frames control' =>
      rw [control] at control'
      cases control'

/-- A fetch fails for waiting too long when it gives up waiting, or when its inner call failed
so. -/
theorem Turn.returns_timeout {span : Span} (h : Turn layer now t c t' c')
    (inside : t.IsInside layer) (control' : t'.control = .deliver (.failed (.refreshTimeout span)))
    (away : t'.stage layer = .away) :
    t.innerOutcome? layer = some (.failed (.refreshTimeout span)) ∨
      (t.stage layer).isOwner = false := by
  generalize houtcome : Outcome.failed (.refreshTimeout span) = outcome at control'
  -- the outcome of an entry is no such failure
  have hentry : ∀ {e : Entry V}, Outcome.failed (.refreshTimeout span) = e.outcome now → False := by
    intro e he
    unfold Entry.outcome at he
    split at he <;> cases he
  cases h.return inside control' away with
  | giveUp control =>
      right
      rw [Task.stage_of_queued control]
      rfl
  | fail ended =>
      cases houtcome
      exact Or.inl ended
  | adopt => exact (hentry houtcome).elim
  | install => exact (hentry houtcome).elim
  | hit | crash => cases houtcome

end Turn

namespace Machine

section Calls

variable [Source σ V C] [Perishable V] {layer : Nat} {m₀ m n : Machine V σ C} {id : TaskId}
  {moves : List (Machine V σ C × Machine V σ C)}

/-- A task is in a fetch at the cache at a layer and has not acted as the holder of its lock. -/
def IsBeforeLock (layer : Nat) (m : Machine V σ C) (id : TaskId) : Prop :=
  ∃ t, m.tasks[id]? = some t ∧ t.IsInside layer ∧ (t.stage layer).isOwner = false

/-- What a step of a task leaves that has not acted as the holder and does not begin to. -/
theorem untouched_of_beforeLock {t' : Task V C} (sound : m.Sound) (move : Move m n)
    (running : m.running = some id) (before : IsBeforeLock layer m id)
    (task' : n.tasks[id]? = some t') (after : (t'.stage layer).isOwner = false)
    (going : t'.hasEnded = false) :
    (∀ j, j ≠ id → n.tasks[j]? = m.tasks[j]?) ∧
      ∀ c c', m.world.cache? layer = some c → n.world.cache? layer = some c' →
        c'.entry = c.entry ∧ c'.generation = c.generation ∧ c'.lock.holder = c.lock.holder := by
  obtain ⟨t, task, inside, hbefore⟩ := before
  constructor
  · intro j hj
    obtain ⟨favoured, rfl⟩ := move.of_running running
    rw [(advanced favoured task).tasks, List.getElem?_set_ne (Ne.symm hj)]
  · intro c c' hc hc'
    obtain ⟨c'', hc'', next⟩ := layerMove sound move hc
    rw [hc'] at hc''
    cases hc''
    obtain ⟨s, c₁, turn, -, hs, told, -⟩ := next.of_running running task
    rw [task'] at hs
    cases hs
    rcases told with rfl | ⟨ended, -⟩
    · exact turn.untouched hbefore after going
    · rw [ended] at going
      cases going

/-- A task that is before the lock at the end of a stretch of a call has been so all along. -/
theorem beforeLock_of_run (sound : m₀.Sound) (hc : ∃ c, m₀.world.cache? layer = some c)
    (run : Run m₀ moves m)
    (inside : ∀ k l, (k, l) ∈ moves → ∃ t, k.tasks[id]? = some t ∧ t.IsInside layer)
    (last : IsBeforeLock layer m id) :
    ∀ k l, (k, l) ∈ moves → k.Sound ∧ Move k l ∧ IsBeforeLock layer k id ∧
      IsBeforeLock layer l id := by
  -- by induction on the run, backwards: who is not the holder now has not been so in this fetch
  induction run with
  | start =>
      intro k l h
      cases h
  | @move moves m n run step ih =>
      have soundm : m.Sound := sound_reaches sound run.reaches
      obtain ⟨t, task, hinside⟩ := inside m n (List.mem_append_right _ List.mem_cons_self)
      have hm : IsBeforeLock layer m id := by
        refine ⟨t, task, hinside, ?_⟩
        cases howner : (t.stage layer).isOwner with
        | false => rfl
        | true =>
            -- the holder would still act as such
            obtain ⟨c₀, hc₀⟩ := hc
            obtain ⟨c, hcm, -⟩ := reaches_cache sound run.reaches hc₀
            obtain ⟨t', task', hinside', hafter⟩ := last
            have hstay : (t'.stage layer).isOwner = true := by
              obtain ⟨c', -, next⟩ := layerMove soundm step hcm
              rcases next.task_cases task task' with rfl | ⟨-, c₁, turn⟩
              · exact howner
              · exact turn.owner_stays (soundm.shaped _ t task) howner hinside'
            rw [hstay] at hafter
            cases hafter
      intro k l h
      rcases List.mem_append.1 h with h | h
      · exact ih (fun k l h => inside k l (List.mem_append_left _ h)) hm k l h
      · cases List.mem_singleton.1 h
        exact ⟨soundm, step, hm, last⟩

/-! ## The theorem -/

/-- A task that goes on as the holder after an entry was installed since its snapshot takes that
entry over. -/
theorem takes_over {m₁ : Machine V σ C} {c₁ c : Cache V} {seen : Nat} {force : Bool}
    {t : Task V C} (sound : m.Sound) (h₁ : Remembering layer m₁ c₁) (h : Remembering layer m c)
    (hc₁ : m₁.world.cache? layer = some c₁) (hc : m.world.cache? layer = some c)
    (snapshot : HasSnapshot layer m₁ seen) (hlt : c₁.generation < c.generation)
    (running : m.running = some id) (task : m.tasks[id]? = some t)
    (control : t.control = .locked layer seen force) (move : Move m n) :
    ∃ e, c.entry = some e ∧
      Returns layer m n id (if e.isValid m.world.now then .value e.value
        else .failed .refreshFailed) ∧
      n.tasks = m.tasks.set id (t.pass (if e.isValid m.world.now then .value e.value
        else .failed .refreshFailed)) := by
  -- the snapshot is no newer than the cache was when somebody had it
  have hseen : seen ≤ c₁.generation := by
    rcases snapshot with ⟨i, u, hu, hs⟩ | ⟨c', r, job, hc', hr, hjob, rfl⟩
    · exact h₁.tasks i u seen hu hs
    · rw [hc₁] at hc'
      cases hc'
      exact h₁.jobs r job hr hjob
  obtain ⟨e, hentry⟩ : ∃ e, c.entry = some e := by
    cases he : c.entry with
    | some e => exact ⟨e, rfl⟩
    | none =>
        have := h.entry he
        omega
  have hnewer : c.replacement? seen = some e := by
    rw [Cache.replacement?, if_neg (by omega), hentry]
  obtain ⟨c', -, next⟩ := layerMove sound move hc
  obtain ⟨t', c'', turn, tasks, task', -⟩ := next.of_running running task
  have ht' := turn.takes_over control hnewer
  subst ht'
  have haway : t.around layer = .away :=
    Task.around_of_snapshot (sound.shaped id t task) (by simp [control])
  refine ⟨e, hentry, ⟨t, _, running, task, Or.inr ?_, task', rfl, haway⟩, tasks⟩
  simp [Task.stage, control]

/-- A fetch that fails for waiting too long has made no inner call and left the entry, the holder
and the other tasks, unless it passes on such a failure of its inner call. -/
theorem untouched_of_timeout {span : Span} {c : Cache V} (sound : m₀.Sound)
    (hc : m₀.world.cache? layer = some c) (run : Run m₀ moves m)
    (inside : ∀ k l, (k, l) ∈ moves → ∃ t, k.tasks[id]? = some t ∧ t.IsInside layer)
    (move : Move m n) (returns : Returns layer m n id (.failed (.refreshTimeout span))) :
    (∃ t, m.tasks[id]? = some t ∧
      t.innerOutcome? layer = some (.failed (.refreshTimeout span))) ∨
    ∀ k l, (k, l) ∈ moves ++ [(m, n)] →
      (∀ t, k.tasks[id]? = some t → t.stage layer ≠ .loading) ∧
      (k.running = some id → (∀ j, j ≠ id → l.tasks[j]? = k.tasks[j]?) ∧
        ∀ c c', k.world.cache? layer = some c → l.world.cache? layer = some c' →
          c'.entry = c.entry ∧ c'.generation = c.generation ∧
            c'.lock.holder = c.lock.holder) := by
  obtain ⟨t, t', running, task, hinside, task', control', away⟩ := returns
  have soundm : m.Sound := sound_reaches sound run.reaches
  obtain ⟨cm, hcm, -⟩ := reaches_cache sound run.reaches hc
  obtain ⟨c', -, next⟩ := layerMove soundm move hcm
  obtain ⟨s, c₁, turn, -, hs, -⟩ := next.of_running running task
  rw [task'] at hs
  cases hs
  rcases turn.returns_timeout hinside control' away with hinner | hbefore
  · exact Or.inl ⟨t, task, hinner⟩
  · -- all along the fetch the task has not acted as the holder
    right
    have last : IsBeforeLock layer m id := ⟨t, task, hinside, hbefore⟩
    have hall := beforeLock_of_run sound ⟨c, hc⟩ run inside last
    have hnot : ∀ k : Machine V σ C, IsBeforeLock layer k id → ∀ u, k.tasks[id]? = some u →
        u.stage layer ≠ .loading := by
      rintro k ⟨u', hu', -, howner⟩ u hu hloading
      rw [hu] at hu'
      cases hu'
      rw [hloading] at howner
      cases howner
    intro k l h
    rcases List.mem_append.1 h with h | h
    · obtain ⟨soundk, step, hk, ⟨u, hu, hinside', hafter⟩⟩ := hall k l h
      have going := hinside'.going ((sound_move soundk step).shaped id u hu)
      exact ⟨hnot k hk, fun hrunning =>
        untouched_of_beforeLock soundk step hrunning hk hu hafter going⟩
    · cases List.mem_singleton.1 h
      refine ⟨hnot m last, fun hrunning =>
        untouched_of_beforeLock soundm move hrunning last task' ?_ ?_⟩
      · rw [away]
        rfl
      · simp [Task.hasEnded, Task.ended?, control']

/-- In every run of a built stack, for each of its caches: at most one inner call is in flight; a
task that goes on as the holder of the lock after an entry was installed since its snapshot takes
that entry over; a fetch that fails for waiting too long, unless it passes on such a failure of its
inner call, has made no inner call and left the entry, the holder and the other tasks; and the
lock is held only by a task that is in a refresh, so it is free when there is none. -/
theorem single_flight {name : String} {source : σ} {others : List σ} {plans : List LayerPlan}
    {bound : List Bool} {c₀ : Cache V} (built : build name source others plans = .ok (bound, m₀))
    (cache : m₀.world.cache? layer = some c₀) :
    (∀ m, Reaches m₀ m → m.inFlight layer ≤ 1) ∧
    (∀ m₁ m₂ n c₁ c₂ seen force id t, Reaches m₀ m₁ → m₁.world.cache? layer = some c₁ →
      HasSnapshot layer m₁ seen → Reaches m₁ m₂ → m₂.world.cache? layer = some c₂ →
      c₁.generation < c₂.generation → m₂.running = some id → m₂.tasks[id]? = some t →
      t.control = .locked layer seen force → Move m₂ n →
      ∃ e, c₂.entry = some e ∧
        Returns layer m₂ n id (if e.isValid m₂.world.now then .value e.value
          else .failed .refreshFailed) ∧
        n.tasks = m₂.tasks.set id (t.pass (if e.isValid m₂.world.now then .value e.value
          else .failed .refreshFailed))) ∧
    (∀ m₁ moves m₂ n id span, Reaches m₀ m₁ → Run m₁ moves m₂ →
      (∀ k l, (k, l) ∈ moves → ∃ t, k.tasks[id]? = some t ∧ t.IsInside layer) →
      Move m₂ n → Returns layer m₂ n id (.failed (.refreshTimeout span)) →
      (∃ t, m₂.tasks[id]? = some t ∧
        t.innerOutcome? layer = some (.failed (.refreshTimeout span))) ∨
      ∀ k l, (k, l) ∈ moves ++ [(m₂, n)] →
        (∀ t, k.tasks[id]? = some t → t.stage layer ≠ .loading) ∧
        (k.running = some id → (∀ j, j ≠ id → l.tasks[j]? = k.tasks[j]?) ∧
          ∀ c c', k.world.cache? layer = some c → l.world.cache? layer = some c' →
            c'.entry = c.entry ∧ c'.generation = c.generation ∧
              c'.lock.holder = c.lock.holder)) ∧
    (∀ m c, Reaches m₀ m → m.world.cache? layer = some c →
      (∀ i, c.lock.holder = some i →
        ∃ t : Task V C, m.tasks[i]? = some t ∧ (t.stage layer).isEngaged = true) ∧
      ((∀ (i : Nat) (t : Task V C), m.tasks[i]? = some t → (t.stage layer).isEngaged = false) →
        c.lock = Lock.free)) := by
  have fresh := fresh_of_build built
  have hqueued : ∀ m c, Reaches m₀ m → m.world.cache? layer = some c →
      Queued layer m c.lock := by
    intro m c run hc
    obtain ⟨c', hc', queued⟩ := queued_reaches fresh.sound cache (fresh.queued cache) run
    rw [hc] at hc'
    cases hc'
    exact queued
  have hremembering : ∀ m c, Reaches m₀ m → m.world.cache? layer = some c →
      Remembering layer m c := by
    intro m c run hc
    obtain ⟨c', hc', h, -⟩ :=
      remembering_reaches fresh.sound cache (fresh.remembering cache) run
    rw [hc] at hc'
    cases hc'
    exact h
  refine ⟨?_, ?_, ?_, ?_⟩
  · intro m run
    obtain ⟨c, hc, -⟩ := reaches_cache fresh.sound run cache
    exact (hqueued m c run hc).inFlight_le_one (sound_reaches fresh.sound run)
  · intro m₁ m₂ n c₁ c₂ seen force id t run₁ hc₁ snapshot run₂ hc₂ hlt running task control move
    have run := run₁.trans run₂
    exact takes_over (sound_reaches fresh.sound run) (hremembering m₁ c₁ run₁ hc₁)
      (hremembering m₂ c₂ run hc₂) hc₁ hc₂ snapshot hlt running task control move
  · intro m₁ moves m₂ n id span run₁ run inside move returns
    obtain ⟨c₁, hc₁, -⟩ := reaches_cache fresh.sound run₁ cache
    exact untouched_of_timeout (sound_reaches fresh.sound run₁) hc₁ run inside move returns
  · intro m c run hc
    have queued := hqueued m c run hc
    constructor
    · intro i hi
      apply (queued.engaged i).1
      simp [Lock.parties, hi]
    · intro hnone
      rw [← Lock.parties_eq_nil_iff queued.proper, List.eq_nil_iff_forall_not_mem]
      intro i hi
      obtain ⟨t, ht, h⟩ := (queued.engaged i).1 hi
      rw [hnone i t ht] at h
      cases h

end Calls

/-- A source whose first value comes after half a second and whose later ones after two. -/
def laggingSource : Script (Dated Nat) :=
  ⟨[⟨500, .value fun _ => ⟨1, none⟩⟩, ⟨2000, .value fun _ => ⟨2, none⟩⟩], 0, false, false, 0⟩

/-- A cache whose callers wait for one second. -/
def impatientPlans : List LayerPlan :=
  [.cache ⟨⟨Span.ofSeconds 60, Span.ofSeconds 5⟩, Span.ofSeconds 1⟩ false none]

/-- The stack of the cache and the source. -/
def laggingStack : Machine (Dated Nat) (Script (Dated Nat)) (ScriptReply (Dated Nat)) :=
  match build "chain" laggingSource [] impatientPlans with
  | .ok (_, m) => m
  | .error _ => bare "chain" laggingSource []

/-- The stack when one fetch waits for the source and a second one for the lock. -/
def laggingQueue : Machine (Dated Nat) (Script (Dated Nat)) (ScriptReply (Dated Nat)) :=
  (requested (.fetch false) 4 (requested (.fetch false) 7 laggingStack).2).2

/-- The stack when both have returned, a forced fetch waits for the source, and another one is
about to enter the cache. -/
def laggingEntry : Machine (Dated Nat) (Script (Dated Nat)) (ScriptReply (Dated Nat)) :=
  (requested (.fetch true) 2 (requested (.fetch true) 7 (scheduled 9 laggingQueue).2).2).2

/-- The stack when the second fetch goes on as the holder of the lock. -/
def laggingHandover : Machine (Dated Nat) (Script (Dated Nat)) (ScriptReply (Dated Nat)) :=
  (scheduled 7 laggingQueue).2

/-- The stack when the last fetch has waited for too long. -/
def laggingDeadline : Machine (Dated Nat) (Script (Dated Nat)) (ScriptReply (Dated Nat)) :=
  (scheduled 4 laggingEntry).2

theorem reaches_laggingQueue : Reaches laggingStack laggingQueue :=
  (run_requested 7 rfl rfl).reaches.trans (run_requested 4 rfl rfl).reaches

theorem reaches_laggingEntry : Reaches laggingQueue laggingEntry :=
  ((run_scheduled 9 laggingQueue).reaches.trans (run_requested 7 rfl rfl).reaches).trans
    (run_requested 2 rfl rfl).reaches

theorem inside_laggingEntry
    {k l : Machine (Dated Nat) (Script (Dated Nat)) (ScriptReply (Dated Nat))}
    (h : (k, l) ∈ (scheduled 4 laggingEntry).1) : ∃ t, k.tasks[3]? = some t ∧ t.IsInside 0 := by
  obtain ⟨i, hi, rfl⟩ := mem_scheduled h
  rcases i with _ | _ | _ | _ | i
  · exact ⟨_, rfl, Or.inl ⟨true, rfl⟩⟩
  · exact ⟨_, rfl, Or.inr (by decide)⟩
  · exact ⟨_, rfl, Or.inr (by decide)⟩
  · exact ⟨_, rfl, Or.inr (by decide)⟩
  · omega

/-- The second fetch takes over the value of the first one, and the last one gives up waiting and
leaves the lock with the third. -/
theorem single_flight_lagging :
    laggingHandover.inFlight 0 ≤ 1 ∧
      Returns 0 laggingHandover (laggingHandover.advance .job 1) 1 (.value ⟨1, none⟩) ∧
      Returns 0 laggingDeadline (laggingDeadline.advance .job 3) 3
        (.failed (.refreshTimeout (Span.ofSeconds 1))) ∧
      ∃ c, (laggingDeadline.advance .job 3).world.cache? 0 = some c ∧ c.lock.holder = some 2 := by
  have built : build "chain" laggingSource [] impatientPlans = .ok ([], laggingStack) := rfl
  have cache : laggingStack.world.cache? 0 = some (Cache.empty
      ⟨⟨Span.ofSeconds 60, Span.ofSeconds 5⟩, Span.ofSeconds 1⟩ 0 none) := rfl
  obtain ⟨one, adopts, timeout, -⟩ := single_flight built cache
  -- the second fetch goes on as the holder with a snapshot from before the first entry
  have run₁ : Reaches laggingQueue laggingHandover := (run_scheduled 7 laggingQueue).reaches
  have move₁ : Move laggingHandover (laggingHandover.advance .job 1) := .advance .job rfl
  have snapshot : HasSnapshot 0 laggingQueue 0 := Or.inl ⟨1, _, rfl, rfl⟩
  have hc₁ : (laggingQueue.world.cache? 0).map Cache.generation = some 0 := rfl
  have hc₂ : (laggingHandover.world.cache? 0).map Cache.generation = some 1 := rfl
  obtain ⟨c₁, hc₁, hg₁⟩ := Option.map_eq_some_iff.1 hc₁
  obtain ⟨c₂, hc₂, hg₂⟩ := Option.map_eq_some_iff.1 hc₂
  have locked : (laggingHandover.tasks[1]?).map Task.control = some (.locked 0 0 false) := rfl
  obtain ⟨t, task, control⟩ := Option.map_eq_some_iff.1 locked
  obtain ⟨e, hentry, returned, -⟩ := adopts laggingQueue laggingHandover _ c₁ c₂ 0 false 1 t
    reaches_laggingQueue hc₁ snapshot run₁ hc₂ (by omega) rfl task control move₁
  -- the last fetch has waited for a second while the third is in its inner call
  have reached := reaches_laggingQueue.trans reaches_laggingEntry
  have run₂ : Run laggingEntry (scheduled 4 laggingEntry).1 laggingDeadline :=
    run_scheduled 4 laggingEntry
  have move₂ : Move laggingDeadline (laggingDeadline.advance .job 3) := .advance .job rfl
  have gaveUp : Returns 0 laggingDeadline (laggingDeadline.advance .job 3) 3
      (.failed (.refreshTimeout (Span.ofSeconds 1))) :=
    ⟨_, _, rfl, rfl, Or.inr (by decide), rfl, rfl, rfl⟩
  have untouched := timeout laggingEntry _ laggingDeadline _ 3 _ reached run₂
    (fun k l => inside_laggingEntry) move₂ gaveUp
  refine ⟨one _ (reaches_laggingQueue.trans run₁), ?_, gaveUp, ?_⟩
  · obtain ⟨s, s', running, task, inside, task', -, away⟩ := returned
    have outcome : ((laggingHandover.advance .job 1).tasks[1]?).map Task.control =
        some (.deliver (.value ⟨1, none⟩)) := rfl
    rw [task', Option.map_some] at outcome
    exact ⟨s, s', running, task, inside, task', Option.some.inj outcome, away⟩
  · have hd : (laggingDeadline.world.cache? 0).map (·.lock.holder) = some (some 2) := rfl
    have hd' : ((laggingDeadline.advance .job 3).world.cache? 0).map Cache.generation = some 1 :=
      rfl
    obtain ⟨c, hc, holder⟩ := Option.map_eq_some_iff.1 hd
    obtain ⟨c', hc', -⟩ := Option.map_eq_some_iff.1 hd'
    refine ⟨c', hc', ?_⟩
    rcases untouched with ⟨u, hu, hinner⟩ | untouched
    · have hnone : (laggingDeadline.tasks[3]?).bind (·.innerOutcome? 0) = none := rfl
      rw [hu, Option.bind_some, hinner] at hnone
      cases hnone
    · obtain ⟨-, hstep⟩ := untouched _ _ (List.mem_append_right _ List.mem_cons_self)
      obtain ⟨-, -, hholder⟩ := (hstep rfl).2 c c' hc hc'
      rw [hholder, holder]

/-- A source whose calls fail as a cache does whose callers have waited for too long. -/
def impatientSource : Script (Dated Nat) :=
  ⟨[⟨0, .failure (.refreshTimeout (Span.ofSeconds 1))⟩], 0, false, false, 0⟩

/-- A cache over that source. -/
def impatientStack : Machine (Dated Nat) (Script (Dated Nat)) (ScriptReply (Dated Nat)) :=
  match build "chain" impatientSource [] impatientPlans with
  | .ok (_, m) => m
  | .error _ => bare "chain" impatientSource []

/-- A fetch that ends so although it made an inner call: it passes on the failure of that call. -/
theorem timeout_after_inner_call :
    ∃ m, Reaches impatientStack m ∧ Move m (m.advance .job 0) ∧
      Returns 0 m (m.advance .job 0) 0 (.failed (.refreshTimeout (Span.ofSeconds 1))) ∧
      (m.tasks[0]?).map (·.stage 0) = some .loading ∧ m.inFlight 0 = 1 ∧
      m.world.calls.length = 1 := by
  refine ⟨(requested (.fetch false) 7 impatientStack).2, (run_requested 7 rfl rfl).reaches,
    .advance .job rfl, ⟨_, _, rfl, rfl, Or.inr ?_, rfl, rfl, rfl⟩, rfl, rfl, rfl⟩
  decide

end Machine

end CredentialSupply
