import CredentialSupply.Proofs.Attempts
import CredentialSupply.Proofs.Built

set_option autoImplicit false

/-!
# Stacks that are left in peace

A stack is at peace while nobody forces a fetch, closes the stack or gives it up. Every worker of a
stack that was built is there and ready to start (`manned_of_build`). As long as there is peace, no
worker is told to end (`undismissed_run`), and nothing that goes on in the stack is forced
(`unforced_run`).
-/

namespace CredentialSupply

variable {V σ C : Type}

namespace Machine

/-! ## Workers of a stack that was built -/

/-- The worker of each cache is there, has not run, and is ready. -/
def Manned (m : Machine V σ C) : Prop :=
  ∀ (layer : Nat) (c : Cache V) (r : EarlyRefresh), m.world.cache? layer = some c →
    c.early = some r →
      m.tasks[r.worker]? = some (Task.fresh r.worker (.work layer)) ∧ r.worker ∈ m.world.ready

section Build

variable {m n : Machine V σ C}

theorem manned_addLayer (manned : m.Manned) {l : Layer V}
    (hl : ∀ c r, l.cache? = some c → c.early = some r →
      m.tasks[r.worker]? = some (Task.fresh r.worker (.work m.world.layers.length)) ∧
        r.worker ∈ m.world.ready) : (m.addLayer l).Manned := by
  intro layer c r hc hr
  rcases cache?_addLayer hc with hold | ⟨rfl, hnew⟩
  · exact manned layer c r hold hr
  · exact hl c r hnew hr

theorem manned_addMeter (manned : m.Manned) (ownMeter : Bool) : (m.addMeter ownMeter).2.Manned := by
  rw [addMeter]
  split
  · exact manned
  · exact manned

theorem manned_spawn (manned : m.Manned) (request : Request) : (m.spawn request).2.Manned := by
  intro layer c r hc hr
  obtain ⟨task, ready⟩ := manned layer c r ((World.cache?_wake _ _ _).symm.trans hc) hr
  have hleads : World.Leads 0 m.world (m.world.wake m.tasks.length) := World.leads_wake _
  exact ⟨getElem?_append_some _ task, hleads.ready r.worker ready⟩

theorem Adds.manned {plan : LayerPlan} (h : m.Adds plan n) (manned : m.Manned) : n.Manned := by
  cases h with
  | retry | outage | rateLimit | health =>
      refine manned_addLayer manned ?_
      rintro c r ⟨⟩
  | @cache settings ownMeter meter k valid metered =>
      have hk := manned_addMeter manned ownMeter
      rw [metered] at hk
      refine manned_addLayer hk ?_
      rintro c r ⟨rfl⟩ hr
      cases hr
  | @watched settings ownMeter plan meter k valid window metered =>
      have hk := manned_addMeter manned ownMeter
      rw [metered] at hk
      refine manned_addLayer (manned_spawn hk _) ?_
      rintro c r ⟨rfl⟩ ⟨rfl⟩
      rw [layers_spawn]
      -- the new worker is the last task, and has just been woken
      exact ⟨List.getElem?_concat_length, World.mem_ready_wake _ _⟩

theorem manned_bindTarget (manned : m.Manned) (layer : Nat) (target : HealthTarget) :
    (m.bindTarget layer target).2.Manned := by
  rcases m.bindTarget_cases layer target with heq | ⟨h, hl, heq⟩ <;> rw [heq]
  · exact manned
  · intro i c r hc hr
    exact manned i c r ((World.cache?_setLayer_of_none m.world i hl rfl rfl).symm.trans hc) hr

/-- The workers of a stack that has been built are ready to start. -/
theorem manned_of_build {name : String} {source : σ} {others : List σ} {plans : List LayerPlan}
    {bound : List Bool} (built : build name source others plans = .ok (bound, m)) : m.Manned := by
  refine build_invariant ?_ (fun _ manned adds => adds.manned manned)
    (fun layer target manned => manned_bindTarget manned layer target) built
  intro layer c r hc
  have hc : (([] : List (Layer V))[layer]?).bind Layer.cache? = some c := hc
  simp at hc

end Build

/-! ## Peace -/

/-- Nobody forces a fetch, closes the stack or has given it up. -/
structure Peaceful (m : Machine V σ C) : Prop where
  held : m.dropped = false
  gentle : ∀ t ∈ m.tasks, t.request ≠ .fetch true ∧ t.request ≠ .close

/-- No worker has been told to end. -/
def Undismissed (m : Machine V σ C) : Prop :=
  ∀ (i : Nat) (t : Task V C), m.tasks[i]? = some t → t.isStopped m.world = false

theorem reclaim_of_held {m : Machine V σ C} (held : m.dropped = false) : m.reclaim = m := by
  rw [reclaim, held]
  rfl

theorem Fresh.undismissed {m : Machine V σ C} (fresh : m.Fresh) : m.Undismissed := by
  intro i t task
  obtain ⟨layer, c, r, rfl, hc, hr, -⟩ := fresh.tasks i t task
  have hstopped : r.stopped = false := by
    rw [((fresh.caches layer c hc).early r hr).1]
    rfl
  simp [Task.isStopped, Task.fresh, World.early?_eq m.world hc, hr, hstopped]

theorem dropped_reclaim (m : Machine V σ C) : m.reclaim.dropped = m.dropped := by
  rw [reclaim]
  split <;> rfl

theorem dropped_drop (m : Machine V σ C) : m.drop.dropped = true :=
  dropped_reclaim { m with dropped := true }

section Moves

variable [Source σ V C] [Perishable V] {m n m₀ : Machine V σ C}
  {moves : List (Machine V σ C × Machine V σ C)}

theorem dropped_advance (m : Machine V σ C) (favoured : Signal) (id : TaskId) :
    (m.advance favoured id).dropped = m.dropped := by
  rw [advance]
  split
  · rfl
  · simp only
    split
    · exact dropped_reclaim _
    · rfl

/-- What the machine adds to a step does not reach the caches, unless the stack was given up. -/
theorem cache?_advance {id : TaskId} {t : Task V C} (favoured : Signal)
    (held : m.dropped = false) (task : m.tasks[id]? = some t) (layer : Nat) :
    (m.advance favoured id).world.cache? layer = (t.step m.world favoured).1.cache? layer := by
  rw [advance, task]
  simp only
  split
  · rw [reclaim_of_held]
    · exact cache?_foldl_wake layer _ _
    · exact held
  · rfl

/-- A stack that is held after a move was held before. -/
theorem Move.held (move : Move m n) (held : n.dropped = false) : m.dropped = false := by
  cases move with
  | advance favoured running =>
      rw [dropped_advance] at held
      exact held
  | resume | arrive | pass => exact held
  | drop =>
      rw [dropped_drop] at held
      cases held

/-- There is peace after a move only if there was peace before. -/
theorem Peaceful.before (move : Move m n) (peaceful : n.Peaceful) : m.Peaceful := by
  constructor
  · exact move.held peaceful.held
  · intro t ht
    obtain ⟨i, task⟩ := List.mem_iff_getElem?.1 ht
    obtain ⟨t', task', same⟩ := move.stays task
    have hgentle := peaceful.gentle t' (List.mem_of_getElem? task')
    rwa [same.2] at hgentle

/-- In peace, a move tells no worker to end. -/
theorem Undismissed.move (h : m.Undismissed) (sound : m.Sound) (move : Move m n)
    (peaceful : n.Peaceful) : n.Undismissed := by
  have before := peaceful.before move
  intro i x hx
  rw [Task.isStopped]
  split
  next layer hwork =>
    rcases move.task hx with ⟨t, task, same, -⟩ | ⟨request, rfl, foreground⟩
    · have hwork' : t.request = .work layer := same.2.symm.trans hwork
      obtain ⟨c, r, hc, hr, -⟩ := sound.posted i t layer task hwork'
      have hgoing := h i t task
      simp only [Task.isStopped, hwork', World.early?_eq m.world hc, hr, Option.any_some] at hgoing
      -- a cache whose worker is as it was before
      have hsame : ∀ c', n.world.cache? layer = some c' →
          c'.early.map EarlyRefresh.stopped = c.early.map EarlyRefresh.stopped →
            (n.world.early? layer).any (·.stopped) = false := by
        intro c' hc' hstopped
        rw [hr, Option.map_some, Option.map_eq_some_iff] at hstopped
        obtain ⟨r', hr', heq⟩ := hstopped
        rw [World.early?_eq n.world hc', hr', Option.any_some, heq, hgoing]
      cases move with
      | @advance id favoured running =>
          cases hid : m.tasks[id]? with
          | none => exact hsame c (by simpa [Machine.advance, hid] using hc) rfl
          | some u =>
              obtain ⟨c₁, hc₁, turn⟩ := sound.turns hid hc favoured
              exact hsame c₁ ((cache?_advance favoured before.held hid layer).trans hc₁)
                (turn.stopped (before.gentle u (List.mem_of_getElem? hid)).2)
      | resume => exact hsame c hc rfl
      | arrive => exact hsame c ((World.cache?_wake _ _ _).trans hc) rfl
      | pass instant => exact hsame c ((cache?_passTo m instant layer).trans hc) rfl
      | drop =>
          have hheld := peaceful.held
          rw [dropped_drop] at hheld
          cases hheld
    · have hwork : request = .work layer := hwork
      rw [hwork] at foreground
      cases foreground
  next => rfl

theorem undismissed_run (fresh : m₀.Fresh) (run : Run m₀ moves m) (peaceful : m.Peaceful) :
    m.Undismissed := by
  -- by induction on the run: only a close or a drop tells a worker to end
  induction run with
  | start => exact fresh.undismissed
  | move run step ih =>
      exact (ih (peaceful.before step)).move (sound_reaches fresh.sound run.reaches) step peaceful

/-- In peace, nothing is forced. -/
theorem unforced_run (fresh : m₀.Fresh) (run : Run m₀ moves m) (peaceful : m.Peaceful) :
    ∀ (i : Nat) (t : Task V C), m.tasks[i]? = some t → t.Carries false := by
  induction run with
  | start =>
      intro i t task
      obtain ⟨layer, c, r, rfl, -⟩ := fresh.tasks i t task
      exact Task.carries_fresh false i _
  | @move moves k n run step ih =>
      have before := peaceful.before step
      have hk := ih before
      intro i x hx
      cases stackMove (sound_reaches fresh.sound run.reaches) step with
      | @turn id t t' running task stride same tasks =>
          rw [tasks] at hx
          rcases getElem?_set_cases hx with ⟨rfl, rfl⟩ | ⟨-, hx⟩
          · have gentle := (before.gentle t (List.mem_of_getElem? task)).1
            exact stride.carries (Request.isForced_of_ne gentle) (hk i t task)
          · exact hk i x hx
      | arrive idle foreground tasks content =>
          rw [tasks] at hx
          rcases getElem?_snoc hx with hx | ⟨-, rfl⟩
          · exact hk i x hx
          · exact Task.carries_fresh false _ _
      | rest active tasks content now =>
          rw [tasks] at hx
          exact hk i x hx

end Moves

end Machine

end CredentialSupply
