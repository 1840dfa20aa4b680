import CredentialSupply.Proofs.Scheduling
import CredentialSupply.Proofs.Shared

set_option autoImplicit false

/-!
# Who is woken

A step of a task takes no time, leaves those who are woken so, and wakes whoever it gives a
lock, unless that is the task itself. `World.Leads` says so of two worlds; it is transitive,
each operation on a world has it, and so every step has it (`leads_step`).
-/

namespace CredentialSupply

variable {V σ C : Type}

namespace World

/-- Between the two worlds no time passes, and whoever got a lock is the given task or has been
woken. -/
structure Leads (id : TaskId) (w w' : World V σ) : Prop where
  now : w'.now = w.now
  ready : ∀ i ∈ w.ready, i ∈ w'.ready
  handed : ∀ layer c' i, w'.cache? layer = some c' → c'.lock.holder = some i →
    i = id ∨ i ∈ w'.ready ∨ ∃ c, w.cache? layer = some c ∧ c.lock.holder = some i

variable {id : TaskId} {w w' w'' : World V σ}

theorem Leads.refl (w : World V σ) : Leads id w w :=
  ⟨rfl, fun _ h => h, fun _ c' _ hc hi => Or.inr (Or.inr ⟨c', hc, hi⟩)⟩

theorem Leads.trans (h : Leads id w w') (h' : Leads id w' w'') : Leads id w w'' := by
  refine ⟨h'.now.trans h.now, fun i hi => h'.ready i (h.ready i hi), ?_⟩
  intro layer c'' i hc hi
  rcases h'.handed layer c'' i hc hi with rfl | hready | ⟨c', hc', hi'⟩
  · exact Or.inl rfl
  · exact Or.inr (Or.inl hready)
  · rcases h.handed layer c' i hc' hi' with rfl | hready | held
    · exact Or.inl rfl
    · exact Or.inr (Or.inl (h'.ready i hready))
    · exact Or.inr (Or.inr held)

/-- An operation that keeps the clock, those who are woken, and the holders of all locks. -/
theorem Leads.of_holders (now : w'.now = w.now) (ready : w'.ready = w.ready)
    (holders : ∀ layer c', w'.cache? layer = some c' →
      c'.lock.holder = some id ∨ ∃ c, w.cache? layer = some c ∧ c.lock.holder = c'.lock.holder) :
    Leads id w w' := by
  refine ⟨now, fun i hi => by rw [ready]; exact hi, ?_⟩
  intro layer c' i hc hi
  rcases holders layer c' hc with h | ⟨c, hc', h⟩
  · left
    rw [h] at hi
    exact (Option.some.inj hi).symm
  · exact Or.inr (Or.inr ⟨c, hc', h.trans hi⟩)

theorem leads_of_cache? (now : w'.now = w.now) (ready : w'.ready = w.ready)
    (cache : ∀ layer, w'.cache? layer = w.cache? layer) : Leads id w w' :=
  .of_holders now ready fun layer c' hc => Or.inr ⟨c', by rw [← cache]; exact hc, rfl⟩

theorem leads_count (meter : Nat) (event : Event) : Leads id w (w.count meter event) :=
  leads_of_cache? rfl rfl fun _ => rfl

theorem leads_setSource (s : σ) (source : Option Nat) : Leads id w (w.setSource s source) := by
  cases source <;> exact leads_of_cache? rfl rfl fun _ => rfl

theorem leads_wake (i : TaskId) : Leads id w (w.wake i) := by
  refine ⟨now_wake w i, ?_, ?_⟩
  · intro j hj
    rw [wake]
    split
    · exact hj
    · exact List.mem_append_left _ hj
  · intro layer c' j hc hj
    rw [cache?_wake] at hc
    exact Or.inr (Or.inr ⟨c', hc, hj⟩)

theorem mem_ready_wake (w : World V σ) (i : TaskId) : i ∈ (w.wake i).ready := by
  rw [wake]
  split
  next h => exact h
  · simp

theorem leads_rouse (layer : Nat) : Leads id w (w.rouse layer) := by
  rw [rouse]
  split
  · exact .refl w
  · split
    · exact leads_wake _
    · exact .refl w

theorem leads_mapCache (i : Nat) {f : Cache V → Cache V}
    (h : ∀ c, w.cache? i = some c → (f c).lock.holder = some id ∨
      (f c).lock.holder = c.lock.holder) : Leads id w (w.mapCache i f) := by
  refine .of_holders rfl rfl fun layer c' hc => ?_
  rw [cache?_mapCache] at hc
  split at hc
  next hi =>
    subst hi
    obtain ⟨c, hw, rfl⟩ := Option.map_eq_some_iff.1 hc
    rcases h c hw with held | held
    · exact Or.inl held
    · exact Or.inr ⟨c, hw, held.symm⟩
  next => exact Or.inr ⟨c', hc, rfl⟩

theorem leads_mapEarly (i : Nat) (f : EarlyRefresh → EarlyRefresh) : Leads id w (w.mapEarly i f) :=
  leads_mapCache i fun _ _ => Or.inr rfl

theorem leads_setLayer {i : Nat} {l l' : Layer V} (h : w.layers[i]? = some l)
    (hl : ∀ c', l'.cache? = some c' → ∃ c, l.cache? = some c ∧ c.lock.holder = c'.lock.holder) :
    Leads id w (w.setLayer i l') := by
  refine .of_holders rfl rfl fun layer c' hc => Or.inr ?_
  rw [cache?_setLayer w layer h] at hc
  split at hc
  next hi =>
    subst hi
    obtain ⟨c, hlc, held⟩ := hl c' hc
    exact ⟨c, by simp [cache?, h, hlc], held⟩
  next => exact ⟨c', hc, rfl⟩

theorem leads_release (i : Nat) : Leads id w (w.release i) := by
  rw [release]
  split
  · exact .refl w
  next c hc =>
    simp only
    -- the lock passes to the next one in the queue, if there is one, and nothing else changes
    have hfreed : ∀ layer c',
        (w.mapCache i fun x => { x with lock := c.lock.release }).cache? layer = some c' →
          i = layer ∧ c'.lock = c.lock.release ∨ w.cache? layer = some c' := by
      intro layer c' h
      rw [cache?_mapCache] at h
      split at h
      next hi =>
        obtain ⟨x, -, rfl⟩ := Option.map_eq_some_iff.1 h
        exact Or.inl ⟨hi, rfl⟩
      next => exact Or.inr h
    split
    next hnone =>
      refine ⟨rfl, fun _ h => h, fun layer c' j h hj => ?_⟩
      rcases hfreed layer c' h with ⟨-, hlock⟩ | h
      · rw [hlock, hnone] at hj
        cases hj
      · exact Or.inr (Or.inr ⟨c', h, hj⟩)
    next j hsome =>
      have hwake : Leads id (w.mapCache i fun x => { x with lock := c.lock.release })
          ((w.mapCache i fun x => { x with lock := c.lock.release }).wake j) := leads_wake j
      refine ⟨hwake.now, hwake.ready, fun layer c' k h hk => ?_⟩
      rw [cache?_wake] at h
      rcases hfreed layer c' h with ⟨-, hlock⟩ | h
      · rw [hlock, hsome] at hk
        cases hk
        exact Or.inr (Or.inl (mem_ready_wake _ j))
      · exact Or.inr (Or.inr ⟨c', h, hk⟩)

theorem leads_withdraw (i : Nat) (j : TaskId) : Leads id w (w.withdraw i j) := by
  rw [withdraw]
  split
  · exact .refl w
  next c hc =>
    split
    · exact leads_release i
    · refine leads_mapCache i fun x hx => Or.inr ?_
      rw [hc] at hx
      cases hx
      rfl

theorem leads_stopWorker (i : Nat) : Leads id w (w.stopWorker i) := by
  rw [stopWorker]
  split
  · exact .refl w
  · split
    · exact (leads_mapEarly i _).trans (leads_wake _)
    · exact .refl w

theorem leads_stopWorkers : Leads id w w.stopWorkers := by
  have h : ∀ (is : List Nat) (w : World V σ), Leads id w (is.foldl stopWorker w) := by
    intro is
    induction is with
    | nil => exact fun w => .refl w
    | cons i is ih => exact fun w => (leads_stopWorker i).trans (ih (w.stopWorker i))
  exact h _ w

end World

/-! ## Every step wakes whoever it gives a lock -/

namespace Task

open World

variable {t : Task V C} {w : World V σ} {id : TaskId}

theorem leads_callSource [Source σ V C] {source : Option Nat} {force : Bool} :
    Leads id w (t.callSource w source force).1 := by
  rw [callSource]
  split
  · exact .refl w
  next s _ =>
    have h : Leads id w (w.setSource (Source.start force w.now s).1 source) := leads_setSource _ _
    exact h.trans (leads_of_cache? rfl rfl fun _ => rfl)

theorem leads_resumeCall [Source σ V C] {source : Option Nat} {due : Instant} {call : C} :
    Leads id w (t.resumeCall w source due call).1 := by
  rw [resumeCall]
  split
  · split
    · exact .refl w
    · exact leads_setSource _ _
  · exact .refl w

theorem leads_enter {level : Nat} {force : Bool} : Leads id w (t.enter w level force).1 := by
  unfold enter
  split
  · exact .refl w
  next layer =>
    split
    · exact .refl w
    · exact .refl w
    · exact .refl w
    next b hl =>
      rw [throttle]
      simp only
      have h : ∀ b', Leads id w (w.setLayer layer (.rateLimit b')) := fun b' =>
        leads_setLayer hl (by simp [Layer.cache?])
      split
      · exact h _
      · exact (h _).trans (leads_count _ _)
    · exact .refl w
    next c hl =>
      rw [lookUp]
      split
      · exact leads_count _ _
      · split
        · exact .refl w
        next c' hc' =>
          -- a hit tells the worker and leaves the lock
          have hlock : c'.lock = c.lock := by
            rcases Cache.noticed?_cases hc' with rfl | ⟨r, -, -, -, rfl⟩
            · rfl
            · rfl
          refine ((leads_setLayer hl ?_).trans (leads_rouse _)).trans (leads_count _ _)
          rintro c'' ⟨rfl⟩
          exact ⟨c, rfl, by rw [hlock]⟩

theorem leads_acquire {layer seen : Nat} {force : Bool} :
    Leads t.id w (t.acquire w layer seen force).1 := by
  rw [acquire]
  split
  · exact .refl w
  next c hc =>
    -- a free lock goes to the task that asks for it
    have h : Leads t.id w (w.mapCache layer fun x => { x with lock := c.lock.ask t.id }) := by
      refine leads_mapCache layer fun x hx => ?_
      rw [hc] at hx
      cases hx
      rw [Lock.ask]
      split
      · exact Or.inl rfl
      · exact Or.inr rfl
    simp only
    split
    · exact h
    · exact h

theorem leads_stopWaiting {layer seen : Nat} {force : Bool} {deadline : Option Instant} :
    Leads id w (t.stopWaiting w layer seen force deadline).1 := by
  rw [stopWaiting]
  split
  · exact .refl w
  next c hc =>
    split
    · exact .refl w
    · split
      · refine leads_mapCache layer fun x hx => Or.inr ?_
        rw [hc] at hx
        cases hx
        rfl
      · exact .refl w

theorem leads_refresh {layer seen : Nat} {force : Bool} :
    Leads id w (t.refresh w layer seen force).1 := by
  unfold refresh settle
  split
  · exact leads_release _
  · exact .refl w

theorem leads_pause {layer : Nat} {firedAt : Instant} : Leads id w (t.pause w layer firedAt).1 := by
  rw [pause]
  split
  · exact leads_mapEarly _ _
  · exact .refl w

theorem leads_follow? {layer : Nat} {retryAfter deadline : Option Instant} {c : Cache V}
    {r : EarlyRefresh} {signal : Signal} {next : World V σ × Task V C}
    (h : t.follow? w layer retryAfter deadline c r signal = some next) : Leads id w next.1 := by
  cases signal with
  | job =>
      simp only [follow?] at h
      split at h
      · cases h
      · cases h
        exact leads_mapEarly _ _
  | notice =>
      simp only [follow?] at h
      split at h
      · cases h
        exact leads_mapEarly _ _
      · cases h
  | timer =>
      simp only [follow?] at h
      split at h
      · cases h
        unfold fireTimer
        simp only
        split
        · exact leads_mapEarly _ _
        · split
          · exact (leads_mapEarly _ _).trans leads_pause
          · exact (leads_mapEarly _ _).trans (leads_mapEarly _ _)
      · cases h

theorem leads_listen {favoured : Signal} {layer : Nat} {retryAfter deadline : Option Instant} :
    Leads id w (t.listen w favoured layer retryAfter deadline).1 := by
  rw [listen]
  split
  · split
    next next h =>
      obtain ⟨signal, -, hs⟩ := List.exists_of_findSome?_eq_some h
      exact leads_follow? hs
    · exact leads_mapEarly _ _
  · exact leads_mapEarly _ _

theorem leads_refreshed [Perishable V] {layer : Nat} {startedAt : Instant} {outcome : Outcome V} :
    Leads id w (t.refreshed w layer startedAt outcome).1 := by
  cases outcome with
  | value v =>
      show Leads id w (t.install w layer startedAt v).1
      unfold install settle
      split
      · exact .refl w
      · split
        · exact leads_release _
        next e _ =>
          have hinstall : Leads id w (w.mapCache layer (·.install e)) :=
            leads_mapCache layer fun _ _ => Or.inr rfl
          have hrouse := hinstall.trans (leads_rouse layer)
          exact (hrouse.trans (leads_count _ _)).trans (leads_release _)
  | failed f => exact (leads_count _ _).trans (leads_release _)
  | crashed => exact leads_release _

theorem leads_bridged {layer : Nat} {force : Bool} {outcome : Outcome V} :
    Leads id w (t.bridged w layer force outcome).1 := by
  unfold bridged
  split
  next hl =>
    split
    · exact .refl w
    · exact leads_setLayer hl (by simp [Layer.cache?])
  · split
    · exact leads_count _ _
    · exact .refl w
  · exact .refl w

theorem leads_observed {layer : Nat} {outcome : Outcome V} :
    Leads id w (t.observed w layer outcome).1 := by
  unfold observed
  split
  · exact .refl w
  next hl _ => exact leads_setLayer hl (by simp [Layer.cache?])
  · exact .refl w

theorem leads_deliver [Perishable V] {outcome : Outcome V} :
    Leads id w (t.deliver w outcome).1 := by
  rw [deliver]
  split
  · exact .refl w
  · simp only
    split
    · unfold retried
      split
      · split
        · exact leads_count _ _
        · exact .refl w
      · exact .refl w
    · exact leads_bridged
    · exact leads_observed
    · exact leads_refreshed
    · unfold queried
      split
      · exact .refl w
      · exact .refl w
    · cases outcome with
      | value v => exact .refl w
      | failed f => exact leads_mapEarly _ _
      | crashed => exact leads_mapEarly _ _
    · cases outcome with
      | value v => exact .refl w
      | failed f => exact (leads_mapEarly _ _).trans leads_pause
      | crashed => exact leads_mapEarly _ _

theorem leads_start [Source σ V C] : Leads id w (t.start w).1 := by
  rw [start]
  split
  · exact .refl w
  · rw [ask]
    split
    · exact .refl w
    · split
      · split
        · exact .refl w
        · exact .refl w
      · exact .refl w
  · have h : ∀ source, Leads id w { w.stopWorkers with source } := fun source =>
      leads_stopWorkers.trans (leads_of_cache? rfl rfl fun _ => rfl)
    rw [close]
    simp only
    split
    · exact h _
    · exact h _
  · exact .refl w
  · exact .refl w
  · exact .refl w

theorem leads_abandon {layer : Nat} : Leads id w (t.abandon w layer).1 := by
  have hqueue : Leads id w (stopQueueing t.id w t.control) := by
    cases t.control <;> first | exact .refl w | exact leads_withdraw _ _
  have hload : ∀ (frames : List Frame) (w : World V σ),
      Leads id w (frames.foldl (stopLoading t.id) w) := by
    intro frames
    induction frames with
    | nil => exact fun w => .refl w
    | cons f frames ih =>
        intro w
        refine Leads.trans ?_ (ih (stopLoading t.id w f))
        cases f <;> first | exact .refl w | exact leads_withdraw _ _
  exact (hqueue.trans (hload _ _)).trans (leads_mapEarly _ _)

/-- A step takes no time, and whoever it gives a lock is the task itself or has been woken. -/
theorem leads_step [Source σ V C] [Perishable V] {favoured : Signal} :
    Leads t.id w (t.step w favoured).1 := by
  have hadvance : Leads t.id w (t.advance w favoured).1 := by
    rw [advance]
    split
    · exact leads_start
    · exact leads_enter
    · exact leads_callSource
    · exact leads_acquire
    · exact leads_stopWaiting
    · exact leads_refresh
    · exact leads_resumeCall
    · exact leads_deliver
    · exact leads_listen
    · exact leads_listen
    · split
      · exact .refl w
      · exact .refl w
    · exact .refl w
    · exact .refl w
  rw [step]
  split
  · exact leads_abandon
  · exact hadvance

end Task

end CredentialSupply
