import CredentialSupply.Proofs.Sound
import CredentialSupply.Stack.Build

set_option autoImplicit false

/-!
# Built stacks

A stack is built by adding one layer after the other (`Adds`) and binding the targets of its
records of health (`bindTarget_cases`). What these keep holds of every stack that has been built
(`build_invariant`). It is `Fresh`: nothing has run, its caches are empty with settings that were
checked, and its only tasks are the workers of its caches. A fresh machine is sound, and so is
every machine that it reaches (`sound_of_build`).
-/

namespace CredentialSupply

variable {V σ C : Type}

/-- A cache that has not been used, with settings that were checked. -/
structure Cache.Fresh (c : Cache V) : Prop where
  eq_empty : c = Cache.empty c.settings c.meter c.early
  settings : c.settings.validate = .ok ()
  early : ∀ r, c.early = some r → r = EarlyRefresh.fresh r.window r.mode r.worker ∧
    validateWindow r.window c.settings.lifetime.timeToLive = .ok ()

/-- A layer of a stack that has not been used, made as one of the plans says. -/
inductive Layer.New (plans : List LayerPlan) : Layer V → Prop where
  | retry : New plans .retry
  | outage (timeToLive : Span) : New plans (.outage timeToLive none)
  | rateLimit {size tokens : UInt32} {period : Span} {now : Instant} {b : TokenBucket}
      (planned : .rateLimit size tokens period ∈ plans)
      (created : TokenBucket.create size tokens period now = .ok b) : New plans (.rateLimit b)
  | health (target : Option HealthTarget) : New plans (.health ⟨0, none, target⟩)
  | cache (settings : CacheSettings) (meter : Nat) (early : Option EarlyRefresh) :
      New plans (.cache (Cache.empty settings meter early))

theorem nanos_lt_of_validateWindow {window timeToLive : Span}
    (h : validateWindow window timeToLive = .ok ()) : window.nanos < timeToLive.nanos := by
  unfold validateWindow at h
  split at h
  · cases h
  · split at h
    · cases h
    · omega

namespace Machine

variable {m n : Machine V σ C}

/-! ## What building does to a machine -/

/-- All that a plan can make of a machine that takes it. -/
inductive Adds (m : Machine V σ C) : LayerPlan → Machine V σ C → Prop where
  | retry : Adds m .retry (m.addLayer .retry)
  | outage {timeToLive : Span} (valid : validateOutage timeToLive = .ok ()) :
      Adds m (.outage timeToLive) (m.addLayer (.outage timeToLive none))
  | rateLimit {size tokens : UInt32} {period : Span} {b : TokenBucket}
      (created : TokenBucket.create size tokens period m.world.now = .ok b) :
      Adds m (.rateLimit size tokens period) (m.addLayer (.rateLimit b))
  | health (targets : List HealthTarget) :
      Adds m (.health targets) (m.addLayer (.health HealthRecord.blank))
  /-- A cache without a worker. -/
  | cache {settings : CacheSettings} {ownMeter : Bool} {meter : Nat} {k : Machine V σ C}
      (valid : settings.validate = .ok ()) (metered : m.addMeter ownMeter = (meter, k)) :
      Adds m (.cache settings ownMeter none)
        (k.addLayer (.cache (Cache.empty settings meter none)))
  /-- A cache with a worker, which is spawned before the layer is there. -/
  | watched {settings : CacheSettings} {ownMeter : Bool} {plan : EarlyPlan} {meter : Nat}
      {k : Machine V σ C} (valid : settings.validate = .ok ())
      (window : validateWindow plan.window settings.lifetime.timeToLive = .ok ())
      (metered : m.addMeter ownMeter = (meter, k)) :
      Adds m (.cache settings ownMeter (some plan))
        ((k.spawn (.work k.world.layers.length)).2.addLayer (.cache (Cache.empty settings meter
          (some (EarlyRefresh.fresh plan.window plan.mode k.tasks.length)))))

theorem adds_of_addPlanned {plan : LayerPlan} (h : m.addPlanned plan = .ok n) : m.Adds plan n := by
  cases plan with
  | retry =>
      cases h
      exact .retry
  | outage timeToLive =>
      simp only [addPlanned] at h
      cases hv : validateOutage timeToLive with
      | error f =>
          rw [hv] at h
          cases h
      | ok u =>
          rw [hv] at h
          cases h
          exact .outage hv
  | rateLimit size tokens period =>
      simp only [addPlanned] at h
      cases hb : TokenBucket.create size tokens period m.world.now with
      | error f =>
          rw [hb] at h
          cases h
      | ok b =>
          rw [hb] at h
          cases h
          exact .rateLimit hb
  | health targets =>
      cases h
      exact .health targets
  | cache settings ownMeter early =>
      simp only [addPlanned, addCache] at h
      cases hs : settings.validate with
      | error f =>
          rw [hs] at h
          cases h
      | ok u =>
          rw [hs] at h
          cases early with
          | none =>
              cases h
              exact .cache hs rfl
          | some plan =>
              cases hw : validateWindow plan.window settings.lifetime.timeToLive with
              | error f =>
                  simp only [hw] at h
                  cases h
              | ok u =>
                  simp only [hw] at h
                  cases h
                  exact .watched hs hw rfl

/-- Binding a target changes nothing but a record of health. -/
theorem bindTarget_cases (m : Machine V σ C) (layer : Nat) (target : HealthTarget) :
    (m.bindTarget layer target).2 = m ∨
      ∃ h, m.world.layers[layer]? = some (.health h) ∧ (m.bindTarget layer target).2 =
        m.mapWorld (·.setLayer layer (.health (h.bind target).2)) := by
  rw [bindTarget]
  split
  · exact Or.inl rfl
  next h hh =>
    obtain ⟨l, hl, hl'⟩ := Option.bind_eq_some_iff.1 hh
    refine Or.inr ⟨h, ?_, rfl⟩
    cases l <;> cases hl'
    exact hl

theorem adds_of_build {name : String} {source : σ} {others : List σ} {plans : List LayerPlan}
    {bound : List Bool} (built : build name source others plans = .ok (bound, m)) :
    ∃ k, plans.foldlM addPlanned (bare name source others) = .ok k ∧
      k.bindTargets plans = (bound, m) := by
  unfold build at built
  cases hf : plans.foldlM addPlanned (bare name source others : Machine V σ C) with
  | error f =>
      rw [hf] at built
      cases built
  | ok k =>
      rw [hf] at built
      exact ⟨k, rfl, Except.ok.inj built⟩

section Invariants

variable {P : Machine V σ C → Prop}

theorem foldlM_invariant {plans : List LayerPlan} (start : P m)
    (add : ∀ {k l : Machine V σ C} {plan : LayerPlan}, plan ∈ plans → P k → k.Adds plan l → P l)
    (h : plans.foldlM addPlanned m = .ok n) : P n := by
  induction plans generalizing m with
  | nil =>
      cases h
      exact start
  | cons plan plans ih =>
      rw [List.foldlM_cons] at h
      cases hp : m.addPlanned plan with
      | error f =>
          rw [hp] at h
          cases h
      | ok k =>
          rw [hp] at h
          exact ih (add List.mem_cons_self start (adds_of_addPlanned hp))
            (fun hplan => add (List.mem_cons_of_mem _ hplan)) h

theorem bindTargets_invariant (start : P m)
    (bind : ∀ {k : Machine V σ C} (layer : Nat) (target : HealthTarget), P k →
      P (k.bindTarget layer target).2) (plans : List LayerPlan) : P (m.bindTargets plans).2 := by
  rw [bindTargets]
  refine List.foldlRecOn _ _
    (motive := fun state : List Bool × Machine V σ C => P state.2) start ?_
  rintro ⟨answers, k⟩ hk ⟨plan, layer⟩ -
  cases plan with
  | health targets =>
      refine List.foldlRecOn _ _
        (motive := fun state : List Bool × Machine V σ C => P state.2) hk ?_
      rintro ⟨answers', k'⟩ hk' target -
      exact bind layer target hk'
  | retry | outage _ | rateLimit _ _ _ | cache _ _ _ => exact hk

/-- What holds of a machine without layers, and stays so with each layer that is added and each
target that is bound, holds of a stack that has been built. -/
theorem build_invariant {name : String} {source : σ} {others : List σ} {plans : List LayerPlan}
    {bound : List Bool} (start : P (bare name source others))
    (add : ∀ {k l : Machine V σ C} {plan : LayerPlan}, plan ∈ plans → P k → k.Adds plan l → P l)
    (bind : ∀ {k : Machine V σ C} (layer : Nat) (target : HealthTarget), P k →
      P (k.bindTarget layer target).2)
    (built : build name source others plans = .ok (bound, m)) : P m := by
  obtain ⟨k, hadded, hbound⟩ := adds_of_build built
  have hk := bindTargets_invariant (foldlM_invariant start add hadded) bind plans
  rw [hbound] at hk
  exact hk

end Invariants

theorem layers_addMeter (m : Machine V σ C) (ownMeter : Bool) :
    (m.addMeter ownMeter).2.world.layers = m.world.layers := by
  rw [addMeter]
  split <;> rfl

theorem layers_spawn (m : Machine V σ C) (request : Request) :
    (m.spawn request).2.world.layers = m.world.layers := by
  simp only [spawn, World.wake]
  split <;> rfl

/-! ## Machines that have not run -/

/-- A machine that has not run. -/
structure Fresh (m : Machine V σ C) : Prop where
  idle : m.running = none
  now : m.world.now = Instant.origin
  tasks : ∀ (i : Nat) (t : Task V C), m.tasks[i]? = some t → ∃ layer c r,
    t = Task.fresh i (.work layer) ∧ m.world.cache? layer = some c ∧ c.early = some r ∧
      r.worker = i
  caches : ∀ (layer : Nat) (c : Cache V), m.world.cache? layer = some c → c.Fresh

theorem fresh_bare (name : String) (source : σ) (others : List σ) :
    (bare name source others : Machine V σ C).Fresh where
  idle := rfl
  now := rfl
  tasks i t h := by
    have h : ([] : List (Task V C))[i]? = some t := h
    simp at h
  caches layer c h := by
    have h : (([] : List (Layer V))[layer]?).bind Layer.cache? = some c := h
    simp at h

theorem cache?_addLayer {layer : Nat} {l : Layer V} {c : Cache V}
    (h : (m.addLayer l).world.cache? layer = some c) :
    m.world.cache? layer = some c ∨ layer = m.world.layers.length ∧ l.cache? = some c := by
  obtain ⟨x, hx, hc⟩ := Option.bind_eq_some_iff.1 h
  rcases getElem?_snoc hx with hx | ⟨rfl, rfl⟩
  · exact Or.inl (Option.bind_eq_some_iff.2 ⟨x, hx, hc⟩)
  · exact Or.inr ⟨rfl, hc⟩

theorem cache?_addLayer_of_some {layer : Nat} {c : Cache V} (l : Layer V)
    (h : m.world.cache? layer = some c) : (m.addLayer l).world.cache? layer = some c := by
  rw [World.cache?_eq_some_iff] at h ⊢
  exact getElem?_append_some [l] h

theorem cache?_addLayer_last (m : Machine V σ C) (l : Layer V) :
    (m.addLayer l).world.cache? m.world.layers.length = l.cache? := by
  simp [addLayer, mapWorld, World.cache?]

theorem fresh_addLayer (fresh : m.Fresh) {l : Layer V} (hl : ∀ c, l.cache? = some c → c.Fresh) :
    (m.addLayer l).Fresh where
  idle := fresh.idle
  now := fresh.now
  tasks i t h := by
    obtain ⟨layer, c, r, ht, hc, hr, hi⟩ := fresh.tasks i t h
    exact ⟨layer, c, r, ht, cache?_addLayer_of_some l hc, hr, hi⟩
  caches layer c h := by
    rcases cache?_addLayer h with h | ⟨-, h⟩
    · exact fresh.caches layer c h
    · exact hl c h

theorem fresh_addMeter (fresh : m.Fresh) (ownMeter : Bool) : (m.addMeter ownMeter).2.Fresh := by
  rw [addMeter]
  split
  · exact ⟨fresh.idle, fresh.now, fresh.tasks, fresh.caches⟩
  · exact fresh

theorem fresh_spawn (fresh : m.Fresh) {window : Span} {mode : RefreshMode} {settings : CacheSettings}
    {meter : Nat}
    (hc : (Cache.empty settings meter (some (EarlyRefresh.fresh window mode m.tasks.length)) :
      Cache V).Fresh) :
    ((m.spawn (.work m.world.layers.length)).2.addLayer (.cache (Cache.empty settings meter
      (some (EarlyRefresh.fresh window mode m.tasks.length))))).Fresh where
  idle := fresh.idle
  now := (World.now_wake _ _).trans fresh.now
  tasks i t ht := by
    rcases getElem?_snoc ht with ht | ⟨rfl, rfl⟩
    · obtain ⟨layer, c, r, ht, hc, hr, hi⟩ := fresh.tasks i t ht
      refine ⟨layer, c, r, ht, cache?_addLayer_of_some _ ?_, hr, hi⟩
      exact (World.cache?_wake _ _ _).trans hc
    · -- the new worker belongs to the layer that is added after it
      have hlast := cache?_addLayer_last (m.spawn (.work m.world.layers.length)).2
        (.cache (Cache.empty settings meter
          (some (EarlyRefresh.fresh window mode m.tasks.length))))
      rw [layers_spawn] at hlast
      exact ⟨_, _, _, rfl, hlast, rfl, rfl⟩
  caches layer c hcache := by
    rcases cache?_addLayer hcache with hold | ⟨-, hnew⟩
    · exact fresh.caches layer c ((World.cache?_wake _ _ _).symm.trans hold)
    · cases hnew
      exact hc

theorem Adds.fresh {plan : LayerPlan} (h : m.Adds plan n) (fresh : m.Fresh) : n.Fresh := by
  cases h with
  | retry | outage | rateLimit | health => exact fresh_addLayer fresh (by simp [Layer.cache?])
  | @cache settings ownMeter meter k valid metered =>
      have hk := fresh_addMeter fresh ownMeter
      rw [metered] at hk
      refine fresh_addLayer hk ?_
      rintro c ⟨rfl⟩
      exact ⟨rfl, valid, fun r hr => by cases hr⟩
  | @watched settings ownMeter plan meter k valid window metered =>
      have hk := fresh_addMeter fresh ownMeter
      rw [metered] at hk
      refine fresh_spawn hk ⟨rfl, valid, ?_⟩
      rintro r ⟨rfl⟩
      exact ⟨rfl, window⟩

theorem fresh_bindTarget (fresh : m.Fresh) (layer : Nat) (target : HealthTarget) :
    (m.bindTarget layer target).2.Fresh := by
  rcases m.bindTarget_cases layer target with heq | ⟨h, hl, heq⟩ <;> rw [heq]
  · exact fresh
  · have hcache : ∀ i, (m.world.setLayer layer (.health (h.bind target).2)).cache? i =
        m.world.cache? i := fun i => World.cache?_setLayer_of_none m.world i hl rfl rfl
    refine ⟨fresh.idle, fresh.now, ?_, ?_⟩
    · intro i t ht
      obtain ⟨layer', c, r, ht, hc, hr, hi⟩ := fresh.tasks i t ht
      exact ⟨layer', c, r, ht, (hcache layer').trans hc, hr, hi⟩
    · intro i c hc
      exact fresh.caches i c ((hcache i).symm.trans hc)

/-- A stack that has been built has not run. -/
theorem fresh_of_build {name : String} {source : σ} {others : List σ} {plans : List LayerPlan}
    {bound : List Bool} (built : build name source others plans = .ok (bound, m)) : m.Fresh :=
  build_invariant (fresh_bare name source others) (fun _ fresh adds => adds.fresh fresh)
    (fun layer target fresh => fresh_bindTarget fresh layer target) built

/-! ## New layers -/

section New

variable {plans : List LayerPlan}

theorem new_addLayer {l : Layer V} (new : ∀ x ∈ m.world.layers, x.New plans) (h : l.New plans) :
    ∀ x ∈ (m.addLayer l).world.layers, x.New plans := by
  intro x hx
  rcases List.mem_append.1 hx with hx | hx
  · exact new x hx
  · rw [List.mem_singleton.1 hx]
    exact h

theorem Adds.new {plan : LayerPlan} (h : m.Adds plan n) (planned : plan ∈ plans)
    (new : ∀ x ∈ m.world.layers, x.New plans) : ∀ x ∈ n.world.layers, x.New plans := by
  cases h with
  | retry => exact new_addLayer new .retry
  | outage => exact new_addLayer new (.outage _)
  | rateLimit created => exact new_addLayer new (.rateLimit planned created)
  | health => exact new_addLayer new (.health none)
  | @cache settings ownMeter meter k valid metered =>
      have hlayers := layers_addMeter m ownMeter
      rw [metered] at hlayers
      rw [← hlayers] at new
      exact new_addLayer new (.cache settings meter none)
  | @watched settings ownMeter plan meter k valid window metered =>
      have hlayers := layers_addMeter m ownMeter
      rw [metered] at hlayers
      rw [← hlayers, ← layers_spawn k (.work k.world.layers.length)] at new
      exact new_addLayer new (.cache settings meter _)

theorem new_bindTarget (new : ∀ x ∈ m.world.layers, x.New plans) (layer : Nat)
    (target : HealthTarget) : ∀ x ∈ (m.bindTarget layer target).2.world.layers, x.New plans := by
  rcases m.bindTarget_cases layer target with heq | ⟨h, hl, heq⟩ <;> rw [heq]
  · exact new
  · have hnew := new _ (List.mem_of_getElem? hl)
    intro x hx
    rcases List.mem_or_eq_of_mem_set hx with hx | rfl
    · exact new x hx
    · -- a record that gets a target is as blank as before
      cases hnew with
      | health bound =>
          cases bound with
          | none => exact .health (some target)
          | some old => exact .health (some old)

/-- The layers of a stack that has been built are new. -/
theorem new_of_build {name : String} {source : σ} {others : List σ} {bound : List Bool}
    (built : build name source others plans = .ok (bound, m)) :
    ∀ x ∈ m.world.layers, x.New plans :=
  build_invariant (by simp [bare]) (fun planned new adds => adds.new planned new)
    (fun layer target new => new_bindTarget new layer target) built

end New

theorem Fresh.sound (fresh : m.Fresh) : m.Sound where
  ids i t h := by
    obtain ⟨layer, c, r, rfl, -⟩ := fresh.tasks i t h
    rfl
  shaped i t h := by
    obtain ⟨layer, c, r, rfl, -⟩ := fresh.tasks i t h
    rfl
  parked i t h unparked := by
    obtain ⟨layer, c, r, rfl, -⟩ := fresh.tasks i t h
    cases unparked
  posted i t layer h hr := by
    obtain ⟨layer', c, r, rfl, hc, hearly, hi⟩ := fresh.tasks i t h
    cases hr
    exact ⟨c, r, hc, hearly, hi⟩
  clock := by
    rw [fresh.now]
    exact Instant.le_refl _

/-- The window of a worker is shorter than the time to live of its cache. -/
theorem window_lt {layer : Nat} {m₀ : Machine V σ C} {c₀ : Cache V} (fresh : m₀.Fresh)
    (cache : m₀.world.cache? layer = some c₀) {c : Cache V} {r : EarlyRefresh}
    (kept : c₀.Kept c) (hr : c.early = some r) :
    r.window.nanos < c₀.settings.lifetime.timeToLive.nanos := by
  have hplan := kept.plan
  rw [hr, Option.map_some, eq_comm, Option.map_eq_some_iff] at hplan
  obtain ⟨r₀, hr₀, heq⟩ := hplan
  have hlt := nanos_lt_of_validateWindow (((fresh.caches layer c₀ cache).early r₀ hr₀).2)
  simp only [EarlyRefresh.plan, Prod.mk.injEq] at heq
  rw [← heq.1]
  exact hlt

/-- No task of a machine that has not run is inside a cache. -/
theorem Fresh.outside (fresh : m.Fresh) {i : Nat} {t : Task V C} (h : m.tasks[i]? = some t)
    (layer : Nat) : t.stage layer = .away ∧ t.duty? layer = none := by
  obtain ⟨l, c, r, rfl, -⟩ := fresh.tasks i t h
  exact ⟨rfl, rfl⟩

/-- The tasks of a stack stay in order. -/
theorem sound_of_build [Source σ V C] [Perishable V] {name : String} {source : σ}
    {others : List σ} {plans : List LayerPlan} {bound : List Bool}
    (built : build name source others plans = .ok (bound, m)) (run : Reaches m n) : n.Sound :=
  sound_reaches (fresh_of_build built).sound run

end Machine

end CredentialSupply
