import CredentialSupply.Proofs.Scheduling
import CredentialSupply.Proofs.Shape

set_option autoImplicit false

/-!
# A cache without its worker

`World.blocking` takes the worker of one cache out of a world: the cache has none, and nobody wakes
it. What is left is a cache that refreshes only for callers that wait. Where that worker is in no
lock (`World.Hides`), each operation on a world and each step of another task does the same with or
without it (`blocking_step`): callers cannot tell, as long as the clock represents the end of the
window that a lookup compares with.
-/

namespace CredentialSupply

variable {V σ C : Type}

/-! ## The world without the worker -/

namespace Cache

/-- The cache at position `i` as it is without the worker of the cache at a layer. -/
def without (layer i : Nat) (c : Cache V) : Cache V :=
  if i = layer then { c with early := none } else c

variable {layer i : Nat} (c : Cache V)

@[simp] theorem settings_without : (c.without layer i).settings = c.settings := by
  unfold without
  split <;> rfl

@[simp] theorem meter_without : (c.without layer i).meter = c.meter := by
  unfold without
  split <;> rfl

@[simp] theorem entry_without : (c.without layer i).entry = c.entry := by
  unfold without
  split <;> rfl

@[simp] theorem generation_without : (c.without layer i).generation = c.generation := by
  unfold without
  split <;> rfl

@[simp] theorem lock_without : (c.without layer i).lock = c.lock := by
  unfold without
  split <;> rfl

@[simp] theorem valid?_without (now : Instant) : (c.without layer i).valid? now = c.valid? now := by
  simp [valid?]

@[simp] theorem replacement?_without (seen : Nat) :
    (c.without layer i).replacement? seen = c.replacement? seen := by
  simp [replacement?]

theorem early_without : (c.without layer i).early = if i = layer then none else c.early := by
  unfold without
  split <;> rfl

theorem lock_update_without (lock : Lock) :
    Cache.without layer i { c with lock } = { c.without layer i with lock } := by
  unfold without
  split <;> rfl

theorem install_without (e : Entry V) :
    (c.install e).without layer i = (c.without layer i).install e := by
  unfold without install
  split <;> rfl

/-- What the worker of the layer knows is gone without it. -/
theorem mapEarly_without_self (f : EarlyRefresh → EarlyRefresh) :
    (c.mapEarly f).without layer layer = c.without layer layer := by
  simp [without, mapEarly]

theorem mapEarly_without (f : EarlyRefresh → EarlyRefresh) :
    (c.mapEarly f).without layer i = (c.without layer i).mapEarly f := by
  unfold without mapEarly
  split <;> rfl

/-- A lookup changes nothing that is left without the worker. -/
theorem noticed?_without {c c' : Cache V} {e : Entry V} {now : Instant}
    (h : c.noticed? e now = some c') :
    (c.without layer i).noticed? e now = some (c'.without layer i) := by
  unfold without
  split
  next =>
    rcases noticed?_cases h with rfl | ⟨r, -, -, -, rfl⟩ <;> rfl
  next => exact h

end Cache

namespace World

/-- The world without the worker of the cache at a layer. -/
def blocking (layer : Nat) (worker : TaskId) (w : World V σ) : World V σ :=
  { w.mapCache layer (Cache.without layer layer) with ready := w.ready.filter (· ≠ worker) }

/-- The given task is the worker of the cache at a layer and of no other one, and in no lock. -/
structure Hides (layer : Nat) (worker : TaskId) (w : World V σ) : Prop where
  workers : ∀ i c r, w.cache? i = some c → c.early = some r → (r.worker = worker ↔ i = layer)
  locks : ∀ i c, w.cache? i = some c → worker ∉ c.lock.parties

variable {layer : Nat} {worker : TaskId} (w : World V σ)

@[simp] theorem now_blocking : (w.blocking layer worker).now = w.now := rfl

@[simp] theorem meters_blocking : (w.blocking layer worker).meters = w.meters := rfl

@[simp] theorem calls_blocking : (w.blocking layer worker).calls = w.calls := rfl

@[simp] theorem length_layers_blocking :
    (w.blocking layer worker).layers.length = w.layers.length := by
  simp [blocking, mapCache]

@[simp] theorem layers_blocking (i : Nat) : (w.blocking layer worker).layers[i]? =
    (w.layers[i]?).map (Layer.mapCache (Cache.without layer i)) := by
  simp only [blocking, mapCache, List.getElem?_modify]
  cases w.layers[i]? with
  | none => rfl
  | some l =>
      by_cases hi : layer = i
      · subst hi
        simp
      · cases l <;> simp [hi, Layer.mapCache, Cache.without, Ne.symm hi]

@[simp] theorem cache?_blocking (i : Nat) :
    (w.blocking layer worker).cache? i = (w.cache? i).map (Cache.without layer i) := by
  rw [cache?, cache?, layers_blocking]
  cases w.layers[i]? with
  | none => rfl
  | some l => cases l <;> rfl

theorem early?_blocking (i : Nat) :
    (w.blocking layer worker).early? i = if i = layer then none else w.early? i := by
  rw [early?, early?, cache?_blocking]
  cases w.cache? i with
  | none => simp
  | some c => simp [Cache.early_without]

@[simp] theorem source?_blocking (source : Option Nat) :
    (w.blocking layer worker).source? source = w.source? source := by
  cases source <;> rfl

@[simp] theorem blocking_count (meter : Nat) (event : Event) :
    (w.count meter event).blocking layer worker = (w.blocking layer worker).count meter event :=
  rfl

@[simp] theorem blocking_setLayer (i : Nat) (l : Layer V) :
    (w.setLayer i l).blocking layer worker =
      (w.blocking layer worker).setLayer i (l.mapCache (Cache.without layer i)) := by
  have hlayers : ((w.setLayer i l).blocking layer worker).layers =
      ((w.blocking layer worker).setLayer i (l.mapCache (Cache.without layer i))).layers := by
    apply List.ext_getElem?
    intro j
    rw [layers_blocking, setLayer, setLayer, List.getElem?_set, List.getElem?_set,
      length_layers_blocking, layers_blocking]
    by_cases hj : i = j
    · subst hj
      by_cases hlt : i < w.layers.length <;> simp [hlt]
    · simp [hj]
  exact congrArg (fun layers => { w.blocking layer worker with layers }) hlayers

/-- A change of a cache that has to do with its worker only as given by `g`. -/
theorem blocking_mapCache (i : Nat) {f g : Cache V → Cache V}
    (h : ∀ c, (f c).without layer i = g (c.without layer i)) :
    (w.mapCache i f).blocking layer worker = (w.blocking layer worker).mapCache i g := by
  have hlayers : ((w.mapCache i f).blocking layer worker).layers =
      ((w.blocking layer worker).mapCache i g).layers := by
    apply List.ext_getElem?
    intro j
    simp only [layers_blocking, mapCache, List.getElem?_modify]
    cases w.layers[j]? with
    | none => rfl
    | some l =>
        by_cases hj : i = j
        · subst hj
          cases l <;> simp [Layer.mapCache, h]
        · simp [hj]
  exact congrArg (fun layers => { w.blocking layer worker with layers }) hlayers

theorem blocking_mapLock (i : Nat) (f : Lock → Lock) :
    (w.mapCache i fun c => { c with lock := f c.lock }).blocking layer worker =
      (w.blocking layer worker).mapCache i fun c => { c with lock := f c.lock } :=
  w.blocking_mapCache i fun c => by rw [c.lock_update_without, c.lock_without]

@[simp] theorem blocking_mapEarly (i : Nat) (f : EarlyRefresh → EarlyRefresh) :
    (w.mapEarly i f).blocking layer worker = (w.blocking layer worker).mapEarly i f :=
  w.blocking_mapCache i fun c => c.mapEarly_without f

/-- What its worker knows is nothing to the cache without it. -/
@[simp] theorem blocking_mapEarly_self (f : EarlyRefresh → EarlyRefresh) :
    (w.mapEarly layer f).blocking layer worker = w.blocking layer worker := by
  have hid : (w.blocking layer worker).mapCache layer id = w.blocking layer worker := by
    have hlayer : Layer.mapCache (V := V) id = id := by
      funext l
      cases l <;> rfl
    rw [mapCache, hlayer, List.modify_id]
  refine Eq.trans (w.blocking_mapCache layer (g := id) fun c => ?_) hid
  exact c.mapEarly_without_self f

theorem blocking_wake {id : TaskId} (other : id ≠ worker) :
    (w.wake id).blocking layer worker = (w.blocking layer worker).wake id := by
  have hmem : id ∈ (w.blocking layer worker).ready ↔ id ∈ w.ready := by
    simp [blocking, other]
  by_cases h : id ∈ w.ready
  · rw [wake, wake, if_pos h, if_pos (hmem.2 h)]
  · rw [wake, wake, if_neg h, if_neg fun h' => h (hmem.1 h')]
    simp [blocking, mapCache, other]

@[simp] theorem blocking_wake_self :
    (w.wake worker).blocking layer worker = w.blocking layer worker := by
  rw [wake]
  split
  · rfl
  · simp [blocking, mapCache]

/-- The worker is roused and told to end to no effect on what is left without it. -/
theorem blocking_rouse (i : Nat)
    (h : ∀ r, w.early? i = some r → (r.worker = worker ↔ i = layer)) :
    (w.rouse i).blocking layer worker = (w.blocking layer worker).rouse i := by
  unfold rouse
  rw [early?_blocking]
  cases hr : w.early? i with
  | none => simp
  | some r =>
      simp only
      by_cases hi : i = layer
      · obtain rfl := (h r hr).2 hi
        rw [if_pos hi]
        split
        · exact w.blocking_wake_self
        · rfl
      · rw [if_neg hi]
        by_cases called : r.isCalled = true
        · simp only [if_pos called]
          exact w.blocking_wake fun e => hi ((h r hr).1 e)
        · simp only [if_neg called]

theorem blocking_stopWorker (i : Nat)
    (h : ∀ r, w.early? i = some r → (r.worker = worker ↔ i = layer)) :
    (w.stopWorker i).blocking layer worker = (w.blocking layer worker).stopWorker i := by
  unfold stopWorker
  rw [early?_blocking]
  cases hr : w.early? i with
  | none => simp
  | some r =>
      simp only
      by_cases hi : i = layer
      · obtain rfl := (h r hr).2 hi
        subst hi
        rw [if_pos rfl]
        split
        · rw [blocking_wake_self, blocking_mapEarly_self]
        · rfl
      · rw [if_neg hi]
        by_cases accepting : r.accepting = true
        · simp only [if_pos accepting]
          rw [blocking_wake _ fun e => hi ((h r hr).1 e), blocking_mapEarly]
        · simp only [if_neg accepting]

theorem blocking_release (i : Nat) (h : ∀ c, w.cache? i = some c → worker ∉ c.lock.parties) :
    (w.release i).blocking layer worker = (w.blocking layer worker).release i := by
  unfold release
  rw [cache?_blocking]
  cases hc : w.cache? i with
  | none => rfl
  | some c =>
      simp only [Option.map_some, Cache.lock_without]
      cases hholder : c.lock.release.holder with
      | none => exact w.blocking_mapLock i fun _ => c.lock.release
      | some id =>
          -- the next holder has been waiting
          have hid : id ≠ worker := by
            rintro rfl
            rw [Lock.holder_release] at hholder
            exact h c hc (List.mem_append_right _ (List.mem_of_head? hholder))
          rw [blocking_wake _ hid]
          exact congrArg (·.wake id) (w.blocking_mapLock i fun _ => c.lock.release)

theorem blocking_withdraw (i : Nat) (id : TaskId)
    (h : ∀ c, w.cache? i = some c → worker ∉ c.lock.parties) :
    (w.withdraw i id).blocking layer worker = (w.blocking layer worker).withdraw i id := by
  unfold withdraw
  rw [cache?_blocking]
  cases hc : w.cache? i with
  | none => rfl
  | some c =>
      simp only [Option.map_some, Cache.lock_without]
      split
      · exact w.blocking_release i h
      · exact w.blocking_mapLock i (·.leave id)

variable {w}

theorem Hides.early (h : w.Hides layer worker) (i : Nat) (r : EarlyRefresh)
    (hr : w.early? i = some r) : r.worker = worker ↔ i = layer := by
  obtain ⟨c, hc, early⟩ := Option.bind_eq_some_iff.1 hr
  exact h.workers i c r hc early

/-- The worker stays hidden while caches keep their workers and locks get no new party. -/
theorem Hides.of_caches {w' : World V σ} (h : w.Hides layer worker)
    (caches : ∀ i c', w'.cache? i = some c' → ∃ c, w.cache? i = some c ∧
      c'.early.map EarlyRefresh.worker = c.early.map EarlyRefresh.worker ∧
      c'.lock.parties ⊆ c.lock.parties) : w'.Hides layer worker := by
  constructor
  · intro i c' r' hc' hr'
    obtain ⟨c, hc, same, -⟩ := caches i c' hc'
    rw [hr', Option.map_some] at same
    obtain ⟨r, hr, hworker⟩ := Option.map_eq_some_iff.1 same.symm
    rw [← hworker]
    exact h.workers i c r hc hr
  · intro i c' hc' hmem
    obtain ⟨c, hc, -, parties⟩ := caches i c' hc'
    exact h.locks i c hc (parties hmem)

theorem Hides.wake (h : w.Hides layer worker) (id : TaskId) : (w.wake id).Hides layer worker :=
  h.of_caches fun i c' hc' => ⟨c', by rwa [cache?_wake] at hc', rfl, List.Subset.refl _⟩

theorem Hides.withdraw (h : w.Hides layer worker) (i : Nat) (id : TaskId) :
    (w.withdraw i id).Hides layer worker := by
  refine h.of_caches fun j c' hc' => ?_
  rw [cache?_withdraw] at hc'
  split at hc'
  · obtain ⟨c, hc, rfl⟩ := Option.map_eq_some_iff.1 hc'
    refine ⟨c, hc, rfl, ?_⟩
    rw [Lock.parties_withdraw]
    exact List.erase_subset
  · exact ⟨c', hc', rfl, List.Subset.refl _⟩

theorem Hides.stopWorker (h : w.Hides layer worker) (i : Nat) :
    (w.stopWorker i).Hides layer worker := by
  have hearly : (w.mapEarly i ({ · with stopped := true })).Hides layer worker := by
    refine h.of_caches fun j c' hc' => ?_
    rw [cache?_mapEarly] at hc'
    split at hc'
    · obtain ⟨c, hc, rfl⟩ := Option.map_eq_some_iff.1 hc'
      refine ⟨c, hc, ?_, List.Subset.refl _⟩
      rw [Cache.mapEarly, Option.map_map]
      rfl
    · exact ⟨c', hc', rfl, List.Subset.refl _⟩
  unfold World.stopWorker
  split
  · exact h
  · split
    · exact hearly.wake _
    · exact h

/-- All workers are told to end, with or without the one. -/
theorem blocking_stopWorkers (h : w.Hides layer worker) :
    w.stopWorkers.blocking layer worker = (w.blocking layer worker).stopWorkers := by
  have hfold : ∀ (is : List Nat) (w : World V σ), w.Hides layer worker →
      (is.foldl World.stopWorker w).blocking layer worker =
        is.foldl World.stopWorker (w.blocking layer worker) := by
    intro is
    induction is with
    | nil => exact fun w _ => rfl
    | cons i is ih =>
        intro w h
        rw [List.foldl_cons, List.foldl_cons, ih _ (h.stopWorker i),
          blocking_stopWorker w i (h.early i)]
  rw [stopWorkers, stopWorkers, length_layers_blocking]
  exact hfold _ w h

/-- The record of health that a query asks is the same. -/
@[simp] theorem healthLayer?_blocking (w : World V σ) :
    (w.blocking layer worker).healthLayer? = w.healthLayer? := by
  have hmap : ∀ u : World V σ, u.healthLayer? =
      ((u.layers.map Layer.health?).zipIdx.reverse).findSome? fun (health?, i) =>
        health?.map (i, ·) := by
    intro u
    rw [healthLayer?, List.zipIdx_map, ← List.map_reverse, List.findSome?_map]
    rfl
  have hlayers : (w.blocking layer worker).layers.map Layer.health? =
      w.layers.map Layer.health? := by
    apply List.ext_getElem?
    intro i
    rw [List.getElem?_map, List.getElem?_map, layers_blocking]
    cases w.layers[i]? with
    | none => rfl
    | some l => cases l <;> rfl
  rw [hmap, hmap, hlayers]

end World

/-! ## The steps of the other tasks -/

namespace Task

/-- What a step comes to, but for the worker of the cache at a layer. -/
def besides (layer : Nat) (worker : TaskId) (next : World V σ × Task V C) : World V σ × Task V C :=
  (next.1.blocking layer worker, next.2)

variable {layer : Nat} {worker : TaskId} {t : Task V C} {w : World V σ}

theorem besides_ite {p : Prop} [Decidable p] {next next' : World V σ × Task V C} :
    besides layer worker (if p then next else next') =
      if p then besides layer worker next else besides layer worker next' :=
  apply_ite _ p next next'

theorem blocking_callSource [Source σ V C] {source : Option Nat} {force : Bool} :
    t.callSource (w.blocking layer worker) source force =
      besides layer worker (t.callSource w source force) := by
  unfold callSource
  rw [World.source?_blocking]
  split
  · rfl
  · cases source <;> rfl

theorem blocking_resumeCall [Source σ V C] {source : Option Nat} {due : Instant} {call : C} :
    t.resumeCall (w.blocking layer worker) source due call =
      besides layer worker (t.resumeCall w source due call) := by
  unfold resumeCall
  rw [World.source?_blocking, World.now_blocking]
  split
  · split
    · rfl
    · cases source <;> rfl
  · rfl

/-- A hit is the same without the worker, unless the lookup would have crashed for it. -/
theorem blocking_lookUp {i : Nat} {c : Cache V} {force : Bool} (hides : w.Hides layer worker)
    (here : w.layers[i]? = some (.cache c))
    (clock : ∀ r, w.early? layer = some r → (w.now.later? r.window).isSome = true) :
    t.lookUp (w.blocking layer worker) i (c.without layer i) force =
      besides layer worker (t.lookUp w i c force) := by
  have hc : w.cache? i = some c := (World.cache?_eq_some_iff w i c).2 here
  unfold lookUp
  rw [World.now_blocking, Cache.valid?_without]
  split
  next => simp [besides]
  next e _ =>
    cases hnoticed : c.noticed? e w.now with
    | none =>
        have hi : i ≠ layer := by
          rintro rfl
          have hwindow : ∀ r, c.early = some r → (w.now.later? r.window).isSome = true :=
            fun r hr => clock r ((w.early?_eq hc).trans hr)
          obtain ⟨c', hc'⟩ := c.exists_noticed? e hwindow
          rw [hnoticed] at hc'
          cases hc'
        rw [Cache.without, if_neg hi, hnoticed]
        rfl
    | some c' =>
        rw [Cache.noticed?_without hnoticed]
        have hides' : (w.setLayer i (.cache c')).Hides layer worker := by
          refine hides.of_caches fun j d' hd' => ?_
          rw [World.cache?_setLayer w j here] at hd'
          split at hd'
          next hj =>
            subst hj
            cases hd'
            refine ⟨c, hc, ?_⟩
            rcases Cache.noticed?_cases hnoticed with rfl | ⟨r, hr, -, -, rfl⟩
            · exact ⟨rfl, List.Subset.refl _⟩
            · obtain ⟨-, -, hworker, -⟩ := r.sameWorker_schedule ⟨c.generation, e.expiresAt⟩
              exact ⟨by simp [hr, hworker], List.Subset.refl _⟩
          next => exact ⟨d', hd', rfl, List.Subset.refl _⟩
        simp [besides, World.blocking_rouse _ i (hides'.early i), Layer.mapCache]

theorem blocking_enter {level : Nat} {force : Bool} (hides : w.Hides layer worker)
    (clock : ∀ r, w.early? layer = some r → (w.now.later? r.window).isSome = true) :
    t.enter (w.blocking layer worker) level force =
      besides layer worker (t.enter w level force) := by
  cases level with
  | zero => rfl
  | succ i =>
      simp only [enter, World.layers_blocking]
      cases here : w.layers[i]? with
      | none => rfl
      | some l =>
          cases l with
          | cache c => exact blocking_lookUp hides here clock
          | rateLimit b =>
              have hset : (w.setLayer i (.rateLimit (b.tryAcquire w.now).2)).blocking layer worker =
                  (w.blocking layer worker).setLayer i (.rateLimit (b.tryAcquire w.now).2) :=
                w.blocking_setLayer i _
              simp only [Option.map_some, Layer.mapCache, throttle, World.now_blocking, besides_ite,
                ← hset]
              rfl
          | retry | outage _ _ | health _ => rfl

theorem blocking_acquire {i seen : Nat} {force : Bool} :
    t.acquire (w.blocking layer worker) i seen force =
      besides layer worker (t.acquire w i seen force) := by
  unfold acquire
  rw [World.cache?_blocking]
  cases w.cache? i with
  | none => rfl
  | some c =>
      simp only [Option.map_some, Cache.lock_without, Cache.settings_without, World.now_mapCache,
        World.now_blocking, besides_ite, ← w.blocking_mapLock i fun _ => c.lock.ask t.id]
      rfl

theorem blocking_stopWaiting {i seen : Nat} {force : Bool} {deadline : Option Instant} :
    t.stopWaiting (w.blocking layer worker) i seen force deadline =
      besides layer worker (t.stopWaiting w i seen force deadline) := by
  unfold stopWaiting
  rw [World.cache?_blocking]
  cases w.cache? i with
  | none => rfl
  | some c =>
      simp only [Option.map_some, Cache.lock_without, World.now_blocking, Cache.settings_without,
        besides_ite, ← w.blocking_mapLock i (·.leave t.id)]
      rfl

theorem blocking_settle {i : Nat} {e : Entry V}
    (h : ∀ c, w.cache? i = some c → worker ∉ c.lock.parties) :
    t.settle (w.blocking layer worker) i e =
      besides layer worker (t.settle w i e) := by
  rw [settle, settle, ← w.blocking_release i h]
  rfl

theorem blocking_refresh {i seen : Nat} {force : Bool} (hides : w.Hides layer worker) :
    t.refresh (w.blocking layer worker) i seen force =
      besides layer worker (t.refresh w i seen force) := by
  unfold refresh
  rw [World.cache?_blocking]
  have hsame : ((w.cache? i).map (Cache.without layer i)).bind (·.replacement? seen) =
      (w.cache? i).bind (·.replacement? seen) := by
    cases w.cache? i with
    | none => rfl
    | some c => exact c.replacement?_without seen
  rw [hsame]
  split
  · exact blocking_settle (hides.locks i)
  · rfl

theorem blocking_install [Perishable V] {i : Nat} {startedAt : Instant} {value : V}
    (hides : w.Hides layer worker) :
    t.install (w.blocking layer worker) i startedAt value =
      besides layer worker (t.install w i startedAt value) := by
  unfold install
  rw [World.cache?_blocking]
  cases hc : w.cache? i with
  | none => rfl
  | some c =>
      simp only [Option.map_some, Cache.settings_without, World.now_blocking, Cache.meter_without]
      split
      · rw [← w.blocking_release i (hides.locks i)]
        rfl
      next e _ =>
        have hides' : (w.mapCache i (·.install e)).Hides layer worker := by
          refine hides.of_caches fun j d' hd' => ?_
          rw [World.cache?_mapCache] at hd'
          split at hd'
          · obtain ⟨d, hd, rfl⟩ := Option.map_eq_some_iff.1 hd'
            refine ⟨d, hd, ?_, List.Subset.refl _⟩
            rw [Cache.install, Option.map_map]
            rfl
          · exact ⟨d', hd', rfl, List.Subset.refl _⟩
        have hinstall : (w.mapCache i (·.install e)).blocking layer worker =
            (w.blocking layer worker).mapCache i (·.install e) :=
          w.blocking_mapCache i fun c => c.install_without e
        rw [← hinstall, ← World.blocking_rouse _ i (hides'.early i), ← World.blocking_count]
        refine blocking_settle fun d hd => hides'.locks i d ?_
        rwa [World.cache?_count, World.cache?_rouse] at hd

theorem blocking_refreshed [Perishable V] {i : Nat} {startedAt : Instant} {outcome : Outcome V}
    (hides : w.Hides layer worker) :
    t.refreshed (w.blocking layer worker) i startedAt outcome =
      besides layer worker (t.refreshed w i startedAt outcome) := by
  cases outcome with
  | value v => exact blocking_install hides
  | failed f =>
      have hmeter : ((w.blocking layer worker).cache? i).map Cache.meter =
          (w.cache? i).map Cache.meter := by
        rw [World.cache?_blocking]
        cases w.cache? i with
        | none => rfl
        | some c => exact congrArg some c.meter_without
      simp only [refreshed, hmeter]
      rw [← World.blocking_count, ← World.blocking_release _ i (by exact hides.locks i)]
      rfl
  | crashed =>
      simp only [refreshed]
      rw [← w.blocking_release i (hides.locks i)]
      rfl

/-! ### Other workers -/

theorem blocking_retire {i : Nat} :
    t.retire (w.blocking layer worker) i = besides layer worker (t.retire w i) := by
  rw [retire, retire, ← World.blocking_mapEarly]
  rfl

theorem blocking_pause {i : Nat} {firedAt : Instant} :
    t.pause (w.blocking layer worker) i firedAt = besides layer worker (t.pause w i firedAt) := by
  unfold pause
  split
  · exact blocking_retire
  · rfl

theorem blocking_fireTimer {i : Nat} {c : Cache V} {r : EarlyRefresh} :
    t.fireTimer (w.blocking layer worker) i (c.without layer i) r =
      besides layer worker (t.fireTimer w i c r) := by
  unfold fireTimer
  simp only [Cache.entry_without, Cache.generation_without, World.now_mapEarly,
    World.now_blocking, ← World.blocking_mapEarly]
  split
  · rfl
  · split
    · exact blocking_pause
    · rfl

theorem blocking_follow? {i : Nat} {retryAfter deadline : Option Instant} {c : Cache V}
    {r : EarlyRefresh} (signal : Signal) :
    t.follow? (w.blocking layer worker) i retryAfter deadline (c.without layer i) r signal =
      (t.follow? w i retryAfter deadline c r signal).map (besides layer worker) := by
  cases signal with
  | job =>
      simp only [follow?]
      split
      · rfl
      · simp only [takeJob, ← World.blocking_mapEarly]
        rfl
  | notice =>
      simp only [follow?]
      split
      · simp only [takeNotice, ← World.blocking_mapEarly]
        rfl
      · rfl
  | timer =>
      simp only [follow?, World.now_blocking, blocking_fireTimer, apply_ite (Option.map _)]
      rfl

theorem blocking_listen {favoured : Signal} {i : Nat} {retryAfter deadline : Option Instant}
    (other : i ≠ layer) :
    t.listen (w.blocking layer worker) favoured i retryAfter deadline =
      besides layer worker (t.listen w favoured i retryAfter deadline) := by
  unfold listen
  rw [World.cache?_blocking, World.early?_blocking, if_neg other]
  cases w.cache? i with
  | none => exact blocking_retire
  | some c =>
      cases w.early? i with
      | none => exact blocking_retire
      | some r =>
          have hfound : [favoured, .job, .notice, .timer].findSome?
              (t.follow? (w.blocking layer worker) i retryAfter deadline (c.without layer i) r) =
                ([favoured, .job, .notice, .timer].findSome?
                  (t.follow? w i retryAfter deadline c r)).map (besides layer worker) := by
            rw [List.map_findSome?]
            exact congrArg (List.findSome? · _) (funext blocking_follow?)
          simp only [Option.map_some, hfound]
          cases [favoured, .job, .notice, .timer].findSome?
              (t.follow? w i retryAfter deadline c r) with
          | some next => rfl
          | none =>
              simp only [Option.map_none, ← World.blocking_mapEarly]
              rfl

theorem blocking_attend {favoured : Signal} {i : Nat} {retryAfter : Option Instant}
    (other : i ≠ layer) :
    t.attend (w.blocking layer worker) favoured i retryAfter =
      besides layer worker (t.attend w favoured i retryAfter) := by
  have hentry : ((w.blocking layer worker).cache? i).bind Cache.entry =
      (w.cache? i).bind Cache.entry := by
    rw [World.cache?_blocking]
    cases w.cache? i with
    | none => rfl
    | some c => exact c.entry_without
  simp only [attend, hentry, World.early?_blocking, if_neg other]
  exact blocking_listen other

theorem blocking_jobDone {i : Nat} {job : RefreshJob} {retryAfter : Option Instant}
    {outcome : Outcome V} :
    t.jobDone (w.blocking layer worker) i job retryAfter outcome =
      besides layer worker (t.jobDone w i job retryAfter outcome) := by
  cases outcome with
  | value v => rfl
  | failed f =>
      simp only [jobDone, ← World.blocking_mapEarly]
      rfl
  | crashed => exact blocking_retire

theorem blocking_timerDone {i : Nat} {job : RefreshJob} {firedAt : Instant}
    {outcome : Outcome V} :
    t.timerDone (w.blocking layer worker) i job firedAt outcome =
      besides layer worker (t.timerDone w i job firedAt outcome) := by
  cases outcome with
  | value v => rfl
  | failed f =>
      simp only [timerDone, ← World.blocking_mapEarly]
      exact blocking_pause
  | crashed => exact blocking_retire

theorem blocking_abandon {i : Nat} (hides : w.Hides layer worker) :
    t.abandon (w.blocking layer worker) i = besides layer worker (t.abandon w i) := by
  have hqueue : (stopQueueing t.id w t.control).Hides layer worker ∧
      stopQueueing t.id (w.blocking layer worker) t.control =
        (stopQueueing t.id w t.control).blocking layer worker := by
    cases t.control with
    | queued l seen force deadline =>
        exact ⟨hides.withdraw l t.id, (w.blocking_withdraw l t.id (hides.locks l)).symm⟩
    | _ => exact ⟨hides, rfl⟩
  have hload : ∀ (frames : List Frame) (w : World V σ), w.Hides layer worker →
      frames.foldl (stopLoading t.id) (w.blocking layer worker) =
        (frames.foldl (stopLoading t.id) w).blocking layer worker := by
    intro frames
    induction frames with
    | nil => exact fun w _ => rfl
    | cons f frames ih =>
        intro w h
        cases f with
        | load l startedAt =>
            rw [List.foldl_cons, List.foldl_cons, stopLoading,
              ← w.blocking_withdraw l t.id (h.locks l)]
            exact ih _ (h.withdraw l t.id)
        | _ => exact ih w h
  rw [abandon, abandon, hqueue.2, hload _ _ hqueue.1]
  exact blocking_retire

/-! ### Outcomes and requests -/

theorem blocking_retried {i : Nat} {force : Bool} {outcome : Outcome V} :
    t.retried (w.blocking layer worker) i force outcome =
      besides layer worker (t.retried w i force outcome) := by
  unfold retried
  split
  · rw [besides_ite]
    rfl
  · rfl

theorem blocking_bridged {i : Nat} {force : Bool} {outcome : Outcome V} :
    t.bridged (w.blocking layer worker) i force outcome =
      besides layer worker (t.bridged w i force outcome) := by
  unfold bridged
  rw [World.layers_blocking, World.now_blocking]
  cases w.layers[i]? with
  | none => rfl
  | some l =>
      cases l with
      | outage timeToLive stored =>
          cases outcome with
          | value v =>
              simp only [Option.map_some, Layer.mapCache]
              split
              · rfl
              next expiresAt _ =>
                have hset :
                    (w.setLayer i (.outage timeToLive (some ⟨v, w.now, expiresAt⟩))).blocking
                        layer worker =
                      (w.blocking layer worker).setLayer i
                        (.outage timeToLive (some ⟨v, w.now, expiresAt⟩)) :=
                  w.blocking_setLayer i _
                rw [← hset]
                rfl
          | failed f =>
              cases stored with
              | none => rfl
              | some e =>
                  simp only [Option.map_some, Layer.mapCache, besides_ite]
                  rfl
          | crashed => cases stored <;> rfl
      | retry | rateLimit _ | health _ | cache _ => rfl

theorem blocking_observed {i : Nat} {outcome : Outcome V} :
    t.observed (w.blocking layer worker) i outcome =
      besides layer worker (t.observed w i outcome) := by
  unfold observed
  rw [World.layers_blocking]
  cases w.layers[i]? with
  | none => cases outcome <;> rfl
  | some l =>
      cases l with
      | health h =>
          have hset : (w.setLayer i (.health (h.observe outcome.isValue))).blocking layer worker =
              (w.blocking layer worker).setLayer i (.health (h.observe outcome.isValue)) :=
            w.blocking_setLayer i _
          cases outcome <;> simp only [Option.map_some, Layer.mapCache, ← hset] <;> rfl
      | retry | outage _ _ | rateLimit _ | cache _ => cases outcome <;> rfl

theorem blocking_queried {i seen : Nat} {outcome : Outcome V} :
    t.queried (w.blocking layer worker) i seen outcome =
      besides layer worker (t.queried w i seen outcome) := by
  have hhealth : ((w.blocking layer worker).layers[i]?).bind Layer.health? =
      (w.layers[i]?).bind Layer.health? := by
    rw [World.layers_blocking]
    cases w.layers[i]? with
    | none => rfl
    | some l => cases l <;> rfl
  unfold queried
  rw [hhealth]
  split <;> rfl

theorem blocking_deliver [Perishable V] {outcome : Outcome V} (hides : w.Hides layer worker) :
    t.deliver (w.blocking layer worker) outcome =
      besides layer worker (t.deliver w outcome) := by
  unfold deliver
  split
  · rfl
  · simp only
    split
    · exact blocking_retried
    · exact blocking_bridged
    · exact blocking_observed
    · exact blocking_refreshed hides
    · exact blocking_queried
    · exact blocking_jobDone
    · exact blocking_timerDone

theorem blocking_start [Source σ V C] (hides : w.Hides layer worker) :
    t.start (w.blocking layer worker) = besides layer worker (t.start w) := by
  unfold start
  split
  · rw [World.length_layers_blocking]
    rfl
  next refresh _ =>
    unfold ask
    rw [World.healthLayer?_blocking]
    cases w.healthLayer? with
    | none => rfl
    | some found =>
        simp only [besides_ite]
        rfl
  · unfold close
    rw [← World.blocking_stopWorkers hides]
    have hclose : Source.close (V := V) (C := C) (w.stopWorkers.blocking layer worker).now
        (w.stopWorkers.blocking layer worker).source =
          Source.close (V := V) (C := C) w.stopWorkers.now w.stopWorkers.source := rfl
    simp only [hclose]
    split <;> rfl
  · rfl
  · rfl
  · rfl

/-- A step of a task other than the worker is the same without the worker. -/
theorem blocking_step [Source σ V C] [Perishable V] {favoured : Signal} (shaped : t.Shaped)
    (other : t.request ≠ .work layer) (hides : w.Hides layer worker)
    (clock : ∀ r, w.early? layer = some r → (w.now.later? r.window).isSome = true) :
    t.step (w.blocking layer worker) favoured = besides layer worker (t.step w favoured) := by
  have hadvance : t.advance (w.blocking layer worker) favoured =
      besides layer worker (t.advance w favoured) := by
    unfold advance
    split
    · exact blocking_start hides
    · exact blocking_enter hides clock
    · exact blocking_callSource
    · exact blocking_acquire
    · exact blocking_stopWaiting
    · exact blocking_refresh hides
    · exact blocking_resumeCall
    · exact blocking_deliver hides
    next control =>
      rw [Shaped, control] at shaped
      exact blocking_attend fun e => other (e ▸ shaped.1)
    next control =>
      rw [Shaped, control] at shaped
      exact blocking_listen fun e => other (e ▸ shaped.1)
    · rw [World.now_blocking, besides_ite]
      rfl
    · rfl
    · rfl
  have hstopped : t.isStopped (w.blocking layer worker) = t.isStopped w := by
    unfold isStopped
    split
    next i request =>
      rw [World.early?_blocking, if_neg]
      rintro rfl
      exact other request
    · rfl
  unfold step
  rw [hstopped]
  split
  · exact blocking_abandon hides
  · exact hadvance

end Task

end CredentialSupply
