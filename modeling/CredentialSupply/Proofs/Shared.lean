import CredentialSupply.Proofs.Parties
import CredentialSupply.Stack.Step

set_option autoImplicit false

/-!
# What the operations on a world keep

Each operation on a `World` changes the cache at one layer, in one way, or no cache at all,
and none moves the clock. The lemmas here say so once for each operation, as equations for
`cache?` and `now`.
-/

namespace CredentialSupply

variable {V σ C : Type}

namespace World

theorem cache?_eq_some_iff (w : World V σ) (layer : Nat) (c : Cache V) :
    w.cache? layer = some c ↔ w.layers[layer]? = some (.cache c) := by
  rw [cache?]
  cases h : w.layers[layer]? with
  | none => simp
  | some l => cases l <;> simp [Layer.cache?]

theorem early?_eq (w : World V σ) {layer : Nat} {c : Cache V} (h : w.cache? layer = some c) :
    w.early? layer = c.early := by
  simp [early?, h]

@[simp] theorem cache?_count (w : World V σ) (meter : Nat) (event : Event) (layer : Nat) :
    (w.count meter event).cache? layer = w.cache? layer := rfl

@[simp] theorem now_count (w : World V σ) (meter : Nat) (event : Event) :
    (w.count meter event).now = w.now := rfl

@[simp] theorem cache?_wake (w : World V σ) (id : TaskId) (layer : Nat) :
    (w.wake id).cache? layer = w.cache? layer := by
  rw [wake]
  split <;> rfl

@[simp] theorem now_wake (w : World V σ) (id : TaskId) : (w.wake id).now = w.now := by
  rw [wake]
  split <;> rfl

@[simp] theorem cache?_rouse (w : World V σ) (i layer : Nat) :
    (w.rouse i).cache? layer = w.cache? layer := by
  rw [rouse]
  split
  · rfl
  · split <;> simp

@[simp] theorem now_rouse (w : World V σ) (i : Nat) : (w.rouse i).now = w.now := by
  rw [rouse]
  split
  · rfl
  · split <;> simp

/-- To wake a worker changes nothing but who is woken. -/
theorem exists_rouse_eq (w : World V σ) (i : Nat) : ∃ ready, w.rouse i = { w with ready } := by
  unfold rouse
  split
  · exact ⟨w.ready, rfl⟩
  · split
    · unfold wake
      split
      · exact ⟨w.ready, rfl⟩
      · exact ⟨_, rfl⟩
    · exact ⟨w.ready, rfl⟩

@[simp] theorem cache?_setSource (w : World V σ) (s : σ) (source : Option Nat) (layer : Nat) :
    (w.setSource s source).cache? layer = w.cache? layer := by
  cases source <;> rfl

@[simp] theorem now_setSource (w : World V σ) (s : σ) (source : Option Nat) :
    (w.setSource s source).now = w.now := by
  cases source <;> rfl

theorem cache?_mapCache (w : World V σ) (i layer : Nat) (f : Cache V → Cache V) :
    (w.mapCache i f).cache? layer =
      if i = layer then (w.cache? layer).map f else w.cache? layer := by
  unfold cache? mapCache
  simp only [List.getElem?_modify]
  cases w.layers[layer]? with
  | none => simp
  | some l =>
      by_cases h : i = layer
      · cases l <;> simp [h, Layer.mapCache, Layer.cache?]
      · simp [h]

@[simp] theorem now_mapCache (w : World V σ) (i : Nat) (f : Cache V → Cache V) :
    (w.mapCache i f).now = w.now := rfl

theorem cache?_mapEarly (w : World V σ) (i layer : Nat) (f : EarlyRefresh → EarlyRefresh) :
    (w.mapEarly i f).cache? layer =
      if i = layer then (w.cache? layer).map (·.mapEarly f) else w.cache? layer :=
  cache?_mapCache w i layer (·.mapEarly f)

theorem cache?_mapEarly_of_ne (w : World V σ) {i layer : Nat} (f : EarlyRefresh → EarlyRefresh)
    (h : i ≠ layer) : (w.mapEarly i f).cache? layer = w.cache? layer := by
  simp [cache?_mapEarly, h]

theorem cache?_mapEarly_of_some {w : World V σ} {layer : Nat} {c : Cache V} {r : EarlyRefresh}
    (f : EarlyRefresh → EarlyRefresh) (h : w.cache? layer = some c) (he : c.early = some r) :
    (w.mapEarly layer f).cache? layer = some { c with early := some (f r) } := by
  simp [cache?_mapEarly, h, Cache.mapEarly, he]

@[simp] theorem now_mapEarly (w : World V σ) (i : Nat) (f : EarlyRefresh → EarlyRefresh) :
    (w.mapEarly i f).now = w.now := rfl

/-- A layer that is replaced by another cache is this cache; one that was no cache and becomes
none leaves all caches. -/
theorem cache?_setLayer (w : World V σ) {i : Nat} {l : Layer V} (layer : Nat)
    (h : w.layers[i]? = some l) (l' : Layer V) :
    (w.setLayer i l').cache? layer = if i = layer then l'.cache? else w.cache? layer := by
  unfold cache? setLayer
  by_cases hi : i = layer
  · subst hi
    obtain ⟨hlt, -⟩ := List.getElem?_eq_some_iff.1 h
    simp [hlt]
  · simp [hi, List.getElem?_set_ne hi]

@[simp] theorem now_setLayer (w : World V σ) (i : Nat) (l : Layer V) :
    (w.setLayer i l).now = w.now := rfl

/-- A layer that is no cache before and after its change leaves all caches. -/
theorem cache?_setLayer_of_none (w : World V σ) {i : Nat} {l l' : Layer V} (layer : Nat)
    (h : w.layers[i]? = some l) (hl : l.cache? = none) (hl' : l'.cache? = none) :
    (w.setLayer i l').cache? layer = w.cache? layer := by
  rw [cache?_setLayer w layer h]
  split
  next hi =>
    subst hi
    simp [cache?, h, hl, hl']
  · rfl

@[simp] theorem cache?_release (w : World V σ) (i layer : Nat) :
    (w.release i).cache? layer =
      if i = layer then (w.cache? layer).map fun c => { c with lock := c.lock.release }
      else w.cache? layer := by
  rw [release]
  by_cases hi : i = layer
  · subst hi
    cases hc : w.cache? i with
    | none => simp [hc]
    | some c =>
        simp only [if_true]
        split <;> simp [cache?_mapCache, hc]
  · simp only [hi, if_false]
    split
    · rfl
    · split <;> simp [cache?_mapCache, hi]

@[simp] theorem now_release (w : World V σ) (i : Nat) : (w.release i).now = w.now := by
  rw [release]
  split
  · rfl
  · simp only
    split <;> simp

theorem cache?_withdraw (w : World V σ) (i layer : Nat) (id : TaskId) :
    (w.withdraw i id).cache? layer =
      if i = layer then (w.cache? layer).map fun c => { c with lock := c.lock.withdraw id }
      else w.cache? layer := by
  rw [withdraw]
  by_cases hi : i = layer
  · subst hi
    cases hc : w.cache? i with
    | none => simp [hc]
    | some c =>
        simp only [if_true, Option.map_some]
        by_cases held : c.lock.isHeldBy id = true
        · simp [held, hc, Lock.withdraw]
        · simp [held, hc, cache?_mapCache, Lock.withdraw]
  · simp only [hi, if_false]
    split
    · rfl
    · split <;> simp [cache?_mapCache, hi]

@[simp] theorem now_withdraw (w : World V σ) (i : Nat) (id : TaskId) :
    (w.withdraw i id).now = w.now := by
  rw [withdraw]
  split
  · rfl
  · split <;> simp

end World

/-! ## Workers that are told to end -/

namespace Cache

/-- The cache whose worker has been told to end. -/
def told (c : Cache V) : Cache V := c.mapEarly ({ · with stopped := true })

@[simp] theorem entry_told (c : Cache V) : c.told.entry = c.entry := rfl

@[simp] theorem generation_told (c : Cache V) : c.told.generation = c.generation := rfl

@[simp] theorem lock_told (c : Cache V) : c.told.lock = c.lock := rfl

@[simp] theorem settings_told (c : Cache V) : c.told.settings = c.settings := rfl

@[simp] theorem early_told (c : Cache V) :
    c.told.early = c.early.map ({ · with stopped := true }) := rfl

end Cache

namespace World

theorem cache?_stopWorker (w : World V σ) (i : Nat) {layer : Nat} {c : Cache V}
    (h : w.cache? layer = some c) :
    (w.stopWorker i).cache? layer = some c ∨ (w.stopWorker i).cache? layer = some c.told := by
  rw [stopWorker]
  split
  · exact Or.inl h
  · split
    · by_cases hi : i = layer
      · right
        simp [cache?_mapEarly, hi, h, Cache.told]
      · left
        simp [cache?_mapEarly, hi, h]
    · exact Or.inl h

theorem told_told (c : Cache V) : c.told.told = c.told := by
  cases h : c.early <;> simp [Cache.told, Cache.mapEarly, h]

/-- When all workers are told to end, a cache stays as it is but for that. -/
theorem cache?_foldl_stopWorker (is : List Nat) (w : World V σ) {layer : Nat} {c : Cache V}
    (h : w.cache? layer = some c) :
    (is.foldl stopWorker w).cache? layer = some c ∨
      (is.foldl stopWorker w).cache? layer = some c.told := by
  induction is generalizing w c with
  | nil => exact Or.inl h
  | cons i is ih =>
      rcases cache?_stopWorker w i h with h | h
      · exact ih (w.stopWorker i) h
      · rcases ih (w.stopWorker i) h with h | h
        · exact Or.inr h
        · rw [told_told] at h
          exact Or.inr h

theorem cache?_stopWorkers {w : World V σ} {layer : Nat} {c : Cache V}
    (h : w.cache? layer = some c) :
    w.stopWorkers.cache? layer = some c ∨ w.stopWorkers.cache? layer = some c.told :=
  cache?_foldl_stopWorker _ w h

end World

end CredentialSupply
