import CredentialSupply.Proofs.Shared

set_option autoImplicit false

/-!
# What a stack holds

The `Content` of a world is what its layers, its meters and the record of its calls hold, and the
clock: all but who waits for whom, and what the worker of a cache is up to. Each operation on a
world either leaves the content or changes it in one way, and the lemmas here say so once for each
operation. Where a value comes from and how the counts balance depend on the content alone.
-/

namespace CredentialSupply

variable {V σ C : Type}

/-- What a layer is from the start: its kind and its settings. -/
inductive Kind where
  | retry
  | outage (timeToLive : Span)
  | rateLimit
  | health (target : Option HealthTarget)
  | cache (settings : CacheSettings) (meter : Nat)

namespace Layer

/-- What the layer is from the start. -/
def kind : Layer V → Kind
  | .retry => .retry
  | .outage timeToLive _ => .outage timeToLive
  | .rateLimit _ => .rateLimit
  | .health h => .health h.target
  | .cache c => .cache c.settings c.meter

/-- The layer without the lock and the worker of a cache. -/
def content : Layer V → Layer V
  | .cache c => .cache { c with lock := Lock.free, early := none }
  | layer => layer

/-- The entry that the layer keeps. -/
def kept? : Layer V → Option (Entry V)
  | .outage _ stored => stored
  | .cache c => c.entry
  | _ => none

@[simp] theorem kind_content (l : Layer V) : l.content.kind = l.kind := by
  cases l <;> rfl

end Layer

/-- What a stack holds at an instant. -/
structure Content (V : Type) where
  now : Instant
  layers : List (Layer V)
  meters : Meters
  calls : List SourceCall

namespace Content

/-- The content with one layer replaced. -/
def setLayer (k : Content V) (layer : Nat) (l : Layer V) : Content V :=
  { k with layers := k.layers.set layer l }

/-- The content after an event is counted. -/
def count (k : Content V) (meter : Nat) (event : Event) : Content V :=
  { k with meters := k.meters.record meter event }

/-- What the layers are from the start, innermost first. -/
def kinds (k : Content V) : List Kind := k.layers.map Layer.kind

@[simp] theorem now_setLayer (k : Content V) (i : Nat) (l : Layer V) :
    (k.setLayer i l).now = k.now := rfl

@[simp] theorem meters_setLayer (k : Content V) (i : Nat) (l : Layer V) :
    (k.setLayer i l).meters = k.meters := rfl

@[simp] theorem calls_setLayer (k : Content V) (i : Nat) (l : Layer V) :
    (k.setLayer i l).calls = k.calls := rfl

@[simp] theorem now_count (k : Content V) (meter : Nat) (event : Event) :
    (k.count meter event).now = k.now := rfl

@[simp] theorem layers_count (k : Content V) (meter : Nat) (event : Event) :
    (k.count meter event).layers = k.layers := rfl

@[simp] theorem calls_count (k : Content V) (meter : Nat) (event : Event) :
    (k.count meter event).calls = k.calls := rfl

@[simp] theorem kinds_count (k : Content V) (meter : Nat) (event : Event) :
    (k.count meter event).kinds = k.kinds := rfl

/-- What stands at a layer after one has been replaced. -/
theorem getElem?_setLayer {k : Content V} {i j : Nat} {l x : Layer V}
    (h : (k.setLayer i l).layers[j]? = some x) : j = i ∧ x = l ∨ j ≠ i ∧ k.layers[j]? = some x := by
  rw [setLayer] at h
  by_cases hj : j = i
  · subst hj
    have hlt : j < k.layers.length := by
      have hset := (List.getElem?_eq_some_iff.1 h).1
      rwa [List.length_set] at hset
    rw [List.getElem?_set_self hlt] at h
    exact Or.inl ⟨rfl, (Option.some.inj h).symm⟩
  · rw [List.getElem?_set_ne (Ne.symm hj)] at h
    exact Or.inr ⟨hj, h⟩

theorem kinds_setLayer {k : Content V} {i : Nat} {l l' : Layer V} (h : k.layers[i]? = some l)
    (hkind : l'.kind = l.kind) : (k.setLayer i l').kinds = k.kinds := by
  apply List.ext_getElem?
  intro j
  by_cases hj : i = j
  · subst hj
    obtain ⟨hlt, hl⟩ := List.getElem?_eq_some_iff.1 h
    simp [kinds, setLayer, hlt, hl, hkind]
  · simp [kinds, setLayer, List.getElem?_set_ne hj]

theorem kinds_getElem? {k : Content V} {i : Nat} {l : Layer V} (h : k.layers[i]? = some l) :
    k.kinds[i]? = some l.kind := by
  simp [kinds, h]

theorem length_kinds (k : Content V) : k.kinds.length = k.layers.length := List.length_map _

end Content

namespace World

/-- What the world holds. -/
def content (w : World V σ) : Content V := ⟨w.now, w.layers.map Layer.content, w.meters, w.calls⟩

@[simp] theorem now_content (w : World V σ) : w.content.now = w.now := rfl

@[simp] theorem meters_content (w : World V σ) : w.content.meters = w.meters := rfl

@[simp] theorem calls_content (w : World V σ) : w.content.calls = w.calls := rfl

theorem layers_content {w : World V σ} {i : Nat} {l : Layer V} (h : w.layers[i]? = some l) :
    w.content.layers[i]? = some l.content := by
  simp [content, h]

theorem layers_content_none {w : World V σ} {i : Nat} (h : w.layers[i]? = none) :
    w.content.layers[i]? = none := by
  simp only [content, List.getElem?_map, h, Option.map_none]

theorem length_content (w : World V σ) : w.content.layers.length = w.layers.length :=
  List.length_map _

/-- The entry, the generation, the settings and the meter of a cache are content. -/
theorem layers_content_cache {w : World V σ} {i : Nat} {c : Cache V} (h : w.cache? i = some c) :
    w.content.layers[i]? = some (.cache { c with lock := Lock.free, early := none }) :=
  layers_content ((cache?_eq_some_iff w i c).1 h)

/-- A layer that is no cache is none in the content. -/
theorem not_cache_content {w : World V σ} {i : Nat} (h : w.cache? i = none) (c : Cache V) :
    w.content.layers[i]? ≠ some (.cache c) := by
  intro hl
  simp only [content, List.getElem?_map, Option.map_eq_some_iff] at hl
  obtain ⟨l, hl, hc⟩ := hl
  rw [cache?, hl, Option.bind_some] at h
  cases l with
  | cache _ => simp [Layer.cache?] at h
  | retry | outage _ _ | rateLimit _ | health _ => cases hc

/-- A layer other than a cache is all content. -/
theorem layers_of_content {w : World V σ} {i : Nat} {l : Layer V}
    (h : w.content.layers[i]? = some l) (other : ∀ c, l ≠ .cache c) : w.layers[i]? = some l := by
  simp only [content, List.getElem?_map, Option.map_eq_some_iff] at h
  obtain ⟨x, hx, rfl⟩ := h
  cases x with
  | cache c => exact absurd rfl (other _)
  | retry | outage _ _ | rateLimit _ | health _ => exact hx

/-- The layer that a health query asks is a record of health. -/
theorem layers_of_healthLayer? {w : World V σ} {i : Nat} {h : HealthRecord}
    (hl : w.healthLayer? = some (i, h)) : w.layers[i]? = some (.health h) := by
  obtain ⟨⟨l, j⟩, hmem, hl⟩ := List.exists_of_findSome?_eq_some hl
  simp only [Option.map_eq_some_iff, Prod.mk.injEq] at hl
  obtain ⟨h', hh', rfl, rfl⟩ := hl
  have hj := List.mem_zipIdx_iff_getElem?.1 (List.mem_reverse.1 hmem)
  rw [hj]
  cases l <;> cases hh'
  rfl

theorem content_count (w : World V σ) (meter : Nat) (event : Event) :
    (w.count meter event).content = w.content.count meter event := rfl

theorem content_setLayer (w : World V σ) (i : Nat) (l : Layer V) :
    (w.setLayer i l).content = w.content.setLayer i l.content := by
  simp [content, setLayer, Content.setLayer, List.map_set]

@[simp] theorem content_wake (w : World V σ) (id : TaskId) : (w.wake id).content = w.content := by
  rw [wake]
  split <;> rfl

@[simp] theorem content_rouse (w : World V σ) (i : Nat) : (w.rouse i).content = w.content := by
  obtain ⟨ready, h⟩ := exists_rouse_eq w i
  rw [h]
  rfl

@[simp] theorem content_setSource (w : World V σ) (s : σ) (source : Option Nat) :
    (w.setSource s source).content = w.content := by
  cases source <;> rfl

/-- A change of the lock or the worker of a cache is no change of the content. -/
theorem content_mapCache {w : World V σ} (i : Nat) {f : Cache V → Cache V}
    (h : ∀ c, Layer.content (.cache (f c)) = Layer.content (.cache c)) :
    (w.mapCache i f).content = w.content := by
  have hlayers : (w.mapCache i f).layers.map Layer.content = w.layers.map Layer.content := by
    apply List.ext_getElem?
    intro j
    by_cases hj : i = j
    · subst hj
      cases hl : w.layers[i]? with
      | none => simp [mapCache, hl]
      | some l => cases l <;> simp [mapCache, hl, Layer.mapCache, h]
    · simp [mapCache, hj]
  rw [content, content, hlayers]
  rfl

@[simp] theorem content_mapEarly (w : World V σ) (i : Nat) (f : EarlyRefresh → EarlyRefresh) :
    (w.mapEarly i f).content = w.content := content_mapCache i fun _ => rfl

/-- A cache that installs an entry does so in the content. -/
theorem content_install {w : World V σ} {i : Nat} {c : Cache V} (h : w.cache? i = some c)
    (e : Entry V) :
    (w.mapCache i (·.install e)).content = w.content.setLayer i
      (.cache (Cache.install { c with lock := Lock.free, early := none } e)) := by
  have hl := (cache?_eq_some_iff w i c).1 h
  have hset : w.mapCache i (·.install e) = w.setLayer i (.cache (c.install e)) := by
    rw [mapCache, setLayer]
    congr 1
    apply List.ext_getElem?
    intro j
    by_cases hj : i = j
    · subst hj
      obtain ⟨hlt, heq⟩ := List.getElem?_eq_some_iff.1 hl
      simp [heq, hlt, Layer.mapCache]
    · simp [hj]
  rw [hset, content_setLayer]
  rfl

@[simp] theorem content_release (w : World V σ) (i : Nat) : (w.release i).content = w.content := by
  rw [release]
  split
  · rfl
  · simp only
    split
    · exact content_mapCache i fun _ => rfl
    · rw [content_wake]
      exact content_mapCache i fun _ => rfl

@[simp] theorem content_withdraw (w : World V σ) (i : Nat) (id : TaskId) :
    (w.withdraw i id).content = w.content := by
  rw [withdraw]
  split
  · rfl
  · split
    · exact content_release w i
    · exact content_mapCache i fun _ => rfl

@[simp] theorem content_stopWorker (w : World V σ) (i : Nat) :
    (w.stopWorker i).content = w.content := by
  rw [stopWorker]
  split
  · rfl
  · split
    · rw [content_wake, content_mapEarly]
    · rfl

@[simp] theorem content_stopWorkers (w : World V σ) : w.stopWorkers.content = w.content := by
  rw [stopWorkers]
  generalize (List.range w.layers.length).reverse = is
  induction is generalizing w with
  | nil => rfl
  | cons i is ih =>
      rw [List.foldl_cons, ih, content_stopWorker]

theorem content_foldl_wake (ts : List (Task V C)) (w : World V σ) :
    (ts.foldl (fun w t => w.wake t.id) w).content = w.content := by
  induction ts generalizing w with
  | nil => rfl
  | cons t ts ih =>
      rw [List.foldl_cons, ih]
      exact content_wake w t.id

/-- What a stopped worker gives up is no content. -/
theorem content_stopQueueing (id : TaskId) (w : World V σ) (control : Control V C) :
    (Task.stopQueueing id w control).content = w.content := by
  cases control <;> first | rfl | exact content_withdraw w _ id

theorem content_foldl_stopLoading (id : TaskId) (frames : List Frame) (w : World V σ) :
    (frames.foldl (Task.stopLoading id) w).content = w.content := by
  induction frames generalizing w with
  | nil => rfl
  | cons f frames ih =>
      rw [List.foldl_cons, ih]
      cases f <;> first | rfl | exact content_withdraw w _ id

end World

end CredentialSupply
