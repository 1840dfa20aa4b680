import CredentialSupply.Proofs.Chain

set_option autoImplicit false

/-!
# Below the cache of a chain

In a chain with a cache every fetch comes to the cache first: health queries start at the top like
all others, and the worker refreshes the cache itself. So whatever happens in a layer below is part
of an inner call of the cache (`Sheltered`), and every step keeps it so (`Stride.sheltered`).
-/

namespace CredentialSupply

variable {V σ C : Type}

/-- The outermost layer is the only cache and counts in the first meter, and health queries fetch at
the top. -/
structure Capped (kinds : List Kind) (top : Nat) : Prop where
  length : kinds.length = top + 1
  cache : ∀ (i : Nat) (settings : CacheSettings) (meter : Nat),
    kinds[i]? = some (.cache settings meter) → i = top ∧ meter = 0
  capped : ∃ settings meter, kinds[top]? = some (.cache settings meter)
  health : ∀ (i : Nat) (target : Option HealthTarget),
    kinds[i]? = some (.health target) → target = some (.level (top + 1))

/-- A chain with a cache. -/
theorem Config.exists_capped {c : Config} (cached : c.cached = true) :
    ∃ top, Capped c.kinds top := by
  obtain ⟨top, hlength, htop⟩ := exists_cache cached
  refine ⟨top, hlength.symm, ?_, ⟨_, _, htop⟩, ?_⟩
  · intro i settings meter h
    obtain ⟨-, hi, -, hmeter⟩ := cache_kind h
    exact ⟨by omega, hmeter⟩
  · intro i target h
    rw [health_kind h, hlength]

/-- The task is in an inner call of the cache. -/
def Task.isLoading (top : Nat) (t : Task V C) : Bool := t.frames.any (Frame.isLoad top)

/-- Frames of layers below the cache stand in an inner call of the cache. -/
def Sheltered (top : Nat) : List Frame → Prop
  | [] => True
  | .retry layer _ :: frames | .outage layer _ :: frames | .health layer :: frames =>
      layer < top ∧ frames.any (Frame.isLoad top) = true ∧ Sheltered top frames
  | .load layer _ :: frames => layer = top ∧ Sheltered top frames
  | .query _ _ :: frames | .job _ _ _ :: frames | .timer _ _ _ :: frames => Sheltered top frames

/-- A task that is below the cache is in an inner call of the cache. -/
def Task.Sheltered (top : Nat) (t : Task V C) : Prop :=
  CredentialSupply.Sheltered top t.frames ∧
    match t.control with
    | .enter level _ => level ≤ top + 1 ∧ (level ≤ top → t.isLoading top = true)
    | .queued layer _ _ _ | .locked layer _ _ => layer = top
    | _ => True

/-- Whether a task with this control neither enters a layer nor stands at a lock. -/
def Control.isPlain : Control V C → Bool
  | .enter _ _ | .queued _ _ _ _ | .locked _ _ _ => false
  | _ => true

theorem Control.isPlain_of_isIdle {x : Control V C} (h : x.isIdle = true) : x.isPlain = true := by
  cases x <;> first | rfl | cases h

theorem Sheltered.suffix {top : Nat} {frames frames' : List Frame} (h : Sheltered top frames)
    (sub : frames' <:+ frames) : Sheltered top frames' := by
  induction frames with
  | nil =>
      rw [List.suffix_nil.1 sub]
      trivial
  | cons f frames ih =>
      rcases List.suffix_cons_iff.1 sub with rfl | sub
      · exact h
      · apply ih _ sub
        cases f with
        | retry | outage | health => exact h.2.2
        | load => exact h.2
        | query | job | timer => exact h

/-- A frame of another kind makes no difference to the inner call. -/
theorem Task.isLoading_pop {top : Nat} {t : Task V C} {f : Frame} {frames : List Frame}
    (head : t.frames = f :: frames) (hf : f.isLoad top = false) (x : Control V C) :
    Task.isLoading top { t with frames, control := x } = t.isLoading top := by
  simp [isLoading, head, hf]

theorem Task.isLoading_await (top : Nat) (t : Task V C) (source : Option Nat)
    (progress : Progress V C) : (t.await source progress).isLoading top = t.isLoading top := by
  rw [isLoading, frames_await, isLoading]

/-- The inner call ends with its frame. -/
theorem Task.Sheltered.load_ends {top layer : Nat} {t : Task V C} {startedAt : Instant}
    {frames : List Frame} {outcome : Outcome V} (sheltered : t.Sheltered top) (shaped : t.Shaped)
    (control : t.control = .deliver outcome) (head : t.frames = .load layer startedAt :: frames) :
    layer = top ∧ t.isLoading top = true ∧ frames.any (Frame.isLoad top) = false := by
  have hframes := sheltered.1
  rw [head] at hframes
  obtain ⟨rfl, -⟩ := hframes
  obtain ⟨depth, hn⟩ := shaped.of_deliver control head
  exact ⟨rfl, by simp [isLoading, head, Frame.isLoad], hn.2.not_isLoad (by omega)⟩

section Stride

variable [Perishable V] {top : Nat} {t t' : Task V C} {k k' : Content V}

omit [Perishable V] in
/-- Only the cache is at the top. -/
theorem Capped.eq_top (capped : Capped k.kinds top) {i : Nat} {c : Cache V}
    (here : k.layers[i]? = some (.cache c)) : i = top ∧ c.meter = 0 :=
  capped.cache i c.settings c.meter (Content.kinds_getElem? here)

omit [Perishable V] in
theorem Capped.ne_top (capped : Capped k.kinds top) {i : Nat} {l : Layer V}
    (here : k.layers[i]? = some l) (other : ∀ c, l ≠ .cache c) : i ≠ top := by
  rintro rfl
  obtain ⟨settings, meter, hcache⟩ := capped.capped
  rw [Content.kinds_getElem? here] at hcache
  cases l with
  | cache c => exact other c rfl
  | retry | outage _ _ | rateLimit _ | health _ => cases hcache

omit [Perishable V] in
/-- A health query fetches at the top. -/
theorem Capped.aim (capped : Capped k.kinds top) {i : Nat} {h : HealthRecord}
    (here : k.layers[i]? = some (.health h)) :
    (h.aim i : Control V C) = .enter (top + 1) false := by
  have htarget := capped.health i h.target (Content.kinds_getElem? here)
  rw [HealthRecord.aim, htarget]

omit [Perishable V] in
/-- A fetch goes through layers of the chain. -/
theorem Task.Sheltered.not_missing (sheltered : t.Sheltered top) (capped : Capped k.kinds top)
    {layer : Nat} {force : Bool} (control : t.control = .enter (layer + 1) force) :
    k.layers[layer]? ≠ none := by
  intro missing
  have hlt := List.getElem?_eq_none_iff.1 missing
  have hcontrol := sheltered.2
  rw [control] at hcontrol
  have hlength := capped.length
  rw [Content.length_kinds] at hlength
  have hle := hcontrol.1
  omega

omit [Perishable V] in
/-- A cache leaves no frame. -/
theorem Layer.ne_cache_of_frame? {layer : Nat} {force : Bool} {l : Layer V} {f : Frame}
    (h : l.frame? layer force = some f) (c : Cache V) : l ≠ .cache c := by
  rintro rfl
  cases h

omit [Perishable V] in
/-- A fetch that goes through another layer than the cache is in an inner call of the cache. -/
theorem Task.Sheltered.below (sheltered : t.Sheltered top) (capped : Capped k.kinds top)
    {layer : Nat} {l : Layer V} {force : Bool} (control : t.control = .enter (layer + 1) force)
    (here : k.layers[layer]? = some l) (other : ∀ c, l ≠ .cache c) :
    layer < top ∧ t.isLoading top = true := by
  have hcontrol := sheltered.2
  rw [control] at hcontrol
  have hne := capped.ne_top here other
  have hle := hcontrol.1
  exact ⟨by omega, hcontrol.2 (by omega)⟩

/-- Every step keeps what is below the cache in an inner call of the cache. -/
theorem Stride.sheltered (shaped : t.Shaped) (capped : Capped k.kinds top) (h : Stride t k t' k')
    (sheltered : t.Sheltered top) : t'.Sheltered top := by
  obtain ⟨hframes, hcontrol⟩ := id sheltered
  have hplain : ∀ {x : Control V C} {frames : List Frame}, frames <:+ t.frames →
      x.isPlain = true → Task.Sheltered top { t with frames, control := x } := by
    intro x frames sub hx
    refine ⟨hframes.suffix sub, ?_⟩
    cases x <;> trivial
  cases h with
  | stay => exact ⟨hframes, hcontrol⟩
  | rest idle idle' answer =>
      exact hplain (List.suffix_refl _) (Control.isPlain_of_isIdle idle')
  | start control request =>
      have hlength := capped.length
      rw [Content.length_kinds] at hlength
      refine ⟨hframes, ?_⟩
      simp only [Task.goto, hlength]
      exact ⟨Nat.le_refl _, fun h => absurd h (Nat.not_succ_le_self top)⟩
  | @query layer record refresh control request here =>
      rw [capped.aim here]
      refine ⟨?_, Nat.le_refl _, fun h => absurd h (Nat.not_succ_le_self top)⟩
      simp [Task.push, shaped.of_begin control, CredentialSupply.Sheltered]
  | skip control missing =>
      exact absurd missing (sheltered.not_missing capped control)
  | @wrap layer force l f control here frame =>
      obtain ⟨hlt, hloading⟩ :=
        sheltered.below capped control here (Layer.ne_cache_of_frame? frame)
      have hnew : CredentialSupply.Sheltered top (f :: t.frames) ∧
          (f :: t.frames).any (Frame.isLoad top) = true := by
        refine ⟨?_, by rw [List.any_cons, Bool.or_eq_true]; exact Or.inr hloading⟩
        cases l <;> cases frame <;> exact ⟨hlt, hloading, hframes⟩
      exact ⟨hnew.1, by omega, fun _ => hnew.2⟩
  | @grant layer force b b' control here =>
      obtain ⟨hlt, hloading⟩ := sheltered.below capped control here (by simp)
      exact ⟨hframes, by omega, fun _ => hloading⟩
  | @call source force progress control =>
      cases progress <;> exact hplain (List.suffix_refl _) rfl
  | @resume source due call progress control =>
      cases progress <;> exact hplain (List.suffix_refl _) rfl
  | ask control here control' =>
      have htop := (capped.eq_top here).1
      rcases control' with rfl | ⟨deadline, rfl⟩ <;> exact ⟨hframes, htop⟩
  | @load layer seen force control =>
      -- all that follows is above the frame of this inner call
      rw [control] at hcontrol
      obtain rfl : layer = top := hcontrol
      refine ⟨⟨rfl, hframes⟩, by omega, fun _ => ?_⟩
      simp [Task.isLoading, Task.push, Frame.isLoad]
  | @retry layer force frames f control head =>
      rw [head] at hframes
      obtain ⟨hlt, hloading, hrest⟩ := hframes
      exact ⟨hrest, by omega, fun _ => hloading⟩
  | store control head | serve control head | observe control head | pass control head
  | install control head | fail control head | report control head =>
      exact hplain (by rw [head]; exact List.suffix_cons _ _) rfl
  | crash control' frames' =>
      refine ⟨hframes.suffix frames', ?_⟩
      rw [control']
      trivial
  | @undertake f layer seen idle request frames duty =>
      -- a worker starts at its cache, with nothing below it
      refine ⟨?_, trivial⟩
      simp only [Task.push, frames]
      cases f <;> trivial
  | conclude control head duty idle' answer =>
      exact hplain (List.nil_suffix) (Control.isPlain_of_isIdle idle')
  | abandon parked => exact hplain (List.nil_suffix) rfl
  | _ => exact hplain (List.suffix_refl _) rfl

end Stride

namespace Machine

/-- Over a run of a chain with a cache nothing below the cache happens outside its inner calls. -/
theorem sheltered_run [Source σ V C] [Perishable V] {m₀ m : Machine V σ C} {top : Nat}
    {moves : List (Machine V σ C × Machine V σ C)} (fresh : m₀.Fresh)
    (capped : Capped m₀.world.content.kinds top) (run : Run m₀ moves m) :
    ∀ (i : Nat) (t : Task V C), m.tasks[i]? = some t → t.Sheltered top := by
  refine run.forall_task fresh (P := Task.Sheltered top) ?_ ?_
  · intro id request
    exact ⟨trivial, trivial⟩
  · intro t t' k k' shaped hkinds stride
    exact stride.sheltered shaped (by rw [hkinds]; exact capped)

end Machine

end CredentialSupply
