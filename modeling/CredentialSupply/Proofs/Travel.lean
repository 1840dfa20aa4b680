import CredentialSupply.Proofs.Stack

set_option autoImplicit false

/-!
# What a fetch takes along

On its way down a fetch takes along whether it is forced and, from its lookup at a cache up to the
inner call, the generation that it saw there. Layers hand the flag on as they got it
(`Stride.carries`), it goes from level to level (`Stride.enter_cases`), and a generation is seen in
a lookup only (`Stride.snapshot_cases`). Behind it the fetch leaves frames (`Stride.frame_cases`).
On its way up it takes along an outcome: a value is answered by a source, kept by a layer, or was
there before (`Handover`), and the fetch ends with what has come out of all layers
(`Stride.answer_cases`).
-/

namespace CredentialSupply

variable {V σ C : Type}

/-- Whether the fetch that goes on with this control is forced. -/
def Control.force? : Control V C → Option Bool
  | .enter _ force | .call _ force | .acquire _ _ force | .queued _ _ force _ | .locked _ _ force =>
      some force
  | _ => none

/-- The cache whose lock a task with this control asks for or holds, and the generation seen. -/
def Control.snapshot? : Control V C → Option (Nat × Nat)
  | .acquire layer seen _ | .queued layer seen _ _ | .locked layer seen _ => some (layer, seen)
  | _ => none

/-- Whether the fetch that a layer waits for is forced. -/
def Frame.force? : Frame → Option Bool
  | .retry _ force | .outage _ force => some force
  | _ => none

/-- Whether what comes of a request is forced. -/
def Request.isForced : Request → Bool
  | .fetch force => force
  | _ => false

theorem Control.plain_of_isIdle {x : Control V C} (h : x.isIdle = true) :
    x.force? = none ∧ x.snapshot? = none ∧ ∀ v, x ≠ .deliver (.value v) := by
  cases x <;> first | (cases h; done) | exact ⟨rfl, rfl, by simp⟩

theorem Request.isForced_of_ne {request : Request} (h : request ≠ .fetch true) :
    request.isForced = false := by
  cases request with
  | fetch force =>
      cases force with
      | true => exact absurd rfl h
      | false => rfl
  | health | close | rest | join | work => rfl

/-! ## The flag -/

/-- Wherever the task goes on, it does so with the given flag. -/
structure Task.Carries (force : Bool) (t : Task V C) : Prop where
  control : ∀ b ∈ t.control.force?, b = force
  frames : ∀ f ∈ t.frames, ∀ b ∈ f.force?, b = force

section Carries

variable {force : Bool} {t t' : Task V C} {x : Control V C} {f : Frame} {frames : List Frame}

theorem Task.carries_fresh (force : Bool) (id : TaskId) (request : Request) :
    (Task.fresh id request : Task V C).Carries force :=
  ⟨by simp [Task.fresh, Control.force?], by simp [Task.fresh]⟩

theorem Task.Carries.flag {b : Bool} (h : t.Carries force) (control : t.control.force? = some b) :
    b = force :=
  h.control b control

/-- A task goes on with its flag, after it has gone back past some frames. -/
theorem Task.Carries.move (h : t.Carries force) (hx : ∀ b ∈ x.force?, b = force)
    (sub : frames ⊆ t.frames) : Task.Carries force { t with frames, control := x } :=
  ⟨hx, fun g hg => h.frames g (sub hg)⟩

/-- A task that is not on its way down any more needs no flag. -/
theorem Task.Carries.rise (h : t.Carries force) (hx : x.force? = none) (sub : frames ⊆ t.frames) :
    Task.Carries force { t with frames, control := x } :=
  h.move (by simp [hx]) sub

/-- A layer remembers the flag that it hands on. -/
theorem Task.Carries.push (h : t.Carries force) (hf : ∀ b ∈ f.force?, b = force)
    (hx : ∀ b ∈ x.force?, b = force) : (t.push f x).Carries force := by
  refine ⟨hx, fun g hg => ?_⟩
  rcases List.mem_cons.1 hg with rfl | hg
  · exact hf
  · exact h.frames g hg

variable [Perishable V] {k k' : Content V}

/-- The flag is that of the request, for every step. Workers and health queries do not force. -/
theorem Stride.carries (h : Stride t k t' k') (forced : t.request.isForced = force)
    (carries : t.Carries force) : t'.Carries force := by
  have hpop : ∀ {f : Frame} {frames : List Frame}, t.frames = f :: frames → frames ⊆ t.frames := by
    intro f frames head
    rw [head]
    exact List.subset_cons_self f frames
  have hsame : t.frames ⊆ t.frames := List.Subset.refl _
  cases h with
  | stay => exact carries
  | rest idle idle' => exact carries.rise (Control.plain_of_isIdle idle').1 hsame
  | start control request =>
      rw [request] at forced
      exact carries.move (by simpa [Control.force?, Request.isForced] using forced) hsame
  | @query layer record refresh control request here =>
      -- a query does not force, and neither does its fetch
      obtain rfl : force = false := by rw [← forced, request]; rfl
      refine carries.push (by simp [Frame.force?]) ?_
      unfold HealthRecord.aim
      split <;> simp [Control.force?]
  | bottom control | skip control | grant control | miss control =>
      obtain rfl := carries.flag (by rw [control]; rfl)
      exact carries.move (by simp [Control.force?]) hsame
  | @wrap layer b l f control here frame =>
      obtain rfl := carries.flag (by rw [control]; rfl)
      refine carries.push ?_ (by simp [Control.force?])
      cases l <;> cases frame <;> simp [Frame.force?]
  | @call source b progress control => cases progress <;> exact carries.rise rfl hsame
  | @resume source due call progress control => cases progress <;> exact carries.rise rfl hsame
  | @ask layer seen b c x control here control' =>
      have hbefore : t.control.force? = some b := by
        rcases control with control | ⟨deadline, control⟩ <;> (rw [control]; rfl)
      obtain rfl := carries.flag hbefore
      refine carries.move ?_ hsame
      rcases control' with rfl | ⟨deadline, rfl⟩ <;> simp [Control.force?]
  | load control =>
      obtain rfl := carries.flag (by rw [control]; rfl)
      exact carries.push (by simp [Frame.force?]) (by simp [Control.force?])
  | @retry layer b frames f control head =>
      have hb : b = force := carries.frames _ (by rw [head]; exact List.mem_cons_self) b rfl
      exact carries.move (by simp [Control.force?, hb]) (hpop head)
  | store control head | serve control head | observe control head | pass control head
  | install control head | fail control head | report control head =>
      exact carries.rise rfl (hpop head)
  | crash control' frames' =>
      exact ⟨by simp [control', Control.force?], fun g hg => carries.frames g (frames'.subset hg)⟩
  | @undertake f layer seen idle request frames duty =>
      -- a worker does not force
      obtain rfl : force = false := by rw [← forced, request]; rfl
      refine carries.push ?_ (by simp [Control.force?])
      cases f <;> first | (simp [Frame.force?]; done) | cases duty
  | conclude control head duty idle' =>
      exact carries.rise (Control.plain_of_isIdle idle').1 (List.nil_subset _)
  | abandon => exact carries.rise rfl (List.nil_subset _)
  | _ => exact carries.rise rfl hsame

end Carries

/-! ## Levels, generations and frames -/

section Stride

variable [Perishable V] {t t' : Task V C} {k k' : Content V}

/-- A fetch enters a level from the one above it, as the inner call of the cache there, for a second
attempt, or where it starts. -/
theorem Stride.enter_cases {level : Nat} {force : Bool} (h : Stride t k t' k')
    (control' : t'.control = .enter level force) :
    t' = t ∨ t.control = .enter (level + 1) force ∨ (∃ seen, t.control = .locked level seen force) ∨
      (∃ frames, t.frames = .retry level force :: frames) ∨
      (t.control = .begin ∧ (level = k.layers.length ∨ ∃ (layer : Nat) (record : HealthRecord),
        k.layers[layer]? = some (.health record) ∧
          record.aim layer = (.enter level force : Control V C))) := by
  cases h with
  | stay => exact Or.inl rfl
  | start control =>
      cases control'
      exact Or.inr (Or.inr (Or.inr (Or.inr ⟨control, Or.inl rfl⟩)))
  | query control request here =>
      exact Or.inr (Or.inr (Or.inr (Or.inr ⟨control, Or.inr ⟨_, _, here, control'⟩⟩)))
  | skip control | wrap control | grant control =>
      cases control'
      exact Or.inr (Or.inl control)
  | load control =>
      cases control'
      exact Or.inr (Or.inr (Or.inl ⟨_, control⟩))
  | retry control head =>
      cases control'
      exact Or.inr (Or.inr (Or.inr (Or.inl ⟨_, head⟩)))
  | @rest x _ idle' | @conclude _ _ x _ _ _ idle' =>
      obtain rfl : x = _ := control'
      cases idle'
  | @call source force progress | @resume source due call progress =>
      cases progress <;> cases control'
  | ask control here hx =>
      rcases hx with rfl | ⟨deadline, rfl⟩ <;> cases control'
  | crash crashes =>
      rw [crashes] at control'
      cases control'
  | _ => cases control'

/-- The generation that a task remembers is one that it remembered before, or the one that it has
just found at the cache. The worker of a cache starts with the one that it was called for. -/
theorem Stride.snapshot_cases {layer seen : Nat} (h : Stride t k t' k')
    (snapshot : t'.control.snapshot? = some (layer, seen)) :
    t.control.snapshot? = some (layer, seen) ∨
      (∃ c, k.layers[layer]? = some (.cache c) ∧ seen = c.generation) ∨
      t.request = .work layer := by
  cases h with
  | stay => exact Or.inl snapshot
  | miss control here =>
      cases snapshot
      exact Or.inr (Or.inl ⟨_, here, rfl⟩)
  | ask control here control' =>
      left
      rw [← snapshot]
      rcases control with control | ⟨deadline, control⟩ <;>
        rcases control' with rfl | ⟨deadline', rfl⟩ <;> rw [control] <;> rfl
  | undertake idle request =>
      cases snapshot
      exact Or.inr (Or.inr request)
  | rest idle idle' | conclude control head duty idle' =>
      rw [Task.goto, (Control.plain_of_isIdle idle').2.1] at snapshot
      cases snapshot
  | @query layer record refresh =>
      unfold HealthRecord.aim Task.push at snapshot
      split at snapshot <;> cases snapshot
  | @call source force progress | @resume source due call progress =>
      cases progress <;> cases snapshot
  | crash crashes =>
      rw [crashes] at snapshot
      cases snapshot
  | _ => cases snapshot

/-- A frame was there before, or was left by a layer that the fetch goes through, by the holder of
a lock that makes its inner call, or by a health query or a worker at its start. -/
theorem Stride.frame_cases {f : Frame} (h : Stride t k t' k') (member : f ∈ t'.frames) :
    f ∈ t.frames ∨
      (∃ layer force l, t.control = .enter (layer + 1) force ∧
        k.layers[layer]? = some l ∧ l.frame? layer force = some f) ∨
      (∃ layer seen force, t.control = .locked layer seen force ∧ f = .load layer k.now) ∨
      (∃ layer seen, f = .query layer seen) ∨ f.isDuty = true := by
  have hpop : ∀ {g : Frame} {frames : List Frame}, t.frames = g :: frames → f ∈ frames →
      f ∈ t.frames := by
    intro g frames head hmem
    rw [head]
    exact List.mem_cons_of_mem g hmem
  cases h with
  | query =>
      rcases List.mem_cons.1 member with rfl | member
      · exact Or.inr (Or.inr (Or.inr (Or.inl ⟨_, _, rfl⟩)))
      · exact Or.inl member
  | wrap control here frame =>
      rcases List.mem_cons.1 member with rfl | member
      · exact Or.inr (Or.inl ⟨_, _, _, control, here, frame⟩)
      · exact Or.inl member
  | load control =>
      rcases List.mem_cons.1 member with rfl | member
      · exact Or.inr (Or.inr (Or.inl ⟨_, _, _, control, rfl⟩))
      · exact Or.inl member
  | undertake idle request frames duty =>
      rcases List.mem_cons.1 member with rfl | member
      · exact Or.inr (Or.inr (Or.inr (Or.inr duty)))
      · exact Or.inl member
  | call | resume =>
      rw [Task.frames_await] at member
      exact Or.inl member
  | retry control head | store control head | serve control head | observe control head
  | pass control head | install control head | fail control head | report control head =>
      exact Or.inl (hpop head member)
  | crash control' frames' => exact Or.inl (frames'.subset member)
  | conclude | abandon => cases member
  | _ => exact Or.inl member

/-! ## Values -/

/-- How it comes that with a step to `t'` a task passes on a value. -/
inductive Handover [Perishable V] (t : Task V C) (k : Content V) (t' : Task V C) (v : V) :
    Prop where
  /-- It has not moved. -/
  | stay (same : t' = t)
  /-- A call of a source answers it. -/
  | answer {source : Option Nat} (control : t.control.source? = some source)
      (frames : t'.frames = t.frames)
  /-- A lookup finds it. -/
  | hit {layer : Nat} {c : Cache V} {e : Entry V} (control : t.control = .enter (layer + 1) false)
      (here : k.layers[layer]? = some (.cache c)) (entry : c.entry = some e)
      (valid : e.isValid k.now = true) (value : e.value = v) (frames : t'.frames = t.frames)
  /-- The holder of the lock takes it over. -/
  | adopt {layer seen : Nat} {force : Bool} {c : Cache V} {e : Entry V}
      (control : t.control = .locked layer seen force)
      (here : k.layers[layer]? = some (.cache c)) (newer : c.replacement? seen = some e)
      (valid : e.isValid k.now = true) (value : e.value = v) (frames : t'.frames = t.frames)
  /-- It is served in an outage. -/
  | serve {layer : Nat} {f : Failure} {timeToLive : Span} {e : Entry V}
      (control : t.control = .deliver (.failed f))
      (head : t.frames = .outage layer false :: t'.frames)
      (here : k.layers[layer]? = some (.outage timeToLive (some e)))
      (valid : e.isValid k.now = true) (value : e.value = v)
  /-- A layer passes it on. -/
  | pass {f : Frame} (control : t.control = .deliver (.value v)) (head : t.frames = f :: t'.frames)
      (layer : f.isLayer = true)
  /-- A cache installs it. -/
  | install {layer : Nat} {startedAt : Instant} {c : Cache V}
      (control : t.control = .deliver (.value v))
      (head : t.frames = .load layer startedAt :: t'.frames)
      (here : k.layers[layer]? = some (.cache c))

theorem Stride.handover {v : V} (h : Stride t k t' k')
    (control' : t'.control = .deliver (.value v)) : Handover t k t' v := by
  cases h with
  | stay => exact .stay rfl
  | call control | resume control =>
      exact .answer (by rw [control]; rfl) (Task.frames_await _ _ _)
  | hit control here valid =>
      cases control'
      obtain ⟨entry, valid⟩ := Option.filter_eq_some_iff.1 valid
      exact .hit control here entry valid rfl rfl
  | adopt control here newer =>
      obtain ⟨valid, value⟩ := Entry.valid_of_outcome (Control.deliver.inj control')
      exact .adopt control here newer valid value rfl
  | store control head =>
      cases control'
      exact .pass control head rfl
  | serve control head here valid =>
      cases control'
      exact .serve control head here valid rfl
  | observe control head =>
      cases control'
      exact .pass control head rfl
  | pass control head layer =>
      cases control'
      exact .pass control head layer
  | install control head here entry =>
      obtain ⟨-, value⟩ := Entry.valid_of_outcome (Control.deliver.inj control')
      rw [Lifetime.value_of_entry? entry] at value
      subst value
      exact .install control head here
  | @rest x _ idle' | @conclude _ _ x _ _ _ idle' =>
      exact absurd control' ((Control.plain_of_isIdle idle').2.2 v)
  | @query layer record refresh =>
      unfold HealthRecord.aim Task.push at control'
      split at control' <;> cases control'
  | ask control here hx =>
      rcases hx with rfl | ⟨deadline, rfl⟩ <;> cases control'
  | crash crashes =>
      rw [crashes] at control'
      cases control'
  | _ => cases control'

/-- A fetch ends with the value that has come out of all layers. -/
theorem Stride.answer_cases {v : V} {instant : Instant} (h : Stride t k t' k')
    (control' : t'.control = .ended (.fetched (.value v)) instant) :
    t' = t ∨ t.control = .deliver (.value v) ∧ t.frames = [] ∧ instant = k.now := by
  cases h with
  | stay => exact Or.inl rfl
  | answer control head =>
      cases control'
      exact Or.inr ⟨control, head, rfl⟩
  | @rest x _ _ answer | @conclude _ _ x _ _ _ _ answer =>
      obtain rfl : x = _ := control'
      cases answer
  | @query layer record refresh =>
      unfold HealthRecord.aim Task.push at control'
      split at control' <;> cases control'
  | @call source force progress | @resume source due call progress =>
      cases progress <;> cases control'
  | ask control here hx =>
      rcases hx with rfl | ⟨deadline, rfl⟩ <;> cases control'
  | crash crashes =>
      rw [crashes] at control'
      cases control'
  | _ => cases control'

end Stride

end CredentialSupply
