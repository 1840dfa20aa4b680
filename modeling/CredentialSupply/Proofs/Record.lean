import CredentialSupply.Proofs.Decisive

set_option autoImplicit false

/-!
# The record of health

The record of health of a chain is a summary of the calls that have come back through its layer, the
`observations` of a run: a move changes it by what it observes, and by nothing else (`record_move`).
The rate limit and the cache stand above it (`Config.healthLayer_lt`), so that a fetch that is
settled there comes back through none (`Stride.settled_above`).
-/

namespace CredentialSupply

variable {V σ C : Type}

/-! ## Observations -/

/-- Whether a call that has come back produced a value; none if it crashed. -/
def Outcome.success? : Outcome V → Option Bool
  | .value _ => some true
  | .failed _ => some false
  | .crashed => none

/-- What the record of health at a layer observes when the task makes its next step. -/
def Task.observation? (layer : Nat) (t : Task V C) : Option Bool :=
  match t.control, t.frames with
  | .deliver outcome, .health l :: _ => if l = layer then outcome.success? else none
  | _, _ => none

theorem Task.observation?_eq_none {layer : Nat} {t : Task V C}
    (h : ∀ outcome, t.control ≠ .deliver outcome) : t.observation? layer = none := by
  unfold observation?
  split
  next outcome l frames control _ => exact absurd control (h outcome)
  next => rfl

/-- The record after what a step observes. -/
def HealthRecord.after (h : HealthRecord) : Option Bool → HealthRecord
  | some success => h.observe success
  | none => h

/-- The record summarizes what has been observed, oldest first. -/
structure HealthRecord.Sums (h : HealthRecord) (seen : List Bool) : Prop where
  observed : h.observed = seen.length
  success : h.success = seen.getLast?

theorem HealthRecord.Sums.after {h : HealthRecord} {seen : List Bool} (sums : h.Sums seen)
    (next : Option Bool) : (h.after next).Sums (seen ++ next.toList) := by
  cases next with
  | none =>
      rw [Option.toList_none, List.append_nil]
      exact sums
  | some success =>
      constructor
      · simp [HealthRecord.after, observe, sums.observed]
      · simp [HealthRecord.after, observe]

/-- The status since a number of observations is the last one after them. -/
theorem HealthRecord.Sums.statusSince {h : HealthRecord} {before during : List Bool}
    (sums : h.Sums (before ++ during)) :
    h.statusSince before.length = during.getLast?.getD true := by
  rw [HealthRecord.statusSince, sums.observed, sums.success, List.length_append,
    List.getLast?_append]
  cases hlast : during.getLast? with
  | none =>
      rw [List.getLast?_eq_none_iff.1 hlast]
      simp
  | some success =>
      have hpos : during.length ≠ 0 := by
        intro hzero
        rw [List.length_eq_zero_iff.1 hzero] at hlast
        cases hlast
      rw [if_neg (by omega)]
      rfl

section Step

variable {layer : Nat} {t : Task V C} {w : World V σ}

/-- A crash that passes through the layers leaves them as they are. -/
theorem Task.content_of_crash [Source σ V C] [Perishable V] (favoured : Signal)
    (going : t.isStopped w = false) (control : t.control = .deliver .crashed) :
    (t.step w favoured).1.content = w.content := by
  have hretire : ∀ (u : Task V C) (i : Nat), (u.retire w i).1.content = w.content :=
    fun _ i => World.content_mapEarly w i _
  rw [step_of_not_stopped going]
  simp only [advance, control, deliver]
  split
  next => rfl
  next f frames _ =>
    cases f with
    | retry | query => rfl
    | outage l force =>
        simp only [bridged]
        split <;> simp_all
    | health l => rfl
    | load l startedAt => exact World.content_release w l
    | job l job retryAfter => exact hretire _ l
    | timer l job firedAt => exact hretire _ l

/-- A task that brings an outcome back through a record of health records it. -/
theorem Task.observes [Source σ V C] [Perishable V] {h : HealthRecord} {success : Bool}
    (favoured : Signal) (going : t.isStopped w = false)
    (brings : t.observation? layer = some success)
    (here : w.layers[layer]? = some (.health h)) :
    (t.step w favoured).1.content.layers[layer]? = some (.health (h.observe success)) := by
  obtain ⟨hlt, -⟩ := List.getElem?_eq_some_iff.1 here
  have hset : ∀ r : HealthRecord, (w.setLayer layer (.health r)).content.layers[layer]? =
      some (.health r) := by
    intro r
    apply World.layers_content (l := .health r)
    rw [World.setLayer, List.getElem?_set_self hlt]
  unfold observation? at brings
  split at brings
  next outcome l frames control head =>
    split at brings
    next hl =>
      subst hl
      rw [step_of_not_stopped going]
      cases outcome with
      | value v =>
          cases brings
          simp only [advance, control, deliver, head, observed, here]
          exact hset _
      | failed f =>
          cases brings
          simp only [advance, control, deliver, head, observed, here]
          exact hset _
      | crashed => cases brings
    next => cases brings
  next => cases brings

/-- Other steps leave a record of health alone. -/
theorem Stride.record_stays [Perishable V] {t' : Task V C} {k k' : Content V} {h : HealthRecord}
    (stride : Stride t k t' k') (calm : t.control ≠ .deliver .crashed)
    (brings : t.observation? layer = none) (here : k.layers[layer]? = some (.health h)) :
    k'.layers[layer]? = some (.health h) := by
  rcases stride.layer_cases here with same | ⟨_, _, -, hl⟩ |
    ⟨outcome, frames, record, control, head, hl⟩ | ⟨_, _, hl⟩ | ⟨_, hl⟩
  · exact same
  · cases hl
  · -- what is not recorded is a crash
    cases outcome with
    | value v => simp [Task.observation?, control, head, Outcome.success?] at brings
    | failed f => simp [Task.observation?, control, head, Outcome.success?] at brings
    | crashed => exact absurd control calm
  · cases hl
  · cases hl

end Step

namespace Machine

/-- What the record of health at a layer observes with the next move. -/
def observation? (layer : Nat) (m : Machine V σ C) : Option Bool :=
  m.active?.bind (Task.observation? layer)

/-- What the record of health at a layer has observed in a list of moves, oldest first. -/
def observations (layer : Nat) (moves : List (Machine V σ C × Machine V σ C)) : List Bool :=
  moves.filterMap fun move => move.1.observation? layer

theorem observations_append (layer : Nat) (before after : List (Machine V σ C × Machine V σ C)) :
    observations layer (before ++ after) = observations layer before ++ observations layer after :=
  List.filterMap_append

theorem observations_cons (layer : Nat) (moves : List (Machine V σ C × Machine V σ C))
    (m n : Machine V σ C) :
    observations layer ((m, n) :: moves) =
      (m.observation? layer).toList ++ observations layer moves := by
  cases h : m.observation? layer <;> simp [observations, h]

theorem observations_snoc (layer : Nat) (moves : List (Machine V σ C × Machine V σ C))
    (m n : Machine V σ C) :
    observations layer (moves ++ [(m, n)]) =
      observations layer moves ++ (m.observation? layer).toList := by
  rw [observations_append, observations_cons]
  exact congrArg _ (List.append_nil _)

section Record

variable [Source σ V C] [Perishable V] {layer : Nat} {m n m₀ : Machine V σ C} {h : HealthRecord}

/-- A record of health changes with a move by what it observes, and by nothing else. -/
theorem record_move (sound : m.Sound) (move : Move m n)
    (here : m.world.layers[layer]? = some (.health h)) :
    n.world.content.layers[layer]? = some (.health (h.after (m.observation? layer))) := by
  have hcontent : m.world.content.layers[layer]? = some (.health h) := World.layers_content here
  cases hactive : m.active? with
  | none =>
      -- nobody makes a step
      have hlayers : n.world.content.layers = m.world.content.layers := by
        cases stackMove sound move with
        | turn running task => simp [active?_of_running running task] at hactive
        | arrive idle foreground tasks content => rw [content]
        | rest active tasks content now => rw [content]
      rw [hlayers, observation?, hactive]
      exact hcontent
  | some t =>
      obtain ⟨id, running, task⟩ := Option.bind_eq_some_iff.1 hactive
      obtain ⟨favoured, rfl⟩ := move.of_running running
      have hobserves : m.observation? layer = t.observation? layer := by
        rw [observation?, hactive, Option.bind_some]
      rw [content_advance favoured task, hobserves]
      cases hparked : t.control.isParked with
      | true =>
          -- a parked task has no outcome to hand to the layer
          have hnone : t.observation? layer = none :=
            Task.observation?_eq_none fun outcome control => by
              rw [control] at hparked
              cases hparked
          have stride : Stride t m.world.content (t.step m.world favoured).2 _ :=
            Task.strides_step (sound.shaped id t task) fun _ => hparked
          rw [hnone]
          apply stride.record_stays _ hnone hcontent
          intro control
          rw [control] at hparked
          cases hparked
      | false =>
          obtain ⟨-, going⟩ := sound.parked id t task hparked
          by_cases calm : t.control = .deliver .crashed
          -- a crash goes past the layer unrecorded
          · have hnone : t.observation? layer = none := by
              unfold Task.observation?
              split
              next outcome l frames control _ =>
                rw [calm] at control
                cases control
                split <;> rfl
              next => rfl
            rw [Task.content_of_crash favoured going calm, hnone]
            exact hcontent
          · cases hbrings : t.observation? layer with
            | some success => exact Task.observes favoured going hbrings here
            | none =>
                have stride : Stride t m.world.content (t.step m.world favoured).2 _ :=
                  Task.strides_step (sound.shaped id t task) fun hstopped =>
                    absurd (going.symm.trans hstopped) Bool.noConfusion
                exact stride.record_stays calm hbrings hcontent

end Record

end Machine

/-! ## Above the record -/

/-- The record of health that a chain asks is the one of its configuration. -/
theorem World.healthLayer?_of_kinds {c : Config} {w : World V σ} {h : HealthRecord}
    (kinds : w.content.kinds = c.kinds) (here : w.layers[c.healthLayer]? = some (.health h)) :
    w.healthLayer? = some (c.healthLayer, h) := by
  cases hl : w.healthLayer? with
  | none =>
      rw [healthLayer?, List.findSome?_eq_none_iff] at hl
      have hmem : (Layer.health h, c.healthLayer) ∈ w.layers.zipIdx.reverse :=
        List.mem_reverse.2 (List.mem_zipIdx_iff_getElem?.2 here)
      cases hl _ hmem
  | some found =>
      obtain ⟨i, h'⟩ := found
      have hlayer := layers_of_healthLayer? hl
      have hkind := Content.kinds_getElem? (layers_content hlayer)
      rw [kinds] at hkind
      obtain ⟨-, rfl⟩ := Config.eq_healthLayer hkind
      rw [here] at hlayer
      cases hlayer
      rfl

theorem World.healthLayer?_eq_none {c : Config} {w : World V σ}
    (kinds : w.content.kinds = c.kinds) (health : c.health = false) : w.healthLayer? = none := by
  cases hl : w.healthLayer? with
  | none => rfl
  | some found =>
      have hkind := Content.kinds_getElem? (layers_content (layers_of_healthLayer? hl))
      rw [kinds] at hkind
      obtain ⟨hhealth, -⟩ := Config.eq_healthLayer hkind
      rw [health] at hhealth
      cases hhealth

end CredentialSupply
