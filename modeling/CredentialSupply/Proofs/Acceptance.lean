import CredentialSupply.Proofs.Chain

set_option autoImplicit false

/-!
# Configurations that are accepted

The rules for the settings are written twice: in `Config.validate`, and in the checks that the
layers make when they are added. A stack is built when the checks of all its layers pass
(`build_checks`), so the two can be compared check by check. They agree but for one rule: an early
refresh with an empty window passes `Config.validate`, and the layer refuses it
(`Config.build_agrees_unless_window_is_empty`).
-/

namespace CredentialSupply

variable {V σ C : Type}

/-- The check that a layer makes of its settings when it is added. -/
def LayerPlan.validate : LayerPlan → Except Failure Unit
  | .retry | .health _ => .ok ()
  | .outage timeToLive => validateOutage timeToLive
  | .rateLimit size tokens period => TokenBucket.validate size tokens period
  | .cache settings _ early => do
      settings.validate
      match early with
      | none => .ok ()
      | some plan => validateWindow plan.window settings.lifetime.timeToLive

namespace Machine

/-- A layer is added when its check passes, and refused with the failure of its check. -/
theorem addPlanned_checks (m : Machine V σ C) (plan : LayerPlan) :
    (m.addPlanned plan).map (fun _ => ()) = plan.validate := by
  cases plan with
  | retry | health _ => rfl
  | outage timeToLive =>
      simp only [addPlanned, LayerPlan.validate]
      cases validateOutage timeToLive <;> rfl
  | rateLimit size tokens period =>
      simp only [addPlanned, LayerPlan.validate, TokenBucket.create]
      cases TokenBucket.validate size tokens period <;> rfl
  | cache settings ownMeter early =>
      simp only [addPlanned, addCache, LayerPlan.validate]
      cases settings.validate with
      | error f => rfl
      | ok _ =>
          cases early with
          | none => rfl
          | some plan =>
              cases hw : validateWindow plan.window settings.lifetime.timeToLive <;>
                simp only [Except.map, bind, Except.bind, hw]
              rfl

theorem foldlM_checks (m : Machine V σ C) (plans : List LayerPlan) :
    (plans.foldlM addPlanned m).map (fun _ => ()) = forM plans LayerPlan.validate := by
  induction plans generalizing m with
  | nil => rfl
  | cons plan plans ih =>
      rw [List.foldlM_cons, List.forM_cons, ← addPlanned_checks m plan]
      cases m.addPlanned plan with
      | error f => rfl
      | ok k => exact ih k

/-- A stack is built when the checks of all its layers pass, and otherwise refused with the failure
of the first one that does not. -/
theorem build_checks (name : String) (source : σ) (others : List σ) (plans : List LayerPlan) :
    (build name source others plans : Except Failure (List Bool × Machine V σ C)).map
        (fun _ => ()) = forM plans LayerPlan.validate := by
  rw [← foldlM_checks (bare name source others : Machine V σ C) plans, build]
  cases plans.foldlM addPlanned (bare name source others : Machine V σ C) <;> rfl

end Machine

/-! ## Checks -/

/-- A check that passes or complains about one of the options. -/
def IsCheck (check : Except Failure Unit) : Prop :=
  check = .ok () ∨ ∃ field reason, check = .error (.configuration field reason)

theorem isCheck_pass : IsCheck (.ok ()) := Or.inl rfl

theorem isCheck_complain (field reason : String) :
    IsCheck (.error (.configuration field reason)) := Or.inr ⟨field, reason, rfl⟩

theorem IsCheck.ite {p : Prop} [Decidable p] {a b : Except Failure Unit} (ha : IsCheck a)
    (hb : IsCheck b) : IsCheck (if p then a else b) := by
  split
  · exact ha
  · exact hb

theorem IsCheck.bind {a : Except Failure Unit} {b : Unit → Except Failure Unit} (ha : IsCheck a)
    (hb : IsCheck (b ())) : IsCheck (a >>= b) := by
  rcases ha with rfl | ⟨field, reason, rfl⟩
  · exact hb
  · exact isCheck_complain field reason

theorem isCheck_settings (s : CacheSettings) : IsCheck s.validate :=
  .ite (isCheck_complain _ _) (.ite (isCheck_complain _ _) isCheck_pass)

theorem isCheck_bucket (size tokens : UInt32) (period : Span) :
    IsCheck (TokenBucket.validate size tokens period) :=
  .ite (isCheck_complain _ _) <|
    .ite (isCheck_complain _ _) (.ite (isCheck_complain _ _) isCheck_pass)

theorem isCheck_outage (timeToLive : Span) : IsCheck (validateOutage timeToLive) :=
  .ite (isCheck_complain _ _) isCheck_pass

theorem bind_eq_ok {a : Except Failure Unit} {b : Unit → Except Failure Unit} :
    (a >>= b) = .ok () ↔ a = .ok () ∧ b () = .ok () := by
  cases a with
  | error f => simp [Bind.bind, Except.bind]
  | ok u => simp [Bind.bind, Except.bind]

/-- All layers take their settings. -/
theorem forM_checks {plans : List LayerPlan} :
    forM plans LayerPlan.validate = .ok () ↔ ∀ plan ∈ plans, plan.validate = .ok () := by
  induction plans with
  | nil => simp [pure, Except.pure]
  | cons plan plans ih => simp [List.forM_cons, bind_eq_ok, ih]

namespace Config

/-- Whether an early refresh is asked for with an empty window. -/
def asksForEmptyWindow (c : Config) : Bool := c.preemptive && c.window.isZero

/-- The complaint about an empty window. -/
def emptyWindow : Failure := .configuration "preemptive_window" "Must be greater than zero."

theorem isCheck_cache (c : Config) : IsCheck c.validateCache :=
  .ite (isCheck_settings _) (.ite (isCheck_complain _ _) (.ite (isCheck_complain _ _) isCheck_pass))

/-- The checks in their order. -/
theorem validate_eq (c : Config) :
    c.validate =
      ((if Text.isBlankText c.name then .error (.configuration "name" "Must not be empty.")
        else .ok ()) >>= fun _ => c.validateCache >>= fun _ =>
      (if c.preemptive && c.timeToLive.nanos ≤ c.window.nanos then
        .error (.configuration "preemptive_window" "Must be less than time_to_live.")
        else .ok ()) >>= fun _ =>
      (if c.rateLimited then TokenBucket.validate c.bucketSize c.refillTokens c.refillPeriod
        else .ok ()) >>= fun _ =>
      if c.outageCached then validateOutage c.outageTimeToLive else .ok ()) := by
  unfold validate
  cases Text.isBlankText c.name with
  | true => rfl
  | false =>
      cases c.validateCache with
      | error f => rfl
      | ok u =>
          cases c.preemptive && decide (c.timeToLive.nanos ≤ c.window.nanos) with
          | true => rfl
          | false => cases c.rateLimited <;> rfl

/-- The options are refused with a complaint about one of them. -/
theorem isCheck_validate (c : Config) : IsCheck c.validate := by
  rw [validate_eq]
  exact .bind (.ite (isCheck_complain _ _) isCheck_pass) <|
    .bind c.isCheck_cache <|
    .bind (.ite (isCheck_complain _ _) isCheck_pass) <|
    .bind (.ite (isCheck_bucket _ _ _) isCheck_pass) <|
    .ite (isCheck_outage _) isCheck_pass

/-- What `validate` checks. -/
structure Valid (c : Config) : Prop where
  name : Text.isBlankText c.name = false
  cache : c.validateCache = .ok ()
  window : c.preemptive = true → c.window.nanos < c.timeToLive.nanos
  bucket : c.rateLimited = true →
    TokenBucket.validate c.bucketSize c.refillTokens c.refillPeriod = .ok ()
  outage : c.outageCached = true → validateOutage c.outageTimeToLive = .ok ()

theorem valid_of_validate {c : Config} (h : c.validate = .ok ()) : c.Valid := by
  simp only [validate_eq, bind_eq_ok] at h
  obtain ⟨hname, hcache, hwindow, hbucket, houtage⟩ := h
  refine ⟨?_, hcache, ?_, ?_, ?_⟩
  · simpa using hname
  · intro hpreemptive
    simpa [hpreemptive] using hwindow
  · intro hlimited
    simpa [hlimited] using hbucket
  · intro hkept
    simpa [hkept] using houtage

/-- The layers below the cache take all settings that pass. -/
theorem Valid.lower {c : Config} (valid : c.Valid) {plan : LayerPlan} (h : plan ∈ c.lower) :
    plan.validate = .ok () := by
  simp only [Config.lower, middle, List.mem_append] at h
  rcases h with (h | h) | h | h <;> split at h
  · rw [List.mem_singleton.1 h]
    rfl
  · cases h
  next houtage =>
    rw [List.mem_singleton.1 h]
    exact valid.outage houtage
  · cases h
  · rw [List.mem_singleton.1 h]
    rfl
  · cases h
  next hlimited =>
    rw [List.mem_singleton.1 h]
    exact valid.bucket hlimited
  · cases h

/-- The cache takes all settings that pass but for an empty window. -/
theorem Valid.topmost {c : Config} (valid : c.Valid) (cached : c.cached = true) :
    ∃ plan, c.topmost = [plan] ∧
      plan.validate = if c.asksForEmptyWindow then .error emptyWindow else .ok () := by
  have hsettings : c.cacheSettings.validate = .ok () := by
    have hcache := valid.cache
    rwa [validateCache, if_pos cached] at hcache
  refine ⟨_, if_pos cached, ?_⟩
  simp only [LayerPlan.validate, hsettings]
  by_cases hpreemptive : c.preemptive = true
  · have hlt : ¬ c.cacheSettings.lifetime.timeToLive.nanos ≤ c.window.nanos :=
      Nat.not_le_of_lt (valid.window hpreemptive)
    simp only [hpreemptive, if_true, asksForEmptyWindow, Bool.true_and]
    show validateWindow c.window c.cacheSettings.lifetime.timeToLive = _
    rw [validateWindow, if_neg hlt]
    rfl
  · simp only [hpreemptive, asksForEmptyWindow]
    rfl

theorem Valid.cached_of_preemptive {c : Config} (valid : c.Valid) (h : c.preemptive = true) :
    c.cached = true := by
  have hcache := valid.cache
  unfold validateCache at hcache
  cases hcached : c.cached with
  | true => rfl
  | false =>
      rw [hcached, h] at hcache
      cases hlimited : c.rateLimited <;> simp [hlimited] at hcache

/-- Of options that pass, the layers refuse an empty window and nothing else. -/
theorem Valid.checks {c : Config} (valid : c.Valid) :
    forM c.plans LayerPlan.validate =
      if c.asksForEmptyWindow then .error emptyWindow else .ok () := by
  -- the layers are checked from the source upwards, and the cache comes last
  have hlower : forM c.lower LayerPlan.validate = .ok () := forM_checks.2 fun _ => valid.lower
  rw [plans_eq, List.forM_append, hlower]
  show forM c.topmost LayerPlan.validate = _
  cases hcached : c.cached with
  | true =>
      obtain ⟨plan, htopmost, hplan⟩ := valid.topmost hcached
      rw [htopmost, ← hplan, List.forM_cons]
      cases plan.validate <;> rfl
  | false =>
      have hpreemptive : c.preemptive = false := by
        cases h : c.preemptive with
        | false => rfl
        | true => rw [valid.cached_of_preemptive h] at hcached; cases hcached
      simp [Config.topmost, hcached, asksForEmptyWindow, hpreemptive]
      rfl

/-- A layer that refuses options that pass refuses an empty window. -/
theorem Valid.refuses {c : Config} (valid : c.Valid) {plan : LayerPlan} (h : plan ∈ c.plans)
    {f : Failure} (refused : plan.validate = .error f) :
    c.asksForEmptyWindow = true ∧ f = emptyWindow := by
  rw [plans_eq] at h
  rcases List.mem_append.1 h with h | h
  · rw [valid.lower h] at refused
    cases refused
  · by_cases hcached : c.cached = true
    · obtain ⟨plan', htopmost, hplan⟩ := valid.topmost hcached
      rw [htopmost] at h
      rw [List.mem_singleton.1 h, hplan] at refused
      split at refused
      next hempty =>
        cases refused
        exact ⟨hempty, rfl⟩
      · cases refused
    · rw [Config.topmost, if_neg hcached] at h
      cases h

/-- A stack is built from the options exactly when `validate` lets them pass, and otherwise refused
with the same complaint, unless the options ask for an early refresh with an empty window. -/
theorem build_agrees_unless_window_is_empty (c : Config) (source : σ) :
    (∀ f, c.validate = .error f →
        (c.build source : Except Failure (Machine V σ C)) = .error f ∧
          ∃ field reason, f = .configuration field reason) ∧
      (c.validate = .ok () → c.asksForEmptyWindow = false →
        ∃ m : Machine V σ C, c.build source = .ok m) ∧
      (c.validate = .ok () → c.asksForEmptyWindow = true →
        (c.build source : Except Failure (Machine V σ C)) = .error emptyWindow) ∧
      ∀ plan ∈ c.plans, ∀ (m : Machine V σ C) f, m.addPlanned plan = .error f →
        c.validate = .ok () → c.asksForEmptyWindow = true ∧ f = emptyWindow := by
  have hbuild : c.validate = .ok () →
      (c.build source : Except Failure (Machine V σ C)).map (fun _ => ()) =
        if c.asksForEmptyWindow then .error emptyWindow else .ok () := by
    intro hvalid
    have hchecks := (valid_of_validate hvalid).checks
    rw [← Machine.build_checks c.name source [] c.plans] at hchecks
    rw [← hchecks, build, hvalid]
    cases Machine.build c.name source [] c.plans <;> rfl
  refine ⟨?_, ?_, ?_, ?_⟩
  · intro f hf
    refine ⟨by rw [build, hf]; rfl, ?_⟩
    rcases c.isCheck_validate with hok | ⟨field, reason, herror⟩
    · rw [hok] at hf
      cases hf
    · rw [herror] at hf
      cases hf
      exact ⟨field, reason, rfl⟩
  · intro hvalid hwindow
    have h := hbuild hvalid
    rw [hwindow] at h
    cases hm : (c.build source : Except Failure (Machine V σ C)) with
    | error f => rw [hm] at h; cases h
    | ok m => exact ⟨m, rfl⟩
  · intro hvalid hwindow
    have h := hbuild hvalid
    rw [hwindow] at h
    cases hm : (c.build source : Except Failure (Machine V σ C)) with
    | error f => rw [hm] at h; cases h; rfl
    | ok m => rw [hm] at h; cases h
  · intro plan hplan m f herror hvalid
    have hrefused : plan.validate = .error f := by
      rw [← Machine.addPlanned_checks m plan, herror]
      rfl
    exact (valid_of_validate hvalid).refuses hplan hrefused

/-- The standard cache with an early refresh whose window is empty. -/
def hasty : Config := { standard with preemptive := true, window := Span.zero }

theorem empty_window_is_refused :
    hasty.validate = .ok () ∧
      (hasty.build (⟨[], 0, true, false, 0⟩ : Script Nat) :
        Except Failure (Machine Nat (Script Nat) (ScriptReply Nat))) = .error emptyWindow := by
  have hvalid : hasty.validate = .ok () := rfl
  exact ⟨hvalid, (build_agrees_unless_window_is_empty hasty _).2.2.1 hvalid rfl⟩

end Config

end CredentialSupply
