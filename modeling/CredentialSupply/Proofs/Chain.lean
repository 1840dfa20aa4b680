import CredentialSupply.Proofs.Built
import CredentialSupply.Proofs.Stack
import CredentialSupply.Source.Script

set_option autoImplicit false

/-!
# The layers of a chain

A stack that has been built has the kinds of layers that were planned, keeps nothing and has counted
nothing (`planned_of_build`). For a chain the plan follows from its configuration: a cache is its
outermost layer, and there is no other one (`Config.cache_kind`); health queries fetch at the top
(`Config.health_kind`).
-/

namespace CredentialSupply

variable {V σ C : Type}

/-- Whether a layer counts in the meter of the stack. -/
def LayerPlan.sharesMeter : LayerPlan → Bool
  | .cache _ ownMeter _ => !ownMeter
  | _ => true

/-- The kind of a layer in a stack whose layers share its meter. The first target of a record of
health takes effect. -/
def LayerPlan.kind : LayerPlan → Kind
  | .retry => .retry
  | .outage timeToLive => .outage timeToLive
  | .rateLimit _ _ _ => .rateLimit
  | .health targets => .health targets.head?
  | .cache settings _ _ => .cache settings 0

/-- The kind of a layer before the targets are bound. -/
def LayerPlan.unbound : LayerPlan → Kind
  | .health _ => .health none
  | plan => plan.kind

/-- The kind of a layer after targets have been bound to it. -/
def Kind.bound (targets : List HealthTarget) : Kind → Kind
  | .health none => .health targets.head?
  | kind => kind

theorem Kind.bound_nil : Kind.bound [] = id := by
  funext kind
  cases kind with
  | health target => cases target <;> rfl
  | retry | outage _ | rateLimit | cache _ _ => rfl

theorem Kind.bound_cons (target : HealthTarget) (targets : List HealthTarget) :
    Kind.bound targets ∘ Kind.bound [target] = Kind.bound (target :: targets) := by
  funext kind
  cases kind with
  | health target => cases target <;> rfl
  | retry | outage _ | rateLimit | cache _ _ => rfl

theorem Kind.modify_middle (before after : List Kind) (kind : Kind) (f : Kind → Kind) :
    (before ++ kind :: after).modify before.length f = before ++ f kind :: after := by
  induction before with
  | nil => rfl
  | cons k before ih => simpa using ih

/-- Nothing is kept or counted. -/
structure Content.Blank (name : String) (k : Content V) : Prop where
  kept : ∀ (i : Nat) (l : Layer V), k.layers[i]? = some l → l.kept? = none
  meters : k.meters = Meters.named [name]
  calls : k.calls = []

namespace Machine

variable {m n : Machine V σ C} {name : String}

/-- A layer is added as planned. -/
theorem Adds.content {plan : LayerPlan} (shares : plan.sharesMeter = true) (h : m.Adds plan n) :
    ∃ l, n.world.content = { m.world.content with layers := m.world.content.layers ++ [l] } ∧
      l.kind = plan.unbound ∧ l.kept? = none := by
  have hadd : ∀ l : Layer V, (m.addLayer l).world.content =
      { m.world.content with layers := m.world.content.layers ++ [l.content] } := by
    intro l
    simp [addLayer, mapWorld, World.content]
  cases h with
  | retry | outage | rateLimit | health => exact ⟨_, hadd _, rfl, rfl⟩
  | @cache settings ownMeter meter k valid metered =>
      have hown : ownMeter = false := by simpa [LayerPlan.sharesMeter] using shares
      subst hown
      cases metered
      exact ⟨_, hadd _, rfl, rfl⟩
  | @watched settings ownMeter plan meter k valid window metered =>
      have hown : ownMeter = false := by simpa [LayerPlan.sharesMeter] using shares
      subst hown
      cases metered
      -- the worker that is spawned is no content
      have hspawn := World.content_wake m.world m.tasks.length
      refine ⟨.cache (Cache.empty settings 0 none), ?_, rfl, rfl⟩
      rw [← hspawn]
      simp [addLayer, mapWorld, World.content, spawn, Layer.content, Cache.empty]

/-- The layers are added one by one. -/
theorem content_foldlM {plans : List LayerPlan} (shares : ∀ plan ∈ plans, plan.sharesMeter = true)
    (blank : m.world.content.Blank name) (h : plans.foldlM addPlanned m = .ok n) :
    n.world.content.Blank name ∧
      n.world.content.kinds = m.world.content.kinds ++ plans.map LayerPlan.unbound := by
  induction plans generalizing m with
  | nil =>
      cases h
      exact ⟨blank, (List.append_nil _).symm⟩
  | cons plan plans ih =>
      rw [List.foldlM_cons] at h
      cases hp : m.addPlanned plan with
      | error f =>
          rw [hp] at h
          cases h
      | ok k =>
          rw [hp] at h
          obtain ⟨l, hcontent, hkind, hkept⟩ :=
            (adds_of_addPlanned hp).content (shares plan List.mem_cons_self)
          have hblank : k.world.content.Blank name := by
            rw [hcontent]
            refine ⟨?_, blank.meters, blank.calls⟩
            intro i x hx
            rcases getElem?_snoc hx with hx | ⟨-, rfl⟩
            · exact blank.kept i x hx
            · exact hkept
          obtain ⟨hblank', hkinds⟩ :=
            ih (fun plan hplan => shares plan (List.mem_cons_of_mem _ hplan)) hblank h
          refine ⟨hblank', ?_⟩
          rw [hkinds, hcontent]
          simp [Content.kinds, hkind]

/-! ## Targets -/

/-- A target that is bound to a layer takes effect on a record of health without one. -/
theorem content_bindTarget (blank : m.world.content.Blank name) (layer : Nat)
    (target : HealthTarget) :
    (m.bindTarget layer target).2.world.content.Blank name ∧
      (m.bindTarget layer target).2.world.content.kinds =
        m.world.content.kinds.modify layer (Kind.bound [target]) := by
  rw [bindTarget]
  split
  next hh =>
    -- a layer that is no record of health stays as it is
    refine ⟨blank, ?_⟩
    symm
    apply List.ext_getElem?
    intro j
    rw [List.getElem?_modify]
    by_cases hj : layer = j
    · subst hj
      simp only [if_true, Option.map_eq_map]
      cases hl : m.world.layers[layer]? with
      | none => simp [Content.kinds, World.layers_content_none hl]
      | some l =>
          rw [Content.kinds_getElem? (World.layers_content hl)]
          cases l with
          | health h => simp [hl, Layer.health?] at hh
          | retry | outage _ _ | rateLimit _ | cache _ => rfl
    · simp [hj]
  next h hh =>
    obtain ⟨l, hl, hl'⟩ := Option.bind_eq_some_iff.1 hh
    have hl : m.world.layers[layer]? = some (.health h) := by
      cases l <;> cases hl'
      exact hl
    have hcontent := World.content_setLayer m.world layer (.health (h.bind target).2)
    simp only [mapWorld, hcontent]
    constructor
    · refine ⟨?_, blank.meters, blank.calls⟩
      intro i x hx
      rcases Content.getElem?_setLayer hx with ⟨-, rfl⟩ | ⟨-, hx⟩
      · rfl
      · exact blank.kept i x hx
    · apply List.ext_getElem?
      intro j
      rw [List.getElem?_modify]
      have hkind := Content.kinds_getElem? (World.layers_content hl)
      by_cases hj : layer = j
      · subst hj
        obtain ⟨hlt, -⟩ := List.getElem?_eq_some_iff.1 (World.layers_content hl)
        simp only [if_true, Option.map_eq_map, hkind]
        cases ht : h.target <;>
          simp [Content.kinds, Content.setLayer, hlt, Layer.kind, Layer.content, HealthRecord.bind,
            ht, Kind.bound]
      · simp [Content.kinds, Content.setLayer, hj, List.getElem?_set_ne hj]

/-- Of the targets planned for a layer the first one takes effect. -/
theorem content_foldl_bindTarget (layer : Nat) (targets : List HealthTarget)
    (state : List Bool × Machine V σ C) (blank : state.2.world.content.Blank name) :
    let next := targets.foldl (fun (answers, m) target =>
      let (bound, m) := bindTarget m layer target
      (answers ++ [bound], m)) state
    next.2.world.content.Blank name ∧
      next.2.world.content.kinds =
        state.2.world.content.kinds.modify layer (Kind.bound targets) := by
  induction targets generalizing state with
  | nil =>
      refine ⟨blank, ?_⟩
      rw [List.foldl_nil, Kind.bound_nil, List.modify_id]
  | cons target targets ih =>
      obtain ⟨answers, k⟩ := state
      obtain ⟨hblank, hkinds⟩ := content_bindTarget blank layer target
      obtain ⟨hblank', hkinds'⟩ := ih (answers ++ [(k.bindTarget layer target).1],
        (k.bindTarget layer target).2) hblank
      refine ⟨hblank', hkinds'.trans ?_⟩
      rw [hkinds, List.modify_modify_eq, Kind.bound_cons]

/-- Each record of health gets the first of its targets. -/
theorem content_bindTargets (plans : List LayerPlan) (start : Nat) (before : List Kind)
    (state : List Bool × Machine V σ C) (blank : state.2.world.content.Blank name)
    (hstart : start = before.length)
    (kinds : state.2.world.content.kinds = before ++ plans.map LayerPlan.unbound) :
    let next := (plans.zipIdx start).foldl (fun (answers, m) (plan, layer) =>
      match plan with
      | .health targets =>
          targets.foldl (fun (answers, m) target =>
            let (bound, m) := bindTarget m layer target
            (answers ++ [bound], m)) (answers, m)
      | _ => (answers, m)) state
    next.2.world.content.Blank name ∧
      next.2.world.content.kinds = before ++ plans.map LayerPlan.kind := by
  induction plans generalizing start before state with
  | nil => exact ⟨blank, kinds⟩
  | cons plan plans ih =>
      have hsucc : start + 1 = (before ++ [plan.kind]).length := by simp [hstart]
      have hlist : ∀ rest : List Kind,
          before ++ plan.kind :: rest = before ++ [plan.kind] ++ rest := by simp
      rw [List.map_cons, hlist]
      rw [List.zipIdx_cons, List.foldl_cons]
      cases plan with
      | health targets =>
          obtain ⟨hblank, hkinds⟩ := content_foldl_bindTarget start targets state blank
          refine ih (start + 1) _ _ hblank hsucc ?_
          rw [hkinds, kinds, hstart, List.map_cons, Kind.modify_middle, ← hlist]
          rfl
      | retry | outage timeToLive | rateLimit size tokens period | cache settings own early =>
          refine ih (start + 1) _ state blank hsucc ?_
          rw [kinds, List.map_cons, ← hlist]
          rfl

/-- A stack that has been built holds nothing, in the layers that were planned. -/
theorem planned_of_build {source : σ} {others : List σ} {plans : List LayerPlan}
    {bound : List Bool} (shares : ∀ plan ∈ plans, plan.sharesMeter = true)
    (built : build name source others plans = .ok (bound, m)) :
    m.world.content.Blank name ∧ m.world.content.kinds = plans.map LayerPlan.kind := by
  obtain ⟨k, hadded, hbound⟩ := adds_of_build built
  have hbare : (bare name source others : Machine V σ C).world.content.Blank name := by
    refine ⟨?_, rfl, rfl⟩
    intro i l hl
    simp [bare, World.content] at hl
  obtain ⟨hblank, hkinds⟩ := content_foldlM shares hbare hadded
  have hbindings : (k.bindTargets plans).2.world.content.Blank name ∧
      (k.bindTargets plans).2.world.content.kinds = [] ++ plans.map LayerPlan.kind :=
    content_bindTargets plans 0 [] ([], k) hblank rfl hkinds
  rw [hbound] at hbindings
  exact hbindings

end Machine

/-! ## Chains -/

namespace Config

variable {c : Config}

/-- The layers between the value for outages and the cache. -/
def middle (c : Config) : List LayerPlan :=
  (if c.health then [.health [.level c.plans.length]] else []) ++
    (if c.rateLimited then [.rateLimit c.bucketSize c.refillTokens c.refillPeriod] else [])

/-- The layers below the cache. -/
def lower (c : Config) : List LayerPlan :=
  (if c.retrying then [.retry] else []) ++
    (if c.outageCached then [.outage c.outageTimeToLive] else []) ++ c.middle

/-- The cache, if there is one. -/
def topmost (c : Config) : List LayerPlan :=
  if c.cached then
    [.cache c.cacheSettings false (if c.preemptive then some ⟨c.window, c.mode⟩ else none)]
  else []

/-- The kinds of the layers of a chain, innermost first. -/
def kinds (c : Config) : List Kind := c.plans.map LayerPlan.kind

theorem plans_eq (c : Config) : c.plans = c.lower ++ c.topmost := by
  cases hhealth : c.health with
  | false => simp [plans, lower, middle, topmost, hhealth]
  | true =>
      simp [plans, lower, middle, topmost, hhealth]
      omega

theorem length_kinds (c : Config) : c.kinds.length = c.plans.length := List.length_map _

/-- What stands below the cache. -/
theorem mem_lower {plan : LayerPlan} (h : plan ∈ c.lower) :
    plan = .retry ∨ (c.outageCached = true ∧ plan = .outage c.outageTimeToLive) ∨
      plan = .health [.level c.plans.length] ∨
      plan = .rateLimit c.bucketSize c.refillTokens c.refillPeriod := by
  simp only [lower, middle, List.mem_append] at h
  rcases h with (h | h) | h | h <;> split at h
  · exact Or.inl (List.mem_singleton.1 h)
  · cases h
  next houtage => exact Or.inr (Or.inl ⟨houtage, List.mem_singleton.1 h⟩)
  · cases h
  · exact Or.inr (Or.inr (Or.inl (List.mem_singleton.1 h)))
  · cases h
  · exact Or.inr (Or.inr (Or.inr (List.mem_singleton.1 h)))
  · cases h

theorem shares (c : Config) : ∀ plan ∈ c.plans, plan.sharesMeter = true := by
  intro plan h
  rw [plans_eq] at h
  rcases List.mem_append.1 h with h | h
  · rcases mem_lower h with rfl | ⟨-, rfl⟩ | rfl | rfl <;> rfl
  · unfold topmost at h
    split at h
    · rw [List.mem_singleton.1 h]
      rfl
    · cases h

/-- A layer of a chain is a layer below the cache, or the cache. -/
theorem kinds_cases {i : Nat} {kind : Kind} (h : c.kinds[i]? = some kind) :
    (∃ plan ∈ c.lower, kind = plan.kind) ∨
      (c.cached = true ∧ i + 1 = c.kinds.length ∧ kind = .cache c.cacheSettings 0) := by
  have hlength : c.kinds.length = c.lower.length + c.topmost.length := by
    rw [length_kinds, plans_eq, List.length_append]
  rw [kinds, plans_eq, List.map_append, List.getElem?_append] at h
  split at h
  · obtain ⟨plan, hplan, rfl⟩ := List.mem_map.1 (List.mem_of_getElem? h)
    exact Or.inl ⟨plan, hplan, rfl⟩
  next hge =>
    right
    rw [List.length_map] at h hge
    unfold topmost at h hlength
    split at h
    next hcached =>
      rw [if_pos hcached] at hlength
      obtain ⟨hlt, hkind⟩ := List.getElem?_eq_some_iff.1 h
      simp only [List.length_map, List.length_singleton] at hlt hlength
      refine ⟨hcached, by omega, ?_⟩
      rw [← hkind]
      simp [LayerPlan.kind]
    next => simp at h

/-- The cache of a chain is its outermost layer, and counts in the meter of the chain. -/
theorem cache_kind {i meter : Nat} {settings : CacheSettings}
    (h : c.kinds[i]? = some (.cache settings meter)) :
    c.cached = true ∧ i + 1 = c.kinds.length ∧ settings = c.cacheSettings ∧ meter = 0 := by
  rcases kinds_cases h with ⟨plan, hplan, hkind⟩ | ⟨hcached, hi, hkind⟩
  · rcases mem_lower hplan with rfl | ⟨-, rfl⟩ | rfl | rfl <;> cases hkind
  · cases hkind
    exact ⟨hcached, hi, rfl, rfl⟩

/-- Health queries fetch at the top of the chain. -/
theorem health_kind {i : Nat} {target : Option HealthTarget}
    (h : c.kinds[i]? = some (.health target)) : target = some (.level c.kinds.length) := by
  rcases kinds_cases h with ⟨plan, hplan, hkind⟩ | ⟨-, -, hkind⟩
  · rcases mem_lower hplan with rfl | ⟨-, rfl⟩ | rfl | rfl <;> cases hkind
    rw [length_kinds]
    rfl
  · cases hkind

/-- A value for outages is kept right above the retry. -/
theorem outage_kind {i : Nat} {timeToLive : Span} (h : c.kinds[i]? = some (.outage timeToLive)) :
    c.outageCached = true ∧ timeToLive = c.outageTimeToLive ∧
      ∀ kind ∈ c.kinds.take i, kind = .retry := by
  obtain ⟨rest, hkinds, hrest⟩ : ∃ rest : List Kind,
      c.kinds = (if c.retrying then [.retry] else []) ++
        (if c.outageCached then [.outage c.outageTimeToLive] else []) ++ rest ∧
      ∀ (j : Nat) (span : Span), rest[j]? ≠ some (.outage span) := by
    refine ⟨(c.middle ++ c.topmost).map LayerPlan.kind, ?_, ?_⟩
    · rw [kinds, plans_eq, lower]
      cases c.retrying <;> cases c.outageCached <;> simp [LayerPlan.kind]
    · intro j span hj
      obtain ⟨plan, hplan, hkind⟩ := List.mem_map.1 (List.mem_of_getElem? hj)
      simp only [middle, topmost, List.mem_append] at hplan
      rcases hplan with (hplan | hplan) | hplan <;> split at hplan <;>
        first | cases hplan; done | (rw [List.mem_singleton.1 hplan] at hkind; cases hkind)
  -- the retry is the only layer that may stand before it
  rw [hkinds] at h ⊢
  cases hretrying : c.retrying <;> cases houtage : c.outageCached <;>
    simp only [hretrying, houtage, if_true, if_false, List.nil_append, List.append_nil,
      List.cons_append, Bool.false_eq_true] at h ⊢
  · exact absurd h (hrest i timeToLive)
  · cases i with
    | zero =>
        cases h
        exact ⟨trivial, rfl, by simp⟩
    | succ j => exact absurd h (hrest j timeToLive)
  · cases i with
    | zero => cases h
    | succ j => exact absurd h (hrest j timeToLive)
  · cases i with
    | zero => cases h
    | succ j =>
        cases j with
        | zero =>
            cases h
            exact ⟨trivial, rfl, by simp⟩
        | succ j => exact absurd h (hrest j timeToLive)

theorem exists_cache (cached : c.cached = true) :
    ∃ k, k + 1 = c.kinds.length ∧ c.kinds[k]? = some (.cache c.cacheSettings 0) := by
  refine ⟨c.lower.length, ?_, ?_⟩
  · rw [length_kinds, plans_eq, List.length_append]
    simp [topmost, cached]
  · rw [kinds, plans_eq, List.map_append, List.getElem?_append_right (by simp)]
    simp [topmost, cached, LayerPlan.kind]

/-- The layers below the record of health. -/
def innermost (c : Config) : List LayerPlan :=
  (if c.retrying then [.retry] else []) ++
    (if c.outageCached then [.outage c.outageTimeToLive] else [])

/-- The layers above the record of health. -/
def outermost (c : Config) : List LayerPlan :=
  (if c.rateLimited then [.rateLimit c.bucketSize c.refillTokens c.refillPeriod] else []) ++
    c.topmost

/-- Where the record of health stands. -/
def healthLayer (c : Config) : Nat := c.innermost.length

theorem kinds_split (c : Config) :
    c.kinds = c.innermost.map LayerPlan.kind ++
      ((if c.health then [Kind.health (some (.level c.kinds.length))] else []) ++
        c.outermost.map LayerPlan.kind) := by
  rw [length_kinds, kinds]
  refine (congrArg (List.map LayerPlan.kind) (plans_eq c)).trans ?_
  simp only [lower, middle, innermost, outermost]
  cases c.health <;> simp [LayerPlan.kind]

theorem not_health_innermost {target : Option HealthTarget} :
    Kind.health target ∉ c.innermost.map LayerPlan.kind := by
  simp only [innermost]
  cases c.retrying <;> cases c.outageCached <;> simp [LayerPlan.kind]

theorem not_health_outermost {target : Option HealthTarget} :
    Kind.health target ∉ c.outermost.map LayerPlan.kind := by
  simp only [outermost, topmost]
  cases c.rateLimited <;> cases c.cached <;> simp [LayerPlan.kind]

/-- The record of health fetches at the top. -/
theorem kinds_healthLayer (health : c.health = true) :
    c.kinds[c.healthLayer]? = some (.health (some (.level c.kinds.length))) := by
  have hlength : (c.innermost.map LayerPlan.kind).length = c.healthLayer := List.length_map _
  refine (congrArg (·[c.healthLayer]?) (kinds_split c)).trans ?_
  simp only [List.getElem?_append_right (Nat.le_of_eq hlength), hlength, if_pos health,
    Nat.sub_self]
  rfl

/-- There is no other record of health. -/
theorem eq_healthLayer {i : Nat} {target : Option HealthTarget}
    (h : c.kinds[i]? = some (.health target)) : c.health = true ∧ i = c.healthLayer := by
  have hlength : (c.innermost.map LayerPlan.kind).length = c.healthLayer := List.length_map _
  rw [kinds_split, List.getElem?_append] at h
  split at h
  · exact absurd (List.mem_of_getElem? h) not_health_innermost
  next hge =>
    cases hhealth : c.health with
    | false =>
        simp only [hhealth, Bool.false_eq_true, if_false, List.nil_append] at h
        exact absurd (List.mem_of_getElem? h) not_health_outermost
    | true =>
        simp only [hhealth, if_true] at h
        rw [List.getElem?_append] at h
        split at h
        next hlt =>
          rw [List.length_singleton] at hlt
          exact ⟨rfl, by omega⟩
        next => exact absurd (List.mem_of_getElem? h) not_health_outermost

/-- A chain is a stack with these layers. -/
theorem exists_build {source : σ} {m : Machine V σ C} (built : c.build source = .ok m) :
    ∃ bound, Machine.build c.name source [] c.plans = .ok (bound, m) := by
  unfold build at built
  cases hv : c.validate with
  | error f =>
      rw [hv] at built
      cases built
  | ok u =>
      rw [hv] at built
      cases hb : Machine.build c.name source [] c.plans (V := V) (C := C) with
      | error f =>
          simp only [hb] at built
          cases built
      | ok next =>
          obtain ⟨bound, n⟩ := next
          simp only [hb] at built
          cases built
          exact ⟨bound, rfl⟩

/-- A chain that has been built holds nothing yet. -/
theorem planned_of_build {source : σ} {m : Machine V σ C} (built : c.build source = .ok m) :
    m.Fresh ∧ m.world.content.Blank c.name ∧ m.world.content.kinds = c.kinds := by
  obtain ⟨bound, hb⟩ := exists_build built
  obtain ⟨hblank, hkinds⟩ := Machine.planned_of_build c.shares hb
  exact ⟨Machine.fresh_of_build hb, hblank, hkinds⟩

end Config

namespace Machine

/-- A source that is unavailable after its first value. -/
def failingSource : Script (Dated Nat) :=
  ⟨[⟨0, .value fun _ => ⟨1, none⟩⟩, ⟨1000, .failure (.unavailable "down")⟩], 0, false, false, 0⟩

/-- A cache for ten seconds over a value that is kept for an hour of outages. -/
def bridgedConfig : Config :=
  { Config.withName "chain" with
    timeToLive := Span.ofSeconds 10, refreshTimeout := Span.ofSeconds 5,
    outageCached := true, outageTimeToLive := Span.ofSeconds 3600 }

/-- The chain with these layers over that source. -/
def bridgedChain : Machine (Dated Nat) (Script (Dated Nat)) (ScriptReply (Dated Nat)) :=
  match bridgedConfig.build failingSource with
  | .ok m => m
  | .error _ => bare "chain" failingSource []

theorem built_bridgedChain : bridgedConfig.build failingSource = .ok bridgedChain := rfl

/-- The chain a second after its first value has expired in the cache. -/
def bridgedLapse : Machine (Dated Nat) (Script (Dated Nat)) (ScriptReply (Dated Nat)) :=
  (requested (.fetch false) 11 bridgedChain).2.passTo ⟨11000000000⟩

/-- The moves to that chain. -/
def bridgedMoves : List (Machine (Dated Nat) (Script (Dated Nat)) (ScriptReply (Dated Nat)) ×
    Machine (Dated Nat) (Script (Dated Nat)) (ScriptReply (Dated Nat))) :=
  (requested (.fetch false) 11 bridgedChain).1 ++
    [((requested (.fetch false) 11 bridgedChain).2, bridgedLapse)]

theorem run_bridgedLapse : Run bridgedChain bridgedMoves bridgedLapse :=
  (run_requested 11 rfl rfl).move (.pass ⟨11000000000⟩ rfl)

/-- The chain when a fetch has been served in the outage, and the moves to it. -/
def bridgedOutage : List (Machine (Dated Nat) (Script (Dated Nat)) (ScriptReply (Dated Nat)) ×
      Machine (Dated Nat) (Script (Dated Nat)) (ScriptReply (Dated Nat))) ×
    Machine (Dated Nat) (Script (Dated Nat)) (ScriptReply (Dated Nat)) :=
  (bridgedMoves ++ (requested (.fetch false) 14 bridgedLapse).1,
    (requested (.fetch false) 14 bridgedLapse).2)

theorem run_bridgedOutage : Run bridgedChain bridgedOutage.1 bridgedOutage.2 :=
  run_bridgedLapse.append (run_requested 14 rfl rfl)

end Machine

end CredentialSupply
