import CredentialSupply.Proofs.Built
import CredentialSupply.Proofs.History
import CredentialSupply.Source.Script

set_option autoImplicit false

/-!
# Fetches return the installed value

The entry of a cache is that of the last inner call that succeeded, and the generation counts
those calls (`recorded_run`). A fetch at the cache that returns a value returns that of the
installed entry while it is valid, by whichever way the value came to it
(`Turn.returns_installed`).
-/

namespace CredentialSupply

variable {V σ C : Type}

section Turn

variable [Perishable V] {layer : Nat} {now : Instant} {t t' : Task V C} {c c' : Cache V}

/-- A fetch that returns a value returns that of the entry that is installed then, and valid. -/
theorem Turn.returns_installed {v : V} (h : Turn layer now t c t' c') (inside : t.IsInside layer)
    (control' : t'.control = .deliver (.value v)) (away : t'.stage layer = .away) :
    ∃ e, c'.entry = some e ∧ e.value = v ∧ e.isValid now = true := by
  generalize houtcome : Outcome.value v = outcome at control'
  cases h.return inside control' away with
  | @hit e c'' control valid noticed =>
      cases houtcome
      obtain ⟨hentry, hvalid⟩ := Option.filter_eq_some_iff.1 valid
      rcases Cache.noticed?_cases noticed with rfl | ⟨r, -, -, -, rfl⟩
      · exact ⟨e, hentry, rfl, hvalid⟩
      · exact ⟨e, hentry, rfl, hvalid⟩
  | @adopt seen force e control newer =>
      obtain ⟨hvalid, hvalue⟩ := Entry.valid_of_outcome houtcome.symm
      exact ⟨e, (Cache.of_replacement? newer).2, hvalue, hvalid⟩
  | @install w e ended entry =>
      obtain ⟨hvalid, hvalue⟩ := Entry.valid_of_outcome houtcome.symm
      exact ⟨e, rfl, hvalue, hvalid⟩
  | giveUp | fail | crash => cases houtcome

end Turn

namespace Machine

/-! ## The entry is that of the last success -/

section Successes

variable {layer : Nat} {m n : Machine V σ C} {t : Task V C}

theorem successes_of_none (h : ∀ v, (m.active?.bind (·.innerOutcome? layer)) ≠ some (.value v)) :
    successes layer [(m, n)] = [] := by
  unfold successes innerEnds innerEnd?
  cases hactive : m.active? with
  | none => simp [hactive]
  | some t =>
      simp only [hactive, Option.bind_some] at h
      cases houtcome : t.innerOutcome? layer with
      | none => simp [hactive, houtcome]
      | some outcome =>
          cases outcome with
          | value v => exact absurd houtcome (h v)
          | failed f => simp [hactive, houtcome, InnerEnd.success?]
          | crashed => simp [hactive, houtcome, InnerEnd.success?]

theorem successes_of_some {v : V} (hactive : m.active? = some t)
    (houtcome : t.innerOutcome? layer = some (.value v)) :
    successes layer [(m, n)] = [(v, m.world.now)] := by
  simp [successes, innerEnds, innerEnd?, hactive, houtcome, InnerEnd.success?]

end Successes

/-- What a cache keeps of the inner calls in a list of moves. -/
structure Recorded (layer : Nat) (moves : List (Machine V σ C × Machine V σ C)) [Perishable V]
    (c : Cache V) : Prop where
  generation : c.generation = (successes layer moves).length
  last : (successes layer moves).getLast? = c.entry.map fun e => (e.value, e.installedAt)
  stamped : ∀ e, c.entry = some e → c.settings.lifetime.entry? e.value e.installedAt = some e

section Recorded

variable [Perishable V] {layer : Nat} {m n : Machine V σ C} {c c' : Cache V}
  {moves : List (Machine V σ C × Machine V σ C)}

theorem Recorded.of_same (h : Recorded layer moves c) (hsuccesses : successes layer [(m, n)] = [])
    (hentry : c'.entry = c.entry) (hgeneration : c'.generation = c.generation)
    (hsettings : c'.settings = c.settings) : Recorded layer (moves ++ [(m, n)]) c' := by
  have hall : successes layer (moves ++ [(m, n)]) = successes layer moves := by
    rw [successes_append, hsuccesses, List.append_nil]
  refine ⟨?_, ?_, ?_⟩
  · rw [hall, hgeneration]
    exact h.generation
  · rw [hall, hentry]
    exact h.last
  · rw [hentry, hsettings]
    exact h.stamped

theorem Recorded.move (h : Recorded layer moves c) (move : LayerMove layer m c n c')
    (clock : (m.world.now.later? c.settings.lifetime.timeToLive).isSome = true) :
    Recorded layer (moves ++ [(m, n)]) c' := by
  have hsettings := move.kept.settings
  cases move with
  | @turn id t t' c₁ running task turn same tasks running' parked told now =>
      have hactive := active?_of_running running task
      have htold : c'.entry = c₁.entry ∧ c'.generation = c₁.generation := by
        rcases told with rfl | ⟨-, rfl⟩ <;> exact ⟨rfl, rfl⟩
      rcases turn.entry_cases with ⟨hentry, hgeneration, hnone⟩ |
        ⟨v, e, houtcome, he, hentry, hgeneration⟩
      · refine h.of_same (successes_of_none fun v hv => ?_) (htold.1.trans hentry)
          (htold.2.trans hgeneration) hsettings
        -- the clock represents the stamp
        obtain ⟨e, he⟩ := Lifetime.entry?_isSome c.settings.lifetime v clock
        rw [hactive] at hv
        rw [hnone v hv] at he
        cases he
      · have hall := successes_append layer moves [(m, n)]
        rw [successes_of_some hactive houtcome] at hall
        refine ⟨?_, ?_, ?_⟩
        · rw [hall, htold.2, hgeneration, h.generation, List.length_append]
          rfl
        · rw [hall, htold.1, hentry, List.getLast?_append, Option.map_some,
            Lifetime.value_of_entry? he, Lifetime.installedAt_of_entry? he]
          rfl
        · intro e' he'
          rw [htold.1, hentry] at he'
          cases he'
          rw [hsettings, Lifetime.value_of_entry? he, Lifetime.installedAt_of_entry? he]
          exact he
  | arrive idle foreground tasks cache now =>
      subst cache
      exact h.of_same (successes_of_none (by simp [active?_of_idle idle])) rfl rfl rfl
  | rest active tasks cache now =>
      have hsuccesses : successes layer [(m, n)] = [] := successes_of_none (by simp [active])
      rcases cache with rfl | rfl
      · exact h.of_same hsuccesses rfl rfl rfl
      · exact h.of_same hsuccesses rfl rfl rfl

end Recorded

variable [Source σ V C] [Perishable V] {layer : Nat} {m₀ m n : Machine V σ C} {c₀ : Cache V}
  {moves : List (Machine V σ C × Machine V σ C)}

/-- While the clock leaves room for the time to live, the cache has the value of the last inner
call that succeeded. -/
theorem recorded_run (fresh : m₀.Fresh) (cache : m₀.world.cache? layer = some c₀)
    (run : Run m₀ moves m)
    (clock : (m.world.now.later? c₀.settings.lifetime.timeToLive).isSome = true) :
    ∃ c, m.world.cache? layer = some c ∧ c₀.Kept c ∧ Recorded layer moves c := by
  induction run with
  | start =>
      have hempty := (fresh.caches layer c₀ cache).eq_empty
      refine ⟨c₀, cache, .refl c₀, ?_, ?_, ?_⟩
      · rw [hempty]
        rfl
      · rw [hempty]
        rfl
      · intro e he
        rw [hempty] at he
        cases he
  | @move moves m n run step ih =>
      have sound : m.Sound := sound_reaches fresh.sound run.reaches
      have hearlier : m.world.now ≤ n.world.now := by
        obtain ⟨c, hc, -⟩ := reaches_cache fresh.sound run.reaches cache
        obtain ⟨c', -, h⟩ := layerMove sound step hc
        exact h.now_le
      -- the clock had that room all along
      have hroom : (m.world.now.later? c₀.settings.lifetime.timeToLive).isSome = true :=
        Instant.later?_isSome_before sound.clock hearlier clock
      obtain ⟨c, hc, kept, recorded⟩ := ih hroom
      obtain ⟨c', hc', h⟩ := layerMove sound step hc
      rw [← kept.settings] at hroom
      exact ⟨c', hc', kept.trans h.kept, recorded.move h hroom⟩

/-! ## Lookups -/

/-- A lookup that finds a valid entry answers at once: the one step neither asks for the lock nor
calls anything, and leaves all other tasks as they are. -/
theorem advance_of_valid {id : TaskId} {t : Task V C} {c c₁ : Cache V} {e : Entry V}
    (sound : m.Sound) (running : m.running = some id) (task : m.tasks[id]? = some t)
    (control : t.control = .enter (layer + 1) false) (hc : m.world.cache? layer = some c)
    (valid : c.valid? m.world.now = some e) (noticed : c.noticed? e m.world.now = some c₁)
    (favoured : Signal) :
    m.advance favoured id =
      { m with
        world := ((m.world.setLayer layer (.cache c₁)).rouse layer).count c₁.meter .hit
        tasks := m.tasks.set id (t.pass (.value e.value)) } := by
  have hstopped : t.isStopped m.world = false :=
    (sound.parked id t task (by simp [control, Control.isParked, Control.isWaiting])).2
  have hlayer := (World.cache?_eq_some_iff m.world layer c).1 hc
  have hstep : t.step m.world favoured =
      (((m.world.setLayer layer (.cache c₁)).rouse layer).count c₁.meter .hit,
        t.pass (.value e.value)) := by
    rw [Task.step_of_not_stopped hstopped]
    simp only [Task.advance, control, Task.enter, hlayer, Task.lookUp, Bool.false_eq_true,
      if_false, valid, noticed]
  simp only [Machine.advance, task, hstep]
  rw [← running]
  rfl

/-- Whatever way a value comes to a fetch at a cache, it is that of the installed entry, which is
the one of the last inner call that succeeded and valid within all its bounds; and a fetch that is
not forced and finds a valid entry has its value with its first step, whoever holds the lock. -/
theorem fetch_returns_last_success {name : String} {source : σ} {others : List σ}
    {plans : List LayerPlan} {bound : List Bool}
    (built : build name source others plans = .ok (bound, m₀))
    (cache : m₀.world.cache? layer = some c₀) (run : Run m₀ moves m)
    (clock : (m.world.now.later? c₀.settings.lifetime.timeToLive).isSome = true)
    (move : Move m n) :
    (∀ id v, Returns layer m n id (.value v) →
      n.world.now = m.world.now ∧ ∃ c e, n.world.cache? layer = some c ∧ c.entry = some e ∧
        e.value = v ∧
        (successes layer (moves ++ [(m, n)])).getLast? = some (v, e.installedAt) ∧
        c.generation = (successes layer (moves ++ [(m, n)])).length ∧
        e.isValid n.world.now = true ∧
        n.world.now.nanos ≤ e.installedAt.nanos + c₀.settings.lifetime.timeToLive.nanos ∧
        ∀ own, Perishable.ownExpiry v = some own → n.world.now ≤ own ∧
          ∀ t, own.earlier? c₀.settings.lifetime.buffer = some t → n.world.now ≤ t) ∧
    ∀ id t c e, m.running = some id → m.tasks[id]? = some t →
      t.control = .enter (layer + 1) false → m.world.cache? layer = some c →
      c.valid? m.world.now = some e →
      Returns layer m n id (.value e.value) ∧ n.world.now = m.world.now ∧
        n.tasks = m.tasks.set id (t.pass (.value e.value)) ∧ n.world.calls = m.world.calls ∧
        n.world.source = m.world.source ∧ n.world.others = m.world.others ∧
        ∃ c', n.world.cache? layer = some c' ∧ c'.lock = c.lock ∧ c'.entry = c.entry := by
  have fresh := fresh_of_build built
  have sound : m.Sound := sound_reaches fresh.sound run.reaches
  obtain ⟨c, hc, kept, recorded⟩ := recorded_run fresh cache run clock
  constructor
  · rintro id v ⟨t, t', running, task, inside, task', control', away⟩
    obtain ⟨c', hc', next⟩ := layerMove sound move hc
    have recorded' : Recorded layer (moves ++ [(m, n)]) c' :=
      recorded.move next (by rw [kept.settings]; exact clock)
    have hsettings := (kept.trans next.kept).settings
    obtain ⟨s, c₁, turn, -, hs, told, now⟩ := next.of_running running task
    rw [task'] at hs
    cases hs
    obtain ⟨e, hentry, hvalue, hvalid⟩ := turn.returns_installed inside control' away
    have hentry' : c'.entry = some e := by
      rcases told with rfl | ⟨-, rfl⟩ <;> exact hentry
    have hlast := recorded'.last
    rw [hentry', Option.map_some, hvalue] at hlast
    have hstamp := recorded'.stamped e hentry'
    rw [hsettings] at hstamp
    obtain ⟨httl, hown⟩ := Lifetime.le_of_entry? hstamp
    have hle : n.world.now ≤ e.expiresAt := by
      rw [now]
      exact (e.isValid_iff _).1 hvalid
    refine ⟨now, c', e, hc', hentry', hvalue, hlast, recorded'.generation, ?_, ?_, ?_⟩
    · rw [now]
      exact hvalid
    · rw [Instant.le_def] at hle
      omega
    · intro own hv
      obtain ⟨hle₁, hle₂⟩ := hown own (hvalue ▸ hv)
      exact ⟨Instant.le_trans hle hle₁, fun t ht => Instant.le_trans hle (hle₂ t ht)⟩
  · intro id t c₁ e running task control hc₁ valid
    rw [hc] at hc₁
    cases hc₁
    -- the end of the window can be represented, because the window is shorter than the stay
    obtain ⟨c', noticed⟩ : ∃ c', c.noticed? e m.world.now = some c' := by
      apply Cache.exists_noticed?
      intro r hr
      have hlt := window_lt fresh cache kept hr
      exact Instant.later?_isSome_of_le sound.clock (by omega) clock
    obtain ⟨favoured, rfl⟩ : ∃ favoured, n = m.advance favoured id := by
      cases move with
      | @advance id' favoured running' =>
          rw [running] at running'
          cases running'
          exact ⟨favoured, rfl⟩
      | resume idle | arrive idle | pass _ idle | drop idle =>
          exact absurd running (by simp [idle])
    rw [advance_of_valid sound running task control hc valid noticed favoured]
    have hlayer := (World.cache?_eq_some_iff m.world layer c).1 hc
    have haway : t.around layer = .away := by
      -- what surrounds a task that is about to enter a cache lies further out
      have hn : Nested t.request (2 * (layer + 1)) t.frames := by
        simpa [Task.Shaped, control] using sound.shaped id t task
      exact Task.around_eq_away (Nested.not_isLoad hn (by omega))
    obtain ⟨ready, hrouse⟩ := World.exists_rouse_eq (m.world.setLayer layer (.cache c')) layer
    rw [hrouse]
    refine ⟨⟨t, t.pass (.value e.value), running, task, Or.inl ⟨false, control⟩, ?_, rfl, haway⟩,
      rfl, rfl, rfl, rfl, rfl, c', ?_, ?_⟩
    · exact getElem?_set_some _ task
    · exact (World.cache?_setLayer m.world layer hlayer (.cache c')).trans (if_pos rfl)
    · rcases Cache.noticed?_cases noticed with rfl | ⟨r, -, -, -, rfl⟩ <;> exact ⟨rfl, rfl⟩

/-- A source whose first value comes at once and whose later ones take a second each. -/
def slowingSource : Script (Dated Nat) :=
  ⟨[⟨0, .value fun _ => ⟨1, none⟩⟩, ⟨1000, .value fun _ => ⟨2, none⟩⟩], 0, false, false, 0⟩

/-- A cache over that source. -/
def slowingPlans : List LayerPlan :=
  [.cache ⟨⟨Span.ofSeconds 60, Span.ofSeconds 5⟩, Span.ofSeconds 1⟩ false none]

/-- The stack of the cache and the source. -/
def slowingStack : Machine (Dated Nat) (Script (Dated Nat)) (ScriptReply (Dated Nat)) :=
  match build "chain" slowingSource [] slowingPlans with
  | .ok (_, m) => m
  | .error _ => bare "chain" slowingSource []

/-- In that stack a fetch returns, a forced one waits for the source, and a third one is about to
look up. -/
def besideHolder :
    List (Machine (Dated Nat) (Script (Dated Nat)) (ScriptReply (Dated Nat)) ×
      Machine (Dated Nat) (Script (Dated Nat)) (ScriptReply (Dated Nat))) ×
      Machine (Dated Nat) (Script (Dated Nat)) (ScriptReply (Dated Nat)) :=
  let first := requested (.fetch false) 10 slowingStack
  let second := requested (.fetch true) 7 first.2
  let third := requested (.fetch false) 2 second.2
  (first.1 ++ second.1 ++ third.1, third.2)

/-- While another task holds the lock and waits for its inner call, a fetch that is not forced
returns the value of the first inner call. -/
theorem fetch_returns_last_success_beside_holder :
    ∃ n c, Run slowingStack besideHolder.1 besideHolder.2 ∧ Move besideHolder.2 n ∧
      n.world.cache? 0 = some c ∧ c.lock.holder = some 1 ∧ n.world.now = Instant.origin ∧
      Returns 0 besideHolder.2 n 2 (.value ⟨1, none⟩) ∧
      (successes 0 (besideHolder.1 ++ [(besideHolder.2, n)])).getLast? =
        some (⟨1, none⟩, Instant.origin) := by
  have built : build "chain" slowingSource [] slowingPlans = .ok ([], slowingStack) := rfl
  have run : Run slowingStack besideHolder.1 besideHolder.2 :=
    ((run_requested 10 rfl rfl).append (run_requested 7 rfl rfl)).append (run_requested 2 rfl rfl)
  have move : Move besideHolder.2 (besideHolder.2.advance .job 2) := .advance .job rfl
  have cache : slowingStack.world.cache? 0 = some (Cache.empty
      ⟨⟨Span.ofSeconds 60, Span.ofSeconds 5⟩, Span.ofSeconds 1⟩ 0 none) := rfl
  obtain ⟨returned, lookup⟩ := fetch_returns_last_success built cache run (by decide) move
  obtain ⟨returns, now, -, -, -, -, c, hc, hlock, -⟩ := lookup 2 _ _ _ rfl rfl rfl rfl rfl
  obtain ⟨-, c', e, hc', hentry, -, hlast, -⟩ := returned 2 _ returns
  have hinstalled : e.installedAt = Instant.origin := by
    have he : c'.entry = some e := hentry
    rw [← Option.some.inj hc'] at he
    exact congrArg Entry.installedAt (Option.some.inj he).symm
  rw [hinstalled] at hlast
  exact ⟨_, c, run, move, hc, by rw [hlock]; rfl, now, returns, hlast⟩

end Machine

end CredentialSupply
