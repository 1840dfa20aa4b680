import CredentialSupply.Cache.Basic
import CredentialSupply.Proofs.Scheduling

set_option autoImplicit false

/-!
# The claim on a generation

The refreshes of a cache in the background that are `pending` are the jobs in its queue and the
one that its worker carries out. `Claims` says how they fit the entry and the claimed expiry.
An expiry is claimed only inside the window before it, and an entry that is installed then
expires later if it outlasts the window; so although the claim is told by the expiry alone, it is
never mistaken for one on another generation (`ClaimStep.keeps`).
-/

namespace CredentialSupply

variable {V : Type}

/-- The refreshes in the background that have been scheduled and not ended: those in the queue and
the one that the worker carries out. -/
def EarlyRefresh.pending (r : EarlyRefresh) (duty : Option RefreshJob) : List RefreshJob :=
  r.jobs ++ duty.toList

/-- How the pending refreshes and the claim fit the entry of a cache at `now`. -/
structure Claims (now : Instant) (c : Cache V) (r : EarlyRefresh) (duty : Option RefreshJob) :
    Prop where
  /-- Nothing is claimed before its window begins. -/
  claimed : ∀ t, r.claimed = some t → t.nanos ≤ now.nanos + r.window.nanos
  bound : ∀ job ∈ r.pending duty, job.generation ≤ c.generation ∧
    job.expiresAt.nanos ≤ now.nanos + r.window.nanos
  /-- A refresh of the entry is one of an entry that is worth it. -/
  current : ∀ job ∈ r.pending duty, job.generation = c.generation →
    ∃ e, c.entry = some e ∧ job.expiresAt = e.expiresAt ∧ e.outlasts r.window = true
  /-- A refresh of an earlier entry was scheduled before the entry was installed. -/
  older : ∀ job ∈ r.pending duty, job.generation < c.generation →
    ∃ e, c.entry = some e ∧ job.expiresAt.nanos ≤ e.installedAt.nanos + r.window.nanos
  nodup : ((r.pending duty).map RefreshJob.generation).Nodup
  matched : ∀ e, c.entry = some e → e.outlasts r.window = true →
    (r.claimed = some e.expiresAt ↔
      ∃ job ∈ r.pending duty, job.generation = c.generation)

/-- The ways in which an entry, the state of its refresh and the duty of the worker change. -/
inductive ClaimStep (now : Instant) (c c' : Cache V) (r r' : EarlyRefresh) :
    Option RefreshJob → Option RefreshJob → Prop where
  | keep {duty : Option RefreshJob} (entry : c'.entry = c.entry)
      (generation : c'.generation = c.generation) (claimed : r'.claimed = r.claimed)
      (jobs : r'.jobs = r.jobs) : ClaimStep now c c' r r' duty duty
  /-- A lookup in the window. -/
  | schedule {e : Entry V} {duty : Option RefreshJob} (entry : c.entry = some e)
      (inWindow : e.expiresAt.nanos < now.nanos + r.window.nanos)
      (outlasts : e.outlasts r.window = true) (entry' : c'.entry = c.entry)
      (generation : c'.generation = c.generation)
      (early : r' = r.schedule ⟨c.generation, e.expiresAt⟩) : ClaimStep now c c' r r' duty duty
  /-- A new entry. -/
  | install {e : Entry V} {duty : Option RefreshJob} (entry : c'.entry = some e)
      (installed : e.installedAt = now) (generation : c'.generation = c.generation + 1)
      (claimed : r'.claimed = r.claimed) (jobs : r'.jobs = r.jobs) :
      ClaimStep now c c' r r' duty duty
  /-- The worker takes a job. -/
  | take {job : RefreshJob} {rest : List RefreshJob} (entry : c'.entry = c.entry)
      (generation : c'.generation = c.generation) (claimed : r'.claimed = r.claimed)
      (jobs : r.jobs = job :: rest) (jobs' : r'.jobs = rest) :
      ClaimStep now c c' r r' none (some job)
  /-- The timer of the worker sets a job. -/
  | fire {e : Entry V} (entry : c.entry = some e)
      (inWindow : e.expiresAt.nanos ≤ now.nanos + r.window.nanos)
      (outlasts : e.outlasts r.window = true) (unclaimed : r.claimed ≠ some e.expiresAt)
      (entry' : c'.entry = c.entry) (generation : c'.generation = c.generation)
      (claimed : r'.claimed = some e.expiresAt) (jobs : r'.jobs = r.jobs) :
      ClaimStep now c c' r r' none (some ⟨c.generation, e.expiresAt⟩)
  /-- The worker has refreshed, so the generation of its job is gone. -/
  | succeed {job : RefreshJob} (gone : job.generation < c.generation) (entry : c'.entry = c.entry)
      (generation : c'.generation = c.generation) (claimed : r'.claimed = r.claimed)
      (jobs : r'.jobs = r.jobs) : ClaimStep now c c' r r' (some job) none
  /-- The worker has failed to refresh. -/
  | forgo {job : RefreshJob} (entry : c'.entry = c.entry)
      (generation : c'.generation = c.generation) (early : r' = r.unclaim job.expiresAt) :
      ClaimStep now c c' r r' (some job) none

section Keeps

variable {now : Instant} {c c' : Cache V} {r r' : EarlyRefresh} {duty duty' : Option RefreshJob}

/-- The claims depend on the entry, the claim, the window, and which refreshes are pending. -/
theorem Claims.congr (h : Claims now c r duty) (entry : c'.entry = c.entry)
    (generation : c'.generation = c.generation) (claimed : r'.claimed = r.claimed)
    (window : r'.window = r.window) (pending : (r'.pending duty').Perm (r.pending duty)) :
    Claims now c' r' duty' where
  claimed t ht := by
    rw [claimed] at ht
    rw [window]
    exact h.claimed t ht
  bound job hjob := by
    rw [generation, window]
    exact h.bound job (pending.mem_iff.1 hjob)
  current job hjob hg := by
    rw [entry, window]
    rw [generation] at hg
    exact h.current job (pending.mem_iff.1 hjob) hg
  older job hjob hg := by
    rw [entry, window]
    rw [generation] at hg
    exact h.older job (pending.mem_iff.1 hjob) hg
  nodup := (pending.map RefreshJob.generation).nodup_iff.2 h.nodup
  matched e he hout := by
    rw [entry] at he
    rw [window] at hout
    rw [claimed, generation, h.matched e he hout]
    constructor
    · rintro ⟨job, hjob, hg⟩
      exact ⟨job, pending.mem_iff.2 hjob, hg⟩
    · rintro ⟨job, hjob, hg⟩
      exact ⟨job, pending.mem_iff.1 hjob, hg⟩

/-- A refresh of the entry is added, with its claim. -/
theorem Claims.add {e : Entry V} (h : Claims now c r duty) (he : c.entry = some e)
    (inWindow : e.expiresAt.nanos ≤ now.nanos + r.window.nanos)
    (outlasts : e.outlasts r.window = true) (unclaimed : r.claimed ≠ some e.expiresAt)
    (entry : c'.entry = c.entry) (generation : c'.generation = c.generation)
    (claimed : r'.claimed = some e.expiresAt) (window : r'.window = r.window)
    (pending : (r'.pending duty').Perm (⟨c.generation, e.expiresAt⟩ :: r.pending duty)) :
    Claims now c' r' duty' := by
  -- the entry has no refresh yet, because it is not claimed
  have hnone : ∀ job ∈ r.pending duty, job.generation ≠ c.generation := by
    intro job hjob hg
    exact unclaimed ((h.matched e he outlasts).2 ⟨job, hjob, hg⟩)
  have hmem : ∀ job, job ∈ r'.pending duty' ↔
      job = ⟨c.generation, e.expiresAt⟩ ∨ job ∈ r.pending duty := by
    intro job
    rw [pending.mem_iff, List.mem_cons]
  refine ⟨?_, ?_, ?_, ?_, ?_, ?_⟩
  · intro t ht
    rw [claimed] at ht
    cases ht
    rw [window]
    exact inWindow
  · intro job hjob
    rw [generation, window]
    rcases (hmem job).1 hjob with rfl | hjob
    · exact ⟨Nat.le_refl _, inWindow⟩
    · exact h.bound job hjob
  · intro job hjob hg
    rw [entry, window]
    rw [generation] at hg
    rcases (hmem job).1 hjob with rfl | hjob
    · exact ⟨e, he, rfl, outlasts⟩
    · exact absurd hg (hnone job hjob)
  · intro job hjob hg
    rw [entry, window]
    rw [generation] at hg
    rcases (hmem job).1 hjob with rfl | hjob
    · exact absurd hg (Nat.lt_irrefl _)
    · exact h.older job hjob hg
  · refine (pending.map RefreshJob.generation).nodup_iff.2 ?_
    rw [List.map_cons, List.nodup_cons]
    refine ⟨?_, h.nodup⟩
    intro hin
    obtain ⟨job, hjob, hg⟩ := List.mem_map.1 hin
    exact hnone job hjob hg
  · intro e' he' hout
    rw [entry, he] at he'
    cases he'
    rw [claimed, generation]
    exact ⟨fun _ => ⟨_, (hmem _).2 (Or.inl rfl), rfl⟩, fun _ => rfl⟩

/-! ### The worker ends its refresh -/

/-- A refresh of an earlier entry does not make the entry one with a refresh. -/
theorem Claims.matched_of_older {job : RefreshJob} {e : Entry V} (h : Claims now c r (some job))
    (older : job.generation < c.generation) (he : c.entry = some e)
    (outlasts : e.outlasts r.window = true) :
    r.claimed = some e.expiresAt ↔ ∃ other ∈ r.jobs, other.generation = c.generation := by
  rw [h.matched e he outlasts]
  constructor
  · rintro ⟨other, ho, hg⟩
    refine ⟨other, ?_, hg⟩
    rcases List.mem_append.1 ho with ho | ho
    · exact ho
    · rw [List.mem_singleton.1 ho] at hg
      omega
  · rintro ⟨other, ho, hg⟩
    exact ⟨other, List.mem_append_left _ ho, hg⟩

/-- It expires before the entry does, which outlasts the window. -/
theorem Claims.expiresAt_ne_of_older {job : RefreshJob} {e : Entry V}
    (h : Claims now c r (some job)) (older : job.generation < c.generation)
    (he : c.entry = some e) (outlasts : e.outlasts r.window = true) :
    job.expiresAt ≠ e.expiresAt := by
  intro heq
  obtain ⟨e', he', hle⟩ := h.older job (List.mem_append_right _ List.mem_cons_self) older
  rw [he] at he'
  cases he'
  rw [Entry.outlasts_iff] at outlasts
  have := congrArg Instant.nanos heq
  omega

/-- No job in the queue is of the generation of the one that the worker carries out. -/
theorem Claims.generation_ne {job other : RefreshJob} (h : Claims now c r (some job))
    (member : other ∈ r.jobs) : other.generation ≠ job.generation := by
  have hnodup := h.nodup
  rw [show r.pending (some job) = r.jobs ++ [job] from rfl, List.map_append, List.nodup_append]
    at hnodup
  exact hnodup.2.2 other.generation (List.mem_map_of_mem member) job.generation
    (List.mem_map_of_mem List.mem_cons_self)

/-- The refresh that the worker carries out is dropped. -/
theorem Claims.remove {job : RefreshJob} (h : Claims now c r (some job))
    (entry : c'.entry = c.entry) (generation : c'.generation = c.generation)
    (window : r'.window = r.window) (jobs : r'.jobs = r.jobs)
    (claimed : ∀ t, r'.claimed = some t → r.claimed = some t)
    (matched : ∀ e, c.entry = some e → e.outlasts r.window = true →
      (r'.claimed = some e.expiresAt ↔ ∃ other ∈ r.jobs, other.generation = c.generation)) :
    Claims now c' r' none := by
  have hpending : r'.pending none = r.jobs := by simp [EarlyRefresh.pending, jobs]
  -- what remains was pending before
  have hsub : ∀ other ∈ r.jobs, other ∈ r.pending (some job) := fun other ho =>
    List.mem_append_left _ ho
  refine ⟨?_, ?_, ?_, ?_, ?_, ?_⟩
  · intro t ht
    rw [window]
    exact h.claimed t (claimed t ht)
  · intro other ho
    rw [hpending] at ho
    rw [generation, window]
    exact h.bound other (hsub other ho)
  · intro other ho hg
    rw [hpending] at ho
    rw [entry, window]
    rw [generation] at hg
    exact h.current other (hsub other ho) hg
  · intro other ho hg
    rw [hpending] at ho
    rw [entry, window]
    rw [generation] at hg
    exact h.older other (hsub other ho) hg
  · have hnodup := h.nodup
    rw [hpending]
    rw [EarlyRefresh.pending, List.map_append, List.nodup_append] at hnodup
    exact hnodup.1
  · intro e he hout
    rw [entry] at he
    rw [window] at hout
    rw [hpending, generation]
    exact matched e he hout

/-- A worker that has failed to refresh gives up the claim of its job, and no other. -/
theorem Claims.forgo {job : RefreshJob} (h : Claims now c r (some job))
    (entry : c'.entry = c.entry) (generation : c'.generation = c.generation) :
    Claims now c' (r.unclaim job.expiresAt) none := by
  have hfields : (r.unclaim job.expiresAt).window = r.window ∧
      (r.unclaim job.expiresAt).jobs = r.jobs ∧
      (r.unclaim job.expiresAt).claimed =
        if r.claimed = some job.expiresAt then none else r.claimed := by
    rw [EarlyRefresh.unclaim]
    split <;> exact ⟨rfl, rfl, rfl⟩
  obtain ⟨hwindow, hjobs, hclaimed⟩ := hfields
  refine h.remove entry generation hwindow hjobs ?_ ?_
  · intro t ht
    rw [hclaimed] at ht
    split at ht
    · cases ht
    · exact ht
  · intro e he outlasts
    have hjob : job ∈ r.pending (some job) := List.mem_append_right _ List.mem_cons_self
    rw [hclaimed]
    rcases Nat.lt_or_eq_of_le (h.bound job hjob).1 with older | current
    · -- the claim is on another expiry than that of the job, if it is on the entry
      rw [← h.matched_of_older older he outlasts]
      have hne := h.expiresAt_ne_of_older older he outlasts
      split
      next hc =>
        rw [hc, Option.some.injEq]
        exact ⟨fun hnone => (by cases hnone), fun heq => absurd heq hne⟩
      next => exact Iff.rfl
    · -- the entry has lost its only refresh, and the claim on it is given up
      obtain ⟨e', he', hexpires, -⟩ := h.current job hjob current
      rw [he] at he'
      cases he'
      rw [hexpires]
      constructor
      · intro hc
        split at hc
        next => cases hc
        next hne => exact absurd hc hne
      · rintro ⟨other, ho, hg⟩
        exact absurd (hg.trans current.symm) (h.generation_ne ho)

/-! ### Steps -/

/-- The queue takes no job, and the claim on some other expiry is lost. -/
theorem Claims.lose {e : Entry V} (h : Claims now c r duty) (he : c.entry = some e)
    (unclaimed : r.claimed ≠ some e.expiresAt) (entry : c'.entry = c.entry)
    (generation : c'.generation = c.generation) :
    Claims now c' { r with claimed := none } duty := by
  refine ⟨fun t ht => (by cases ht), ?_, ?_, ?_, h.nodup, ?_⟩
  · rw [generation]
    exact h.bound
  · rw [generation, entry]
    exact h.current
  · rw [generation, entry]
    exact h.older
  · intro e' he' outlasts
    rw [entry, he] at he'
    cases he'
    rw [generation]
    constructor
    · intro hnone
      cases hnone
    · intro hjob
      exact absurd ((h.matched e he outlasts).2 hjob) unclaimed

/-- A new entry has no refresh, and no claim is on it: it expires after the end of the window that
the claim is within. -/
theorem Claims.install {e : Entry V} (h : Claims now c r duty) (entry : c'.entry = some e)
    (installed : e.installedAt = now) (generation : c'.generation = c.generation + 1)
    (claimed : r'.claimed = r.claimed) (window : r'.window = r.window) (jobs : r'.jobs = r.jobs) :
    Claims now c' r' duty := by
  have hpending : r'.pending duty = r.pending duty := by simp [EarlyRefresh.pending, jobs]
  refine ⟨?_, ?_, ?_, ?_, ?_, ?_⟩
  · intro t ht
    rw [claimed] at ht
    rw [window]
    exact h.claimed t ht
  · intro job hjob
    rw [hpending] at hjob
    rw [generation, window]
    have hb := h.bound job hjob
    exact ⟨Nat.le_succ_of_le hb.1, hb.2⟩
  · intro job hjob hg
    rw [hpending] at hjob
    have hb := (h.bound job hjob).1
    omega
  · intro job hjob hg
    rw [hpending] at hjob
    refine ⟨e, entry, ?_⟩
    rw [installed, window]
    exact (h.bound job hjob).2
  · rw [hpending]
    exact h.nodup
  · intro e' he' outlasts
    rw [entry] at he'
    cases he'
    rw [hpending, generation, claimed]
    -- neither the claim nor a pending refresh is about the new entry
    constructor
    · intro hc
      have hle := h.claimed _ hc
      rw [Entry.outlasts_iff, installed, window] at outlasts
      omega
    · rintro ⟨job, hjob, hg⟩
      have hb := (h.bound job hjob).1
      omega

/-- Every step keeps the claims in order. -/
theorem ClaimStep.keeps (step : ClaimStep now c c' r r' duty duty') (window : r'.window = r.window)
    (h : Claims now c r duty) : Claims now c' r' duty' := by
  cases step with
  | keep entry generation claimed jobs =>
      exact h.congr entry generation claimed window (by simp [EarlyRefresh.pending, jobs])
  | @schedule e duty entry inWindow outlasts entry' generation early =>
      rcases r.schedule_cases ⟨c.generation, e.expiresAt⟩ with ⟨-, hs⟩ | ⟨unclaimed, -, hs⟩ |
        ⟨unclaimed, -, hs⟩
      · rw [early, hs]
        exact h.congr entry' generation rfl rfl (List.Perm.refl _)
      · rw [early, hs]
        refine h.add entry (Int.le_of_lt inWindow) outlasts unclaimed entry' generation rfl rfl ?_
        simp only [EarlyRefresh.pending, List.append_assoc, List.singleton_append]
        exact List.perm_middle
      · rw [early, hs]
        exact h.lose entry unclaimed entry' generation
  | install entry installed generation claimed jobs =>
      exact h.install entry installed generation claimed window jobs
  | @take job rest entry generation claimed jobs jobs' =>
      refine h.congr entry generation claimed window ?_
      simp only [EarlyRefresh.pending, jobs, jobs', Option.toList_some, Option.toList_none,
        List.append_nil]
      exact List.perm_append_singleton job rest
  | fire entry inWindow outlasts unclaimed entry' generation claimed jobs =>
      refine h.add entry inWindow outlasts unclaimed entry' generation claimed window ?_
      simp only [EarlyRefresh.pending, jobs, Option.toList_some, Option.toList_none,
        List.append_nil]
      exact List.perm_append_singleton _ _
  | succeed gone entry generation claimed jobs =>
      refine h.remove entry generation window jobs (fun t ht => claimed ▸ ht) ?_
      intro e he outlasts
      rw [claimed]
      exact h.matched_of_older gone he outlasts
  | forgo entry generation early =>
      subst early
      exact h.forgo entry generation

/-- Time only brings the claims closer. -/
theorem Claims.later {now' : Instant} (h : Claims now c r duty) (hle : now ≤ now') :
    Claims now' c r duty := by
  rw [Instant.le_def] at hle
  refine ⟨?_, ?_, h.current, h.older, h.nodup, h.matched⟩
  · intro t ht
    have := h.claimed t ht
    omega
  · intro job hjob
    have hb := h.bound job hjob
    exact ⟨hb.1, by omega⟩

end Keeps

end CredentialSupply
