import CredentialSupply.Cache.Basic
import CredentialSupply.Proofs.Validity

set_option autoImplicit false

/-!
# Scheduling a refresh

The three things that `schedule` can do, and the one thing that a lookup in the window does to
a cache.
-/

namespace CredentialSupply

/-- When the window before the expiry of an entry has begun, the expiry is at most the window
away. -/
theorem Entry.le_of_windowStart_le {V : Type} {e : Entry V} {window : Span} {now : Instant}
    (h : e.windowStart window ≤ now) : e.expiresAt.nanos ≤ now.nanos + window.nanos := by
  unfold windowStart at h
  rw [Instant.le_def] at h
  cases hstart : e.expiresAt.earlier? window with
  | none =>
      rw [hstart] at h
      exact Int.le_trans h (Int.le_add_of_nonneg_right (Int.natCast_nonneg _))
  | some start =>
      have hnanos := Instant.earlier?_eq_some hstart
      rw [hstart, Option.getD_some] at h
      omega

namespace EarlyRefresh

/-- The same worker with the same instructions. -/
def SameWorker (r r' : EarlyRefresh) : Prop :=
  r'.window = r.window ∧ r'.mode = r.mode ∧ r'.worker = r.worker ∧ r'.stopped = r.stopped

theorem SameWorker.refl (r : EarlyRefresh) : r.SameWorker r := ⟨rfl, rfl, rfl, rfl⟩

theorem unclaim_of_claimed {r : EarlyRefresh} {t : Instant} (h : r.claimed = some t) :
    r.unclaim t = { r with claimed := none } := if_pos h

theorem unclaim_of_not_claimed {r : EarlyRefresh} {t : Instant} (h : r.claimed ≠ some t) :
    r.unclaim t = r := if_neg h

theorem sameWorker_unclaim (r : EarlyRefresh) (t : Instant) : r.SameWorker (r.unclaim t) := by
  by_cases h : r.claimed = some t
  · rw [unclaim_of_claimed h]
    exact .refl r
  · rw [unclaim_of_not_claimed h]
    exact .refl r

/-- Either the expiry is claimed already, or the queue takes the job, or it is full or closed and
no claim is left. -/
theorem schedule_cases (r : EarlyRefresh) (job : RefreshJob) :
    (r.claimed = some job.expiresAt ∧ r.schedule job = r) ∨
      (r.claimed ≠ some job.expiresAt ∧ r.takesJob = true ∧
        r.schedule job = { r with claimed := some job.expiresAt, jobs := r.jobs ++ [job] }) ∨
      (r.claimed ≠ some job.expiresAt ∧ r.takesJob = false ∧
        r.schedule job = { r with claimed := none }) := by
  by_cases h : r.claimed = some job.expiresAt
  · exact Or.inl ⟨h, schedule_of_claimed h⟩
  · right
    have hclaim : r.claim? job.expiresAt = some { r with claimed := some job.expiresAt } := if_neg h
    have htakes : EarlyRefresh.takesJob { r with claimed := some job.expiresAt } = r.takesJob := rfl
    simp only [schedule, hclaim, htakes]
    cases ht : r.takesJob with
    | true => exact Or.inl ⟨h, rfl, rfl⟩
    | false => exact Or.inr ⟨h, rfl, unclaim_of_claimed rfl⟩

theorem sameWorker_schedule (r : EarlyRefresh) (job : RefreshJob) :
    r.SameWorker (r.schedule job) := by
  rcases schedule_cases r job with ⟨-, h⟩ | ⟨-, -, h⟩ | ⟨-, -, h⟩ <;> rw [h] <;> exact .refl r

end EarlyRefresh

namespace Cache

variable {V : Type} {c c' : Cache V} {e : Entry V} {now : Instant}

/-- An entry that is taken over is one that the caller has not seen. -/
theorem of_replacement? {seen : Nat} (h : c.replacement? seen = some e) :
    c.generation ≠ seen ∧ c.entry = some e := by
  unfold replacement? at h
  split at h
  · cases h
  next hne => exact ⟨hne, h⟩

/-- A lookup changes a cache only by scheduling a refresh of its entry: when the clock is in the
window before the expiry and the entry is served for longer than the window. -/
theorem noticed?_cases (h : c.noticed? e now = some c') :
    c' = c ∨ ∃ r, c.early = some r ∧ e.expiresAt.nanos < now.nanos + r.window.nanos ∧
      e.outlasts r.window = true ∧
      c' = { c with early := some (r.schedule ⟨c.generation, e.expiresAt⟩) } := by
  unfold noticed? at h
  split at h
  · cases h
    exact Or.inl rfl
  next r hr =>
    obtain ⟨edge, hedge, he⟩ := Option.map_eq_some_iff.1 h
    have hnanos := Instant.later?_eq_some hedge
    split at he
    next hwindow =>
      simp only [Bool.and_eq_true, Bool.not_eq_true'] at hwindow
      refine Or.inr ⟨r, hr, ?_, hwindow.2, he.symm⟩
      have hlt : ¬ edge ≤ e.expiresAt := by simpa [Entry.isValid] using hwindow.1
      rw [Instant.le_def] at hlt
      omega
    next => exact Or.inl he.symm

/-- A lookup of a valid entry crashes only when the clock does not represent the end of the
window. -/
theorem exists_noticed? (e : Entry V)
    (h : ∀ r, c.early = some r → (now.later? r.window).isSome = true) :
    ∃ c', c.noticed? e now = some c' := by
  cases hr : c.early with
  | none => exact ⟨c, by simp [noticed?, hr]⟩
  | some r =>
      obtain ⟨edge, hedge⟩ := Option.isSome_iff_exists.1 (h r hr)
      simp only [noticed?, hr, hedge, Option.map_some]
      exact ⟨_, rfl⟩

end Cache

end CredentialSupply
