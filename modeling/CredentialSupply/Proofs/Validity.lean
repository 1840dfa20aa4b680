import CredentialSupply.Cache.EarlyRefresh
import CredentialSupply.Outcome

set_option autoImplicit false

/-!
# How long an entry is valid

The stamp of an entry never lies after the end of its time to live, nor after the expiry of
its value less the buffer (`Lifetime.le_of_entry?`). An instant at which the time to live can
be added to the clock leaves room for that at every earlier instant (`later?_isSome_of_le`),
so a bound on the end of a run bounds the whole run.
-/

namespace CredentialSupply

namespace Instant

theorem le_refl (t : Instant) : t ≤ t := Int.le_refl _

theorem le_trans {s t u : Instant} (h : s ≤ t) (h' : t ≤ u) : s ≤ u := Int.le_trans h h'

theorem le_antisymm {s t : Instant} (h : s ≤ t) (h' : t ≤ s) : s = t :=
  Instant.ext (Int.le_antisymm h h')

theorem le_latest_left (s t : Instant) : s ≤ s.latest t := by
  rw [latest]
  split
  · assumption
  · exact le_refl s

theorem le_latest_right (s t : Instant) : t ≤ s.latest t := by
  rw [latest]
  split
  · exact le_refl t
  next hlt => exact Int.le_of_lt (Int.not_le.1 hlt)

theorem earliest_le_left (s t : Instant) : s.earliest t ≤ s := by
  rw [earliest]
  split
  · exact le_refl s
  next h => exact Int.le_of_lt (Int.not_le.1 h)

theorem earliest_le_right (s t : Instant) : s.earliest t ≤ t := by
  rw [earliest]
  split
  · assumption
  · exact le_refl t

theorem earlier?_le {t u : Instant} {span : Span} (h : t.earlier? span = some u) : u ≤ t := by
  have hu := earlier?_eq_some h
  rw [le_def]
  omega

theorem le_ceilMilli (t : Instant) : t ≤ t.ceilMilli := by
  have hpos : 0 ≤ (nanosPerMilli : Int) := by decide
  have hle : Int.fdiv (-t.nanos) nanosPerMilli * nanosPerMilli ≤ -t.nanos := by
    rw [Int.fdiv_eq_ediv_of_nonneg _ hpos]
    exact Int.ediv_mul_le _ (by decide)
  show t.nanos ≤ -(Int.fdiv (-t.nanos) nanosPerMilli * nanosPerMilli)
  omega

theorem later?_isSome_iff (t : Instant) (span : Span) :
    (t.later? span).isSome = true ↔ Representable ⟨t.nanos + span.nanos⟩ := by
  rw [later?, represented?]
  by_cases h : Representable ⟨t.nanos + span.nanos⟩ <;> simp [h]

theorem representable_of_later? {t later : Instant} {span : Span}
    (passed : t.later? span = some later) : later.Representable := by
  unfold later? represented? at passed
  split at passed
  next fits =>
    cases passed
    exact fits
  next => cases passed

/-- A sum that the clock represents leaves room for every sum from its origin on that ends no
later. -/
theorem later?_isSome_of_le {s t : Instant} {short long : Span} (hs : origin ≤ s)
    (hle : s.nanos + short.nanos ≤ t.nanos + long.nanos) (h : (t.later? long).isSome = true) :
    (s.later? short).isSome = true := by
  rw [later?_isSome_iff] at h ⊢
  obtain ⟨-, hi⟩ := h
  rw [le_def] at hs
  simp only [origin, Representable] at hs hi ⊢
  constructor <;> omega

/-- What the clock has room for later, it has room for now. -/
theorem later?_isSome_before {now later : Instant} {span : Span} (clock : origin ≤ now)
    (le : now ≤ later) (room : (later.later? span).isSome = true) :
    (now.later? span).isSome = true := by
  apply later?_isSome_of_le clock _ room
  rw [le_def] at le
  omega

end Instant

namespace Entry

variable {V : Type}

theorem isValid_iff (e : Entry V) (now : Instant) : e.isValid now = true ↔ now ≤ e.expiresAt := by
  simp [isValid]

/-- An entry that is served for longer than a window was installed more than the window before
its expiry. -/
theorem outlasts_iff (e : Entry V) (window : Span) :
    e.outlasts window = true ↔ e.installedAt.nanos + window.nanos < e.expiresAt.nanos := by
  rw [outlasts, lifetime, Instant.since]
  rw [decide_eq_true_iff]
  omega

/-- What a refresh that ends at `now` with the entry `e` returns. -/
def outcome (e : Entry V) (now : Instant) : Outcome V :=
  if e.isValid now then .value e.value else .failed .refreshFailed

theorem valid_of_outcome {e : Entry V} {now : Instant} {v : V} (h : e.outcome now = .value v) :
    e.isValid now = true ∧ e.value = v := by
  unfold outcome at h
  split at h
  next valid =>
    cases h
    exact ⟨valid, rfl⟩
  next => cases h

theorem expired_of_outcome {e : Entry V} {now : Instant} {f : Failure}
    (h : e.outcome now = .failed f) : f = .refreshFailed ∧ e.isValid now = false := by
  unfold outcome at h
  split at h
  next => cases h
  next expired =>
    cases h
    exact ⟨rfl, Bool.eq_false_iff.2 expired⟩

end Entry

namespace Lifetime

variable {V : Type} [Perishable V] {l : Lifetime} {v : V} {now : Instant} {e : Entry V}

theorem buffered_le (l : Lifetime) (own : Instant) : l.buffered own ≤ own := by
  rw [buffered]
  cases h : own.earlier? l.buffer with
  | none => exact Instant.le_refl own
  | some t => exact Instant.earlier?_le h

theorem value_of_entry? (h : l.entry? v now = some e) : e.value = v := by
  obtain ⟨x, -, rfl⟩ := Option.map_eq_some_iff.1 h
  rfl

theorem installedAt_of_entry? (h : l.entry? v now = some e) : e.installedAt = now := by
  obtain ⟨x, -, rfl⟩ := Option.map_eq_some_iff.1 h
  rfl

theorem entry?_isSome (l : Lifetime) (v : V) (h : (now.later? l.timeToLive).isSome) :
    ∃ e, l.entry? v now = some e := by
  obtain ⟨t, ht⟩ := Option.isSome_iff_exists.1 h
  rw [ entry?, expiry?]
  rw [ht]
  exact ⟨_, rfl⟩

/-- The two bounds on the expiry of a fresh entry: its time to live, and the expiry of its own
value, less the buffer where the clock reaches back that far. -/
theorem le_of_entry? (h : l.entry? v now = some e) :
    e.expiresAt.nanos ≤ now.nanos + l.timeToLive.nanos ∧
      ∀ own, Perishable.ownExpiry v = some own →
        e.expiresAt ≤ own ∧ ∀ t, own.earlier? l.buffer = some t → e.expiresAt ≤ t := by
  obtain ⟨x, hx, rfl⟩ := Option.map_eq_some_iff.1 h
  obtain ⟨deadline, hd, rfl⟩ := Option.map_eq_some_iff.1 hx
  have hdeadline := Instant.later?_eq_some hd
  cases hown : Perishable.ownExpiry v with
  | none => exact ⟨by simp only; omega, fun own h => by cases h⟩
  | some own =>
      simp only
      constructor
      · have := Instant.earliest_le_left deadline (l.buffered own)
        rw [Instant.le_def] at this
        omega
      · intro own' h'
        cases h'
        have hle := Instant.earliest_le_right deadline (l.buffered own)
        refine ⟨Instant.le_trans hle (buffered_le l own), fun t ht => ?_⟩
        have hb : l.buffered own = t := by simp [buffered, ht]
        rw [← hb]
        exact hle

end Lifetime

end CredentialSupply
