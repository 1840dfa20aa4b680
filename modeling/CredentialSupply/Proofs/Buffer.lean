import CredentialSupply.Proofs.Validity
import CredentialSupply.Source.Script

set_option autoImplicit false

/-!
# What a larger buffer does

The buffer is taken off the expiry of a value as far as the clock reaches back, and there a larger
buffer never keeps the value longer (`Lifetime.buffered_le_buffered`). A buffer from which on the
clock does not reach back is dropped altogether, so the value stays up to its own expiry: longer
than under any smaller buffer that cuts its stay short. `Lifetime.larger_buffer_expires_later_iff`
says that nothing else breaks the order, and `unreachable_buffer_keeps_value` shows it broken.
-/

namespace CredentialSupply

namespace Instant

theorem lt_iff_not_le {s t : Instant} : s < t ↔ ¬ t ≤ s := Int.not_le.symm

theorem earlier?_isSome_iff (t : Instant) (span : Span) :
    (t.earlier? span).isSome = true ↔ Representable ⟨t.nanos - span.nanos⟩ := by
  rw [earlier?, represented?]
  by_cases h : Representable ⟨t.nanos - span.nanos⟩ <;> simp [h]

/-- A span that leads from an instant of the clock out of its reach leads beyond its lower end. -/
theorem lt_of_earlier?_eq_none {t : Instant} {span : Span} (clock : t.Representable)
    (h : t.earlier? span = none) : t.nanos - span.nanos < -(reach : Int) := by
  have unreached : ¬ Representable ⟨t.nanos - span.nanos⟩ := by
    rw [← earlier?_isSome_iff, h]
    exact Bool.false_ne_true
  obtain ⟨-, below⟩ := clock
  apply Int.not_le.1
  intro above
  exact unreached ⟨above, by simp only; omega⟩

/-- Where the clock reaches back by a span, it reaches back by every shorter one. -/
theorem earlier?_isSome_of_le {t : Instant} {short long : Span} (clock : t.Representable)
    (le : short.nanos ≤ long.nanos) (h : (t.earlier? long).isSome = true) :
    (t.earlier? short).isSome = true := by
  rw [earlier?_isSome_iff] at h ⊢
  obtain ⟨above, -⟩ := h
  obtain ⟨-, below⟩ := clock
  simp only [Representable] at above below ⊢
  constructor <;> omega

/-- A later bound is seen past a deadline only if the earlier one lies before that. -/
theorem earliest_lt_earliest_iff {s t u : Instant} :
    s.earliest t < s.earliest u ↔ t < s ∧ t < u := by
  rw [earliest, earliest]
  simp only [lt_def, le_def]
  split <;> split <;> omega

theorem representable_earliest {s t : Instant} (hs : s.Representable) (ht : t.Representable) :
    (s.earliest t).Representable := by
  rw [earliest]
  split
  · exact hs
  · exact ht

end Instant

namespace Lifetime

variable {V : Type} [Perishable V] {timeToLive small large : Span} {v : V}
  {now own deadline : Instant}

theorem buffered_of_earlier? {l : Lifetime} {t : Instant} (h : own.earlier? l.buffer = some t) :
    l.buffered own = t := by
  rw [buffered, h, Option.getD_some]

theorem buffered_of_out_of_reach {l : Lifetime} (h : own.earlier? l.buffer = none) :
    l.buffered own = own := by
  rw [buffered, h, Option.getD_none]

/-- Within the reach of the clock a larger buffer ends the stay no later. -/
theorem buffered_le_buffered (clock : own.Representable) (le : small.nanos ≤ large.nanos)
    (reached : (own.earlier? large).isSome = true) :
    buffered ⟨timeToLive, large⟩ own ≤ buffered ⟨timeToLive, small⟩ own := by
  obtain ⟨early, hearly⟩ := Option.isSome_iff_exists.1 reached
  obtain ⟨late, hlate⟩ :=
    Option.isSome_iff_exists.1 (Instant.earlier?_isSome_of_le clock le reached)
  have early_eq := Instant.earlier?_eq_some hearly
  have late_eq := Instant.earlier?_eq_some hlate
  rw [buffered_of_earlier? hearly, buffered_of_earlier? hlate, Instant.le_def]
  omega

/-- The order of two buffers is broken by the larger one being dropped while the smaller one is
not. -/
theorem buffered_lt_buffered_iff (clock : own.Representable) (le : small.nanos ≤ large.nanos) :
    buffered ⟨timeToLive, small⟩ own < buffered ⟨timeToLive, large⟩ own ↔
      own.earlier? large = none ∧ ∃ bound, own.earlier? small = some bound ∧ bound < own := by
  constructor
  · intro broken
    cases unreached : own.earlier? large with
    | some t =>
      have reached : (own.earlier? large).isSome = true := by
        rw [unreached, Option.isSome_some]
      have ordered : buffered ⟨timeToLive, large⟩ own ≤ buffered ⟨timeToLive, small⟩ own :=
        buffered_le_buffered clock le reached
      exact absurd ordered (Instant.lt_iff_not_le.mp broken)
    | none =>
      refine ⟨rfl, ?_⟩
      rw [buffered_of_out_of_reach (l := ⟨timeToLive, large⟩) unreached] at broken
      cases reached : own.earlier? small with
      | some bound =>
        rw [buffered_of_earlier? (l := ⟨timeToLive, small⟩) reached] at broken
        exact ⟨bound, rfl, broken⟩
      | none =>
        rw [buffered_of_out_of_reach (l := ⟨timeToLive, small⟩) reached] at broken
        exact absurd (Instant.le_refl own) (Instant.lt_iff_not_le.mp broken)
  · rintro ⟨unreached, bound, reached, before⟩
    rw [buffered_of_out_of_reach (l := ⟨timeToLive, large⟩) unreached,
      buffered_of_earlier? (l := ⟨timeToLive, small⟩) reached]
    exact before

/-- Without an expiry of its own a value stays for the time to live, whatever the buffer. -/
theorem expiry?_of_plain {l : Lifetime} (room : now.later? l.timeToLive = some deadline)
    (plain : Perishable.ownExpiry v = none) : l.expiry? v now = some deadline := by
  simp [expiry?, room, plain]

theorem expiry?_of_own {l : Lifetime} (room : now.later? l.timeToLive = some deadline)
    (expires : Perishable.ownExpiry v = some own) :
    l.expiry? v now = some (deadline.earliest (l.buffered own)) := by
  simp [expiry?, room, expires]

/-- A buffer is kept to exactly where the clock reaches back by it. -/
theorem le_buffer_iff (room : now.later? timeToLive = some deadline) (clock : own.Representable) :
    (deadline.earliest (buffered ⟨timeToLive, large⟩ own)).nanos ≤ own.nanos - large.nanos ↔
      (own.earlier? large).isSome = true := by
  constructor
  · intro kept
    cases reached : own.earlier? large with
    | some t => rfl
    | none =>
      -- the stay would end at an instant that the clock does not represent
      have beyond := Instant.lt_of_earlier?_eq_none clock reached
      rw [buffered_of_out_of_reach (l := ⟨timeToLive, large⟩) reached] at kept
      obtain ⟨above, -⟩ :=
        Instant.representable_earliest (Instant.representable_of_later? room) clock
      omega
  · intro reached
    obtain ⟨t, ht⟩ := Option.isSome_iff_exists.1 reached
    have bound := Instant.earliest_le_right deadline t
    rw [buffered_of_earlier? (l := ⟨timeToLive, large⟩) ht, ← Instant.earlier?_eq_some ht]
    exact bound

/-- **A larger buffer ends the stay of a value later just when it is dropped**, the clock not
reaching back that far, while the smaller one still cuts the stay short. And the stay ends no later
than the buffer before the expiry of the value exactly where the clock reaches back that far. -/
theorem larger_buffer_expires_later_iff (le : small.nanos ≤ large.nanos)
    (room : now.later? timeToLive = some deadline)
    (clock : ∀ own, Perishable.ownExpiry v = some own → own.Representable) :
    ∃ wary bold, expiry? ⟨timeToLive, large⟩ v now = some wary ∧
      expiry? ⟨timeToLive, small⟩ v now = some bold ∧
      (bold < wary ↔ ∃ own bound, Perishable.ownExpiry v = some own ∧
        own.earlier? large = none ∧ own.earlier? small = some bound ∧
        bound < own ∧ bound < deadline) ∧
      ∀ own, Perishable.ownExpiry v = some own →
        (wary.nanos ≤ own.nanos - large.nanos ↔ (own.earlier? large).isSome = true) := by
  cases expires : Perishable.ownExpiry v with
  | none =>
    refine ⟨deadline, deadline, expiry?_of_plain room expires, expiry?_of_plain room expires,
      ⟨fun broken => absurd (Int.le_refl _) (Instant.lt_iff_not_le.mp broken), ?_⟩, ?_⟩
    · rintro ⟨own, bound, ⟨⟩, -⟩
    · rintro own ⟨⟩
  | some own =>
    have reachable := clock own expires
    refine ⟨_, _, expiry?_of_own room expires, expiry?_of_own room expires, ?_, ?_⟩
    · rw [Instant.earliest_lt_earliest_iff, buffered_lt_buffered_iff reachable le]
      constructor
      · rintro ⟨before, unreached, bound, reached, cut⟩
        rw [buffered_of_earlier? (l := ⟨timeToLive, small⟩) reached] at before
        exact ⟨own, bound, rfl, unreached, reached, cut, before⟩
      · rintro ⟨own', bound, same, unreached, reached, cut, before⟩
        cases same
        rw [buffered_of_earlier? (l := ⟨timeToLive, small⟩) reached]
        exact ⟨before, unreached, bound, reached, cut⟩
    · intro own' same
      cases same
      exact le_buffer_iff room reachable

/-- The longest span. -/
def longestSpan : Span := ⟨spanLimit - 1, by decide +kernel⟩

/-- Half a minute before its expiry a value is no longer kept, under a buffer of that length; under
the longest buffer it is kept up to the expiry. -/
theorem unreachable_buffer_keeps_value :
    ∃ wary bold, expiry? ⟨Span.ofSeconds 3600, longestSpan⟩
        (⟨1, some ⟨300000000000⟩⟩ : Dated Nat) Instant.origin = some wary ∧
      expiry? ⟨Span.ofSeconds 3600, Span.ofSeconds 30⟩
        (⟨1, some ⟨300000000000⟩⟩ : Dated Nat) Instant.origin = some bold ∧
      bold < wary ∧ wary = ⟨300000000000⟩ := by
  let own : Instant := ⟨300000000000⟩
  have le : (Span.ofSeconds 30).nanos ≤ longestSpan.nanos := by decide +kernel
  have room : Instant.origin.later? (Span.ofSeconds 3600) = some ⟨3600000000000⟩ := by
    decide +kernel
  have clock : ∀ own', Perishable.ownExpiry (⟨1, some own⟩ : Dated Nat) = some own' →
      own'.Representable := by
    rintro own' ⟨⟩
    decide +kernel
  have unreached : own.earlier? longestSpan = none := by decide +kernel
  have reached : own.earlier? (Span.ofSeconds 30) = some ⟨270000000000⟩ := by decide +kernel
  obtain ⟨wary, bold, hwary, hbold, broken, -⟩ := larger_buffer_expires_later_iff le room clock
  have kept : expiry? ⟨Span.ofSeconds 3600, longestSpan⟩ (⟨1, some own⟩ : Dated Nat)
      Instant.origin = some own := by decide +kernel
  refine ⟨wary, bold, hwary, hbold, ?_, Option.some.inj (hwary.symm.trans kept)⟩
  exact broken.mpr ⟨own, _, rfl, unreached, reached, by decide, by decide⟩

end Lifetime

end CredentialSupply
