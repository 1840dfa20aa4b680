import CredentialSupply.Proofs.Rounding
import CredentialSupply.Proofs.Validity

set_option autoImplicit false

/-!
# What a bucket shows is what it grants

However a bucket has been used since it was created (`Used`), what it computes stays within the
range of binary64 (`Used.computes`), so that rounding is all that floating point adds to its
arithmetic. It never shows more tokens than it has room for, and as many requests in a row are
granted as it shows tokens, and no more (`shown_tokens_are_granted`).
-/

namespace CredentialSupply

namespace Binary64

/-! ## The range of binary64 -/

/-- Zero and the numbers of 53 significant bits within the range of normal exponents. -/
structure IsNumber (q : Rat) : Prop where
  exact : IsExact q
  range : q = 0 ∨ (2 : Rat) ^ (-1022 : Int) ≤ q ∧ q < 2 ^ (1024 : Int)

/-- Zero and what lies between two powers of two. -/
def Within (low high : Int) (q : Rat) : Prop := q = 0 ∨ (2 : Rat) ^ low ≤ q ∧ q ≤ 2 ^ high

theorem le_roundDiv {num den bound : Nat} (pos : 0 < den) (h : bound * den ≤ num) :
    bound ≤ roundDiv num den := by
  have low : bound ≤ num / den := (Nat.le_div_iff_mul_le pos).mpr h
  unfold roundDiv
  dsimp only
  split
  · exact low
  · split <;> omega

theorem le_roundScaled {num den bound : Nat} (pos : 0 < den) {place : Int}
    (h : bound * 2 ^ place ≤ (num / den : Rat)) : bound ≤ roundScaled num den place := by
  obtain ⟨n, d, dPos, rounded, quotient⟩ := exists_roundDiv num pos place
  have scale : (0 : Rat) < 2 ^ place := by positivity
  have above : (bound : Rat) ≤ n / d := le_of_mul_le_mul_right (quotient ▸ h) scale
  rw [le_div_iff₀ (by exact_mod_cast dPos)] at above
  rw [rounded]
  exact le_roundDiv dPos (by exact_mod_cast above)

/-- A significand at the bounds of its range. -/
theorem natPow_mul_zpow (bits : Nat) (place : Int) :
    ((2 ^ bits : Nat) : Rat) * 2 ^ place = 2 ^ (place + bits) := by
  rw [zpow_add₀ (by norm_num), zpow_natCast, mul_comm, Nat.cast_pow, Nat.cast_ofNat]

/-- A rounded number lies between the same neighbouring powers of two. -/
theorem nearest_bounds {q : Rat} (pos : 0 < q) :
    (2 : Rat) ^ (lastPlace q.num.toNat q.den + 52) ≤ nearest q ∧
      nearest q ≤ 2 ^ (lastPlace q.num.toNat q.den + 53) := by
  obtain ⟨placeLow, placeHigh⟩ := place_spec pos
  generalize hplace : lastPlace q.num.toNat q.den = place at placeLow placeHigh
  have low := natPow_mul_zpow 52 place
  have high := natPow_mul_zpow 53 place
  have scale : (0 : Rat) < 2 ^ place := by positivity
  have significandLow : 2 ^ 52 ≤ roundScaled q.num.toNat q.den place :=
    le_roundScaled q.den_pos (by rw [quotient_eq pos, low]; exact placeLow)
  have significandHigh : roundScaled q.num.toNat q.den place ≤ 2 ^ 53 :=
    roundScaled_le q.den_pos (by rw [quotient_eq pos, high]; exact placeHigh.le)
  rw [nearest_of_pos pos, hplace]
  constructor
  · calc (2 : Rat) ^ (place + 52) = ((2 ^ 52 : Nat) : Rat) * 2 ^ place := low.symm
      _ ≤ _ := by gcongr
  · calc _ ≤ ((2 ^ 53 : Nat) : Rat) * 2 ^ place := by gcongr
      _ = 2 ^ (place + 53) := high

theorem nearest_pos {q : Rat} (pos : 0 < q) : 0 < nearest q :=
  lt_of_lt_of_le (by positivity) (nearest_bounds pos).1

theorem ofNat_pos {n : Nat} (pos : 0 < n) : 0 < ofNat n := nearest_pos (by exact_mod_cast pos)

/-- Rounding does not go below a power of two. -/
theorem le_nearest {q : Rat} {low : Int} (h : (2 : Rat) ^ low ≤ q) :
    (2 : Rat) ^ low ≤ nearest q := by
  have pos : 0 < q := lt_of_lt_of_le (by positivity) h
  have exponent : low < lastPlace q.num.toNat q.den + 53 :=
    (zpow_lt_zpow_iff_right₀ one_lt_two).mp (h.trans_lt (place_spec pos).2)
  calc (2 : Rat) ^ low ≤ 2 ^ (lastPlace q.num.toNat q.den + 52) :=
        zpow_le_zpow_right₀ one_le_two (by omega)
    _ ≤ nearest q := (nearest_bounds pos).1

/-- Rounding does not go beyond a power of two. -/
theorem nearest_le {q : Rat} {high : Int} (h : q ≤ (2 : Rat) ^ high) : nearest q ≤ 2 ^ high := by
  rcases le_or_gt q 0 with nonpos | pos
  · rw [nearest_of_nonpos nonpos]
    positivity
  have exponent : lastPlace q.num.toNat q.den + 52 ≤ high :=
    (zpow_le_zpow_iff_right₀ one_lt_two).mp ((place_spec pos).1.trans h)
  rcases exponent.eq_or_lt with same | below
  · -- the number is the power itself, which rounding leaves as it is
    have power : q = 2 ^ high := le_antisymm h (same ▸ (place_spec pos).1)
    have exact : IsExact q := ⟨1, high, by norm_num, by rw [power, Nat.cast_one, one_mul]⟩
    rw [nearest_eq_self exact pos.le]
    exact h
  · calc nearest q ≤ 2 ^ (lastPlace q.num.toNat q.den + 53) := (nearest_bounds pos).2
      _ ≤ 2 ^ high := zpow_le_zpow_right₀ one_le_two (by omega)

namespace Within

variable {low high low' high' : Int} {a b q : Rat}

theorem mono (h : Within low high q) (hlow : low' ≤ low) (hhigh : high ≤ high') :
    Within low' high' q := by
  rcases h with rfl | ⟨above, below⟩
  · exact Or.inl rfl
  · exact Or.inr ⟨(zpow_le_zpow_right₀ one_le_two hlow).trans above,
      below.trans (zpow_le_zpow_right₀ one_le_two hhigh)⟩

theorem nearest (h : Within low high q) : Within low high (nearest q) := by
  rcases h with rfl | ⟨above, below⟩
  · exact Or.inl (nearest_of_nonpos le_rfl)
  · exact Or.inr ⟨le_nearest above, nearest_le below⟩

/-- What 53 bits hold is a number of binary64 where the exponents reach. -/
theorem isNumber (h : Within low high q) (exact : IsExact q) (hlow : -1022 ≤ low)
    (hhigh : high < 1024) : IsNumber q := by
  refine ⟨exact, ?_⟩
  rcases h with zero | ⟨above, below⟩
  · exact Or.inl zero
  · exact Or.inr ⟨(zpow_le_zpow_right₀ one_le_two hlow).trans above,
      below.trans_lt (zpow_lt_zpow_right₀ one_lt_two hhigh)⟩

theorem ofNat {n bits : Nat} (h : n ≤ 2 ^ bits) : Within 0 bits (Binary64.ofNat n) := by
  refine Within.nearest ?_
  rcases Nat.eq_zero_or_pos n with rfl | pos
  · exact Or.inl Nat.cast_zero
  · refine Or.inr ⟨?_, ?_⟩
    · rw [zpow_zero]
      exact_mod_cast pos
    · rw [zpow_natCast]
      exact_mod_cast h

theorem mul (ha : Within low high a) (hb : Within low' high' b) :
    Within (low + low') (high + high') (a * b) := by
  have two : (2 : Rat) ≠ 0 := by norm_num
  rcases ha with rfl | ⟨aboveA, belowA⟩
  · exact Or.inl (zero_mul b)
  rcases hb with rfl | ⟨aboveB, belowB⟩
  · exact Or.inl (mul_zero a)
  have posA : 0 < a := lt_of_lt_of_le (by positivity) aboveA
  have posB : 0 < b := lt_of_lt_of_le (by positivity) aboveB
  refine Or.inr ⟨?_, ?_⟩
  · rw [zpow_add₀ two]
    gcongr
  · rw [zpow_add₀ two]
    gcongr

theorem inv (h : Within low high q) : Within (-high) (-low) q⁻¹ := by
  rcases h with rfl | ⟨above, below⟩
  · exact Or.inl inv_zero
  have pos : 0 < q := lt_of_lt_of_le (by positivity) above
  refine Or.inr ⟨?_, ?_⟩
  · rw [zpow_neg]
    exact inv_anti₀ pos below
  · rw [zpow_neg]
    exact inv_anti₀ (by positivity) above

theorem div (ha : Within low high a) (hb : Within low' high' b) :
    Within (low - high') (high - low') (a / b) := by
  rw [div_eq_mul_inv]
  exact ha.mul hb.inv

theorem add (ha : Within low high a) (hb : Within low high b) : Within low (high + 1) (a + b) := by
  rcases ha with rfl | ⟨aboveA, belowA⟩
  · rw [zero_add]
    exact hb.mono le_rfl (by omega)
  rcases hb with rfl | ⟨aboveB, belowB⟩
  · rw [add_zero]
    exact Within.mono (Or.inr ⟨aboveA, belowA⟩) le_rfl (by omega)
  have scale : (0 : Rat) < 2 ^ low := by positivity
  refine Or.inr ⟨by linarith, ?_⟩
  rw [zpow_add_one₀ (by norm_num)]
  linarith

end Within

end Binary64

open Binary64 (IsNumber Within isExact_nearest)

/-! ## The numbers of a bucket -/

theorem nanosPerSecond_le : nanosPerSecond ≤ 2 ^ 30 := by norm_num

/-- Seconds lie between the least part of a second and the length of the longest span. -/
theorem floatSeconds_within {nanos : Nat} (fits : nanos < spanLimit) :
    Within (-30) 65 (floatSeconds nanos) := by
  have seconds : nanos / nanosPerSecond ≤ 2 ^ 64 :=
    (Nat.div_lt_of_lt_mul (by rwa [Nat.mul_comm])).le
  have rest : nanos % nanosPerSecond ≤ 2 ^ 30 :=
    (Nat.mod_lt _ (by decide)).le.trans nanosPerSecond_le
  have part : Within (-30) 30
      (Binary64.ofNat (nanos % nanosPerSecond) / Binary64.ofNat nanosPerSecond) :=
    (Within.ofNat rest).div (Within.ofNat nanosPerSecond_le)
  exact (((Within.ofNat seconds).mono (by norm_num) le_rfl).add
    (part.nearest.mono le_rfl (by norm_num))).nearest

theorem floatSeconds_pos {nanos : Nat} (pos : 0 < nanos) : 0 < floatSeconds nanos := by
  have second : 0 < Binary64.ofNat nanosPerSecond := Binary64.ofNat_pos (by decide)
  refine Binary64.nearest_pos ?_
  rcases Nat.eq_zero_or_pos (nanos % nanosPerSecond) with none | some
  · have whole : 0 < nanos / nanosPerSecond :=
      Nat.div_pos (Nat.le_of_dvd pos (Nat.dvd_of_mod_eq_zero none)) (by decide)
    exact add_pos_of_pos_of_nonneg (Binary64.ofNat_pos whole) (Binary64.nearest_nonneg _)
  · exact add_pos_of_nonneg_of_pos (Binary64.nearest_nonneg _)
      (Binary64.nearest_pos (div_pos (Binary64.ofNat_pos some) second))

theorem Instant.since_lt {t s : Instant} (ht : t.Representable) (hs : s.Representable) :
    t.since s < spanLimit := by
  obtain ⟨-, below⟩ := ht
  obtain ⟨above, -⟩ := hs
  have double : reach + reach = spanLimit := by decide +kernel
  have pos : 0 < reach := by decide +kernel
  unfold since
  omega

namespace TokenBucket

variable {capacity refillTokens : UInt32} {refillPeriod : Span} {b : TokenBucket} {now : Instant}

/-- A bucket as it can be at an instant: created with the given settings, and then asked for tokens
and looked at in any order while the clock moves on. -/
inductive Used (capacity refillTokens : UInt32) (refillPeriod : Span) :
    TokenBucket → Instant → Prop where
  | created {b : TokenBucket} {now : Instant} (clock : now.Representable)
      (accepted : create capacity refillTokens refillPeriod now = .ok b) :
      Used capacity refillTokens refillPeriod b now
  | waited {b : TokenBucket} {now later : Instant}
      (used : Used capacity refillTokens refillPeriod b now) (span : Span)
      (passed : now.later? span = some later) : Used capacity refillTokens refillPeriod b later
  | asked {b : TokenBucket} {now : Instant}
      (used : Used capacity refillTokens refillPeriod b now) :
      Used capacity refillTokens refillPeriod (b.tryAcquire now).2 now
  | shown {b : TokenBucket} {now : Instant}
      (used : Used capacity refillTokens refillPeriod b now) :
      Used capacity refillTokens refillPeriod (b.available now).2 now

/-- The numbers that a look at a bucket computes are numbers of binary64, and it does not divide by
zero. -/
structure Computes (b : TokenBucket) (now : Instant) : Prop where
  elapsed : IsNumber (floatSeconds (now.since b.lookedAt))
  period : IsNumber (floatSeconds b.refillPeriod.nanos)
  divisor : 0 < floatSeconds b.refillPeriod.nanos
  ratio : IsNumber (Binary64.div (floatSeconds (now.since b.lookedAt))
    (floatSeconds b.refillPeriod.nanos))
  gained : IsNumber (b.gained now)
  raised : IsNumber (Binary64.add b.tokens (b.gained now))
  kept : IsNumber (b.refill now).tokens
  spent : 1 ≤ (b.refill now).tokens → IsNumber (Binary64.sub (b.refill now).tokens 1)

/-- What using a bucket preserves. -/
structure Counted (capacity refillTokens : UInt32) (refillPeriod : Span) (b : TokenBucket)
    (now : Instant) : Prop where
  capacity_eq : b.capacity = capacity
  refillTokens_eq : b.refillTokens = refillTokens
  refillPeriod_eq : b.refillPeriod = refillPeriod
  period_pos : 0 < b.refillPeriod.nanos
  tokens : Within (-95) 32 b.tokens
  looked : b.lookedAt.Representable
  clock : now.Representable

/-! ## Range -/

theorem gained_within (looked : b.lookedAt.Representable) (clock : now.Representable) :
    Within (-95) 95 (floatSeconds (now.since b.lookedAt) / floatSeconds b.refillPeriod.nanos) ∧
      Within (-95) 127 (b.gained now) := by
  have ratio : Within (-95) 95
      (floatSeconds (now.since b.lookedAt) / floatSeconds b.refillPeriod.nanos) :=
    (floatSeconds_within (Instant.since_lt clock looked)).div
      (floatSeconds_within b.refillPeriod.fits)
  exact ⟨ratio, (ratio.nearest.mul (Within.ofNat b.refillTokens.toNat_lt.le)).nearest⟩

theorem raised_within (tokens : Within (-95) 32 b.tokens) (looked : b.lookedAt.Representable)
    (clock : now.Representable) : Within (-95) 128 (b.tokens + b.gained now) :=
  (tokens.mono le_rfl (by norm_num)).add (gained_within looked clock).2

theorem refill_within (tokens : Within (-95) 32 b.tokens) (looked : b.lookedAt.Representable)
    (clock : now.Representable) : Within (-95) 32 (b.refill now).tokens := by
  have full : (b.capacity.toNat : Rat) ≤ 2 ^ (32 : Int) := by
    rw [← Nat.cast_ofNat, zpow_ofNat]
    exact_mod_cast b.capacity.toNat_lt.le
  have most := (b.refill_le now).trans full
  simp only [refill] at most ⊢
  split
  next kept =>
    rw [if_pos kept] at most
    rcases (raised_within tokens looked clock).nearest with zero | ⟨above, -⟩
    · exact Or.inl zero
    · exact Or.inr ⟨above, most⟩
  next => exact (Within.ofNat b.capacity.toNat_lt.le).mono (by norm_num) le_rfl

/-- What is left of exact tokens after one is taken is nothing or at least a unit in the last place
of one. -/
theorem sub_one_within {q : Rat} (exact : Binary64.IsExact q) (low : 1 ≤ q)
    (high : q ≤ 2 ^ (32 : Int)) : Within (-52) 32 (q - 1) := by
  have place : (2 : Rat) ^ ((-52 : Int) + 52) ≤ q := by simpa using low
  obtain ⟨k, multiple⟩ := exact.exists_multiple place
  have unit : (2 : Rat) ^ (52 : Nat) * 2 ^ (-52 : Int) = 1 := by norm_num
  have scale : (0 : Rat) < 2 ^ (-52 : Int) := by positivity
  have enough : 2 ^ 52 ≤ k := by
    have := le_of_mul_le_mul_right (unit.trans_le (low.trans_eq multiple)) scale
    exact_mod_cast this
  obtain ⟨more, rfl⟩ := Nat.exists_eq_add_of_le enough
  have left : q - 1 = more * 2 ^ (-52 : Int) := by
    rw [multiple, ← unit]
    push_cast
    ring
  rcases Nat.eq_zero_or_pos more with rfl | some
  · exact Or.inl (by rw [left, Nat.cast_zero, zero_mul])
  · refine Or.inr ⟨?_, by linarith⟩
    rw [left]
    exact le_mul_of_one_le_left scale.le (by exact_mod_cast some)

theorem spent_within (tokens : Within (-95) 32 (b.refill now).tokens)
    (enough : 1 ≤ (b.refill now).tokens) :
    Within (-95) 32 (Binary64.sub (b.refill now).tokens 1) := by
  have high : (b.refill now).tokens ≤ 2 ^ (32 : Int) := by
    rcases tokens with zero | ⟨-, below⟩
    · rw [zero]
      positivity
    · exact below
  exact ((sub_one_within (b.isExact_refill now) enough high).mono (by norm_num) le_rfl).nearest

/-! ## Use -/

theorem Counted.computes (h : Counted capacity refillTokens refillPeriod b now) :
    b.Computes now where
  elapsed := (floatSeconds_within (Instant.since_lt h.clock h.looked)).isNumber
    (isExact_nearest _) (by norm_num) (by norm_num)
  period := (floatSeconds_within b.refillPeriod.fits).isNumber (isExact_nearest _) (by norm_num)
    (by norm_num)
  divisor := floatSeconds_pos h.period_pos
  ratio := (gained_within h.looked h.clock).1.nearest.isNumber (isExact_nearest _) (by norm_num)
    (by norm_num)
  gained := (gained_within h.looked h.clock).2.isNumber (isExact_nearest _) (by norm_num)
    (by norm_num)
  raised := (raised_within h.tokens h.looked h.clock).nearest.isNumber (isExact_nearest _)
    (by norm_num) (by norm_num)
  kept := (refill_within h.tokens h.looked h.clock).isNumber (b.isExact_refill now) (by norm_num)
    (by norm_num)
  spent enough := (spent_within (refill_within h.tokens h.looked h.clock) enough).isNumber
    (isExact_nearest _) (by norm_num) (by norm_num)

/-- An accepted bucket starts full, and the period of its refill is not empty. -/
theorem eq_of_create (accepted : create capacity refillTokens refillPeriod now = .ok b) :
    b = ⟨capacity, refillTokens, refillPeriod, Binary64.ofNat capacity.toNat, now⟩ ∧
      0 < refillPeriod.nanos := by
  unfold create at accepted
  cases valid : validate capacity refillTokens refillPeriod with
  | error e =>
    rw [valid] at accepted
    cases accepted
  | ok _ =>
    rw [valid] at accepted
    cases accepted
    refine ⟨rfl, Nat.pos_of_ne_zero fun empty => ?_⟩
    unfold validate at valid
    rw [if_pos ((Span.isZero_iff refillPeriod).mpr empty)] at valid
    split at valid
    · cases valid
    · split at valid <;> cases valid

theorem Used.counted (used : Used capacity refillTokens refillPeriod b now) :
    Counted capacity refillTokens refillPeriod b now := by
  -- by induction on the use of the bucket, whose tokens neither overflow nor underflow
  induction used with
  | @created b now clock accepted =>
    obtain ⟨rfl, positive⟩ := eq_of_create accepted
    have tokens : Within (-95) 32 (Binary64.ofNat capacity.toNat) :=
      (Within.ofNat capacity.toNat_lt.le).mono (by norm_num) le_rfl
    exact ⟨rfl, rfl, rfl, positive, tokens, clock, clock⟩
  | waited used span passed ih =>
    exact { ih with clock := Instant.representable_of_later? passed }
  | @asked b now used ih =>
    have refilled := refill_within ih.tokens ih.looked ih.clock
    unfold tryAcquire
    dsimp only
    split
    next enough =>
      exact ⟨ih.capacity_eq, ih.refillTokens_eq, ih.refillPeriod_eq, ih.period_pos,
        spent_within refilled enough, ih.clock, ih.clock⟩
    next =>
      exact ⟨ih.capacity_eq, ih.refillTokens_eq, ih.refillPeriod_eq, ih.period_pos, refilled,
        ih.clock, ih.clock⟩
  | @shown b now used ih =>
    exact ⟨ih.capacity_eq, ih.refillTokens_eq, ih.refillPeriod_eq, ih.period_pos,
      refill_within ih.tokens ih.looked ih.clock, ih.clock, ih.clock⟩

/-- A look at a bucket computes within the range of binary64, however the bucket has been used. -/
theorem Used.computes (used : Used capacity refillTokens refillPeriod b now) : b.Computes now :=
  used.counted.computes

/-! ## Requests in a row -/

/-- The decisions on `n` requests in a row, all at one instant. -/
def draws (now : Instant) : Nat → TokenBucket → List Bool
  | 0, _ => []
  | n + 1, b => (b.tryAcquire now).1 :: draws now n (b.tryAcquire now).2

/-- A request is granted just when the bucket shows a token. -/
theorem granted_eq (b : TokenBucket) (now : Instant) :
    (b.tryAcquire now).1 = decide (1 ≤ (b.available now).1) := by
  have whole : 1 ≤ (b.refill now).tokens ↔ 1 ≤ (b.available now).1 := by
    have floor : (1 : Int) ≤ (b.refill now).tokens.floor ↔ 1 ≤ (b.refill now).tokens :=
      Rat.le_floor_iff
    rw [← floor, available]
    omega
  by_cases enough : 1 ≤ (b.refill now).tokens
  · simp [tryAcquire, if_pos enough, whole.mp enough]
  · simp [tryAcquire, if_neg enough, mt whole.mpr enough]

theorem draws_eq (now : Instant) (n : Nat) (b : TokenBucket) :
    draws now n b = List.replicate (min (b.available now).1 n) true ++
      List.replicate (n - (b.available now).1) false := by
  induction n generalizing b with
  | zero => simp [draws]
  | succ n ih =>
    have spent := b.available_tryAcquire now
    rw [granted_eq] at spent
    rw [draws, ih, granted_eq]
    cases shown : (b.available now).1 with
    | zero =>
      have left : ((b.tryAcquire now).2.available now).1 = 0 := by simpa [shown] using spent
      simp [left, List.replicate_succ]
    | succ k =>
      have left : ((b.tryAcquire now).2.available now).1 = k := by simpa [shown] using spent
      simp [left, Nat.succ_min_succ, List.replicate_succ]

/-- Showing the tokens leaves them as they are shown. -/
theorem available_available (b : TokenBucket) (now : Instant) :
    ((b.available now).2.available now).1 = (b.available now).1 := by
  have same : ((b.refill now).refill now).tokens = (b.refill now).tokens :=
    tokens_refill rfl (b.isExact_refill now) (b.refill_nonneg now) (b.refill_le now)
  simp only [available, same]

/-- **A bucket grants what it shows.** -/
theorem shown_tokens_are_granted (used : Used capacity refillTokens refillPeriod b now) :
    (b.available now).1 ≤ capacity.toNat ∧
      (∀ n, draws now n (b.available now).2 =
        List.replicate (min (b.available now).1 n) true ++
          List.replicate (n - (b.available now).1) false) ∧
      b.Computes now := by
  refine ⟨?_, fun n => ?_, used.computes⟩
  · rw [← used.counted.capacity_eq]
    exact b.available_le now
  · rw [draws_eq, available_available]

/-- Two tokens, of which one comes back every three seconds, both taken at once. -/
def drained : TokenBucket :=
  let full : TokenBucket := ⟨2, 1, Span.ofSeconds 3, Binary64.ofNat 2, Instant.origin⟩
  ((full.tryAcquire Instant.origin).2.tryAcquire Instant.origin).2

/-- Four seconds on, a token and a third have come back. -/
theorem drained_bucket_grants_one :
    Used 2 1 (Span.ofSeconds 3) drained ⟨4000000000⟩ ∧
      (drained.available ⟨4000000000⟩).1 = 1 ∧
      draws ⟨4000000000⟩ 3 (drained.available ⟨4000000000⟩).2 = [true, false, false] ∧
      drained.Computes ⟨4000000000⟩ := by
  have full : Used 2 1 (Span.ofSeconds 3)
      ⟨2, 1, Span.ofSeconds 3, Binary64.ofNat 2, Instant.origin⟩ Instant.origin :=
    .created (by decide +kernel) rfl
  have used : Used 2 1 (Span.ofSeconds 3) drained ⟨4000000000⟩ :=
    full.asked.asked.waited (Span.ofSeconds 4) (by decide +kernel)
  have shown : (drained.available ⟨4000000000⟩).1 = 1 := by decide +kernel
  obtain ⟨-, granted, computes⟩ := shown_tokens_are_granted used
  refine ⟨used, shown, ?_, computes⟩
  rw [granted, shown]
  rfl

end TokenBucket

end CredentialSupply
