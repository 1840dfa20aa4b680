import CredentialSupply.Proofs.Spending

set_option autoImplicit false

/-!
# How far rounding leads

A rounded number is off by at most one part in `2 ^ 53` (`Binary64.nearest_error`). `Binary64.Near`
counts the roundings by which two positive numbers are apart, and adds up along arithmetic: what a
bucket gains is six roundings from what it earns, in proportion to the time that passed, and what it
holds after a look is one more away (`TokenBucket.near_raised`). So a look gets it wrong by less
than the factor `TokenBucket.slack`, and it never loses tokens (`TokenBucket.tokens_le_refill`).
-/

namespace CredentialSupply

namespace Binary64

/-! ## One rounding -/

theorem roundDiv_error (num : Nat) {den : Nat} (pos : 0 < den) :
    2 * (roundDiv num den * den) ≤ 2 * num + den ∧
      2 * num ≤ 2 * (roundDiv num den * den) + den := by
  have parts := Nat.div_add_mod num den
  have rest := Nat.mod_lt num pos
  have more : (num / den + 1) * den = den * (num / den) + den := by
    rw [Nat.add_mul, Nat.one_mul, Nat.mul_comm]
  have same : num / den * den = den * (num / den) := Nat.mul_comm _ _
  unfold roundDiv
  dsimp only
  split
  · omega
  · split
    · omega
    · -- a tie
      rcases Nat.mod_two_eq_zero_or_one (num / den) with even | odd
      · rw [even, Nat.add_zero]
        omega
      · rw [odd]
        omega

/-- A rounded significand is off by at most half of its last place. -/
theorem roundScaled_error (num : Nat) {den : Nat} (pos : 0 < den) (place : Int) :
    |(roundScaled num den place : Rat) * 2 ^ place - num / den| ≤ 2 ^ place / 2 := by
  obtain ⟨n, d, dPos, rounded, quotient⟩ := exists_roundDiv num pos place
  have scale : (0 : Rat) < 2 ^ place := by positivity
  have cast : (0 : Rat) < d := by exact_mod_cast dPos
  obtain ⟨above, below⟩ := roundDiv_error n dPos
  have above' : 2 * ((roundDiv n d : Rat) * d) ≤ 2 * n + d := by exact_mod_cast above
  have below' : 2 * (n : Rat) ≤ 2 * (roundDiv n d * d) + d := by exact_mod_cast below
  have half : |(roundDiv n d : Rat) - n / d| ≤ 1 / 2 := by
    rw [abs_le]
    constructor
    · have high : (n : Rat) / d ≤ roundDiv n d + 1 / 2 := by
        rw [div_le_iff₀ cast]
        linarith
      linarith
    · have low : (roundDiv n d : Rat) - 1 / 2 ≤ n / d := by
        rw [le_div_iff₀ cast]
        linarith
      linarith
  calc |(roundScaled num den place : Rat) * 2 ^ place - num / den|
      = |(roundDiv n d : Rat) - n / d| * 2 ^ place := by
        rw [rounded, quotient, ← sub_mul, abs_mul, abs_of_pos scale]
    _ ≤ 1 / 2 * 2 ^ place := by gcongr
    _ = 2 ^ place / 2 := by ring

/-- A rounded number is off by at most one part in `2 ^ 53`. -/
theorem nearest_error {q : Rat} (nonneg : 0 ≤ q) : |nearest q - q| ≤ q / 2 ^ 53 := by
  rcases nonneg.eq_or_lt with rfl | pos
  · simp [nearest_of_nonpos]
  · have error := roundScaled_error q.num.toNat q.den_pos (lastPlace q.num.toNat q.den)
    rw [quotient_eq pos, ← nearest_of_pos pos] at error
    have low := (place_spec pos).1
    have bits : (2 : Rat) ^ (52 : Int) = 2 ^ 52 := by norm_num
    rw [zpow_add₀ (by norm_num), bits] at low
    linarith

/-- Rounding does not go below a number that needs no rounding. -/
theorem IsExact.le_nearest {t q : Rat} (exact : IsExact t) (h : t ≤ q) : t ≤ nearest q := by
  rcases le_or_gt q 0 with nonpos | pos
  · exact (h.trans nonpos).trans (nearest_nonneg q)
  rcases le_or_gt t (2 ^ (lastPlace q.num.toNat q.den + 52)) with small | large
  · exact small.trans (nearest_bounds pos).1
  · -- both have their last bit in the same place
    obtain ⟨k, rfl⟩ := exact.exists_multiple large.le
    rw [nearest_of_pos pos]
    have significand : k ≤ roundScaled q.num.toNat q.den (lastPlace q.num.toNat q.den) :=
      le_roundScaled q.den_pos (by rwa [quotient_eq pos])
    gcongr

/-! ## Several roundings -/

/-- More than what one rounding can change a number by. -/
def grain : Rat := 1 + 1 / 2 ^ 52

theorem grain_pos : 0 < grain := by norm_num [grain]

theorem one_le_grain_pow (k : Nat) : 1 ≤ grain ^ k := one_le_pow₀ (by norm_num [grain])

/-- Two numbers that are at most `k` roundings apart. -/
structure Near (k : Nat) (a b : Rat) : Prop where
  le : a ≤ b * grain ^ k
  ge : b ≤ a * grain ^ k

namespace Near

variable {j k : Nat} {a b c d : Rat}

theorem refl (k : Nat) (nonneg : 0 ≤ a) : Near k a a where
  le := le_mul_of_one_le_right nonneg (one_le_grain_pow k)
  ge := le_mul_of_one_le_right nonneg (one_le_grain_pow k)

theorem trans (hab : Near j a b) (hbc : Near k b c) : Near (j + k) a c where
  le := by
    have step := mul_le_mul_of_nonneg_right hbc.le (pow_pos grain_pos j).le
    calc a ≤ b * grain ^ j := hab.le
      _ ≤ c * grain ^ k * grain ^ j := step
      _ = c * grain ^ (j + k) := by ring
  ge := by
    have step := mul_le_mul_of_nonneg_right hab.ge (pow_pos grain_pos k).le
    calc c ≤ b * grain ^ k := hbc.ge
      _ ≤ a * grain ^ j * grain ^ k := step
      _ = a * grain ^ (j + k) := by ring

theorem add (hab : Near k a b) (hcd : Near k c d) : Near k (a + c) (b + d) where
  le := by
    rw [add_mul]
    exact add_le_add hab.le hcd.le
  ge := by
    rw [add_mul]
    exact add_le_add hab.ge hcd.ge

theorem mul (hab : Near j a b) (hcd : Near k c d) (ha : 0 ≤ a) (hb : 0 ≤ b) (hc : 0 ≤ c)
    (hd : 0 ≤ d) : Near (j + k) (a * c) (b * d) where
  le := by
    calc a * c ≤ b * grain ^ j * (d * grain ^ k) :=
          mul_le_mul hab.le hcd.le hc (mul_nonneg hb (pow_pos grain_pos j).le)
      _ = b * d * grain ^ (j + k) := by ring
  ge := by
    calc b * d ≤ a * grain ^ j * (c * grain ^ k) :=
          mul_le_mul hab.ge hcd.ge hd (mul_nonneg ha (pow_pos grain_pos j).le)
      _ = a * c * grain ^ (j + k) := by ring

theorem inv (h : Near k a b) (ha : 0 < a) (hb : 0 < b) : Near k a⁻¹ b⁻¹ where
  le := by
    rw [inv_mul_eq_div, inv_eq_one_div, div_le_div_iff₀ ha hb, one_mul, mul_comm]
    exact h.ge
  ge := by
    rw [inv_mul_eq_div, inv_eq_one_div, div_le_div_iff₀ hb ha, one_mul, mul_comm]
    exact h.le

theorem div (hab : Near j a b) (hcd : Near k c d) (ha : 0 ≤ a) (hb : 0 ≤ b) (hc : 0 < c)
    (hd : 0 < d) : Near (j + k) (a / c) (b / d) := by
  rw [div_eq_mul_inv, div_eq_mul_inv]
  exact hab.mul (hcd.inv hc hd) ha hb (inv_pos.mpr hc).le (inv_pos.mpr hd).le

theorem nearest (h : Near k a b) (ha : 0 ≤ a) : Near (k + 1) (nearest a) b := by
  obtain ⟨low, high⟩ := abs_le.mp (nearest_error ha)
  have rounded : Near 1 (Binary64.nearest a) a := by
    constructor
    · rw [pow_one, grain]
      linarith
    · rw [pow_one, grain]
      linarith
  rw [Nat.add_comm]
  exact rounded.trans h

end Near

end Binary64

open Binary64 (Near)

/-- Seconds in floating point are two roundings from the seconds. -/
theorem near_floatSeconds (nanos : Nat) :
    Near 2 (floatSeconds nanos) (nanos / nanosPerSecond) := by
  have second : Binary64.ofNat nanosPerSecond = nanosPerSecond := Binary64.ofNat_eq (by norm_num)
  have rest : Binary64.ofNat (nanos % nanosPerSecond) = (nanos % nanosPerSecond : Nat) :=
    Binary64.ofNat_eq ((Nat.mod_lt _ (by decide)).le.trans (by norm_num))
  have whole : Near 1 (Binary64.ofNat (nanos / nanosPerSecond))
      ((nanos / nanosPerSecond : Nat) : Rat) :=
    (Near.refl 0 (Nat.cast_nonneg _)).nearest (Nat.cast_nonneg _)
  have part : Near 1
      (Binary64.div (Binary64.ofNat (nanos % nanosPerSecond)) (Binary64.ofNat nanosPerSecond))
      ((nanos % nanosPerSecond : Nat) / nanosPerSecond : Rat) := by
    rw [rest, second]
    exact (Near.refl 0 (by positivity)).nearest (by positivity)
  have parts : (nanos : Rat) / nanosPerSecond =
      (nanos / nanosPerSecond : Nat) + (nanos % nanosPerSecond : Nat) / nanosPerSecond := by
    have sum : (nanosPerSecond * (nanos / nanosPerSecond) + nanos % nanosPerSecond : Nat) =
        (nanos : Rat) := by
      exact_mod_cast Nat.div_add_mod nanos nanosPerSecond
    have pos : (nanosPerSecond : Rat) ≠ 0 := by norm_num [nanosPerSecond]
    rw [← sum]
    push_cast
    field_simp
  rw [parts]
  exact (whole.add part).nearest
    (add_nonneg (Binary64.nearest_nonneg _) (Binary64.nearest_nonneg _))

namespace TokenBucket

variable {b : TokenBucket} {now : Instant}

/-! ## Gains -/

/-- The tokens that are due for the time since the last look, not rounded. -/
def earned (b : TokenBucket) (now : Instant) : Rat :=
  (now.since b.lookedAt : Rat) / b.refillPeriod.nanos * b.refillTokens.toNat

theorem earned_nonneg (b : TokenBucket) (now : Instant) : 0 ≤ b.earned now := by
  unfold earned
  positivity

/-- What is gained is six roundings from what is due. -/
theorem near_gained (period : 0 < b.refillPeriod.nanos) (now : Instant) :
    Near 6 (b.gained now) (b.earned now) := by
  have second : (nanosPerSecond : Rat) ≠ 0 := by norm_num [nanosPerSecond]
  have tokens : Binary64.ofNat b.refillTokens.toNat = b.refillTokens.toNat :=
    Binary64.ofNat_eq (b.refillTokens.toNat_lt.le.trans (by norm_num))
  have elapsed := near_floatSeconds (now.since b.lookedAt)
  have length := near_floatSeconds b.refillPeriod.nanos
  have positive : (0 : Rat) < b.refillPeriod.nanos := by exact_mod_cast period
  have ratio := (elapsed.div length (Binary64.nearest_nonneg _) (by positivity)
    (floatSeconds_pos period) (by positivity)).nearest
      (div_nonneg (Binary64.nearest_nonneg _) (Binary64.nearest_nonneg _))
  rw [div_div_div_cancel_right₀ second] at ratio
  unfold gained
  rw [tokens]
  exact (ratio.mul (Near.refl 0 (Nat.cast_nonneg _)) (Binary64.nearest_nonneg _) (by positivity)
    (Nat.cast_nonneg _) (Nat.cast_nonneg _)).nearest
      (mul_nonneg (Binary64.nearest_nonneg _) (Nat.cast_nonneg _))

/-- The tokens of a bucket after a gain are seven roundings from what they should be. -/
theorem near_raised (nonneg : 0 ≤ b.tokens) (period : 0 < b.refillPeriod.nanos) (now : Instant) :
    Near 7 (Binary64.add b.tokens (b.gained now)) (b.tokens + b.earned now) :=
  ((Near.refl 6 nonneg).add (near_gained period now)).nearest
    (add_nonneg nonneg (Binary64.nearest_nonneg _))

/-- More than what one look can get the tokens wrong by. -/
def slack : Rat := 1 + 1 / 2 ^ 49

theorem slack_pos : 0 < slack := by norm_num [slack]

theorem one_le_slack : 1 ≤ slack := by norm_num [slack]

theorem grain_pow_le_slack : Binary64.grain ^ 7 ≤ slack := by
  norm_num [Binary64.grain, slack]

/-! ## Looks -/

theorem tokens_refill_eq_min (b : TokenBucket) (now : Instant) :
    (b.refill now).tokens =
      min (Binary64.add b.tokens (b.gained now)) b.capacity.toNat := by
  rw [← capacity_eq, min_def]
  rfl

/-- A look never loses tokens. -/
theorem tokens_le_refill (exact : Binary64.IsExact b.tokens) (le : b.tokens ≤ b.capacity.toNat)
    (now : Instant) : b.tokens ≤ (b.refill now).tokens := by
  rw [tokens_refill_eq_min, le_min_iff]
  refine ⟨exact.le_nearest ?_, le⟩
  exact le_add_of_nonneg_right (Binary64.nearest_nonneg _)

/-- A look finds at least what is due less the slack, if there is room. -/
theorem le_refill (nonneg : 0 ≤ b.tokens) (period : 0 < b.refillPeriod.nanos) (now : Instant) :
    min ((b.tokens + b.earned now) / slack) b.capacity.toNat ≤ (b.refill now).tokens := by
  rw [tokens_refill_eq_min]
  refine min_le_min_right _ ?_
  have near := near_raised nonneg period now
  rw [div_le_iff₀ slack_pos]
  exact near.ge.trans (mul_le_mul_of_nonneg_left grain_pow_le_slack (Binary64.nearest_nonneg _))

/-- A look finds at most what is due and the slack. -/
theorem refill_le_slack (nonneg : 0 ≤ b.tokens) (period : 0 < b.refillPeriod.nanos)
    (now : Instant) : (b.refill now).tokens ≤ (b.tokens + b.earned now) * slack := by
  rw [tokens_refill_eq_min]
  refine (min_le_left _ _).trans ?_
  have near := near_raised nonneg period now
  exact near.le.trans
    (mul_le_mul_of_nonneg_left grain_pow_le_slack (add_nonneg nonneg (b.earned_nonneg now)))

end TokenBucket

end CredentialSupply
