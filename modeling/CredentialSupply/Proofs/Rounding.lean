import CredentialSupply.Limit.TokenBucket
import Mathlib.Algebra.Order.Field.Power
import Mathlib.Data.Rat.Floor
import Mathlib.Tactic.FieldSimp
import Mathlib.Tactic.Linarith
import Mathlib.Tactic.Positivity
import Mathlib.Tactic.Ring

set_option autoImplicit false

/-!
# Tokens that are counted exactly

Rounding leaves the numbers with 53 significant bits as they are (`Binary64.nearest_eq_self`), and
one taken off such a number is again such a number. So the tokens of a bucket, though they are
gained with rounding, are spent exactly: while the clock stands still each grant takes one of the
whole tokens that the bucket shows (`TokenBucket.available_tryAcquire`).
-/

namespace CredentialSupply

namespace Binary64

/-- Numbers with at most 53 significant bits. -/
def IsExact (q : Rat) : Prop :=
  ∃ (significand : Nat) (place : Int), significand ≤ 2 ^ 53 ∧ q = significand * (2 : Rat) ^ place

/-! ## Places -/

theorem scaled_eq (significand : Nat) (place : Int) :
    scaled significand place = significand * (2 : Rat) ^ place := by
  cases place with
  | ofNat shift => simp [scaled]
  | negSucc shift => simp [scaled, Rat.mkRat_eq_div, div_eq_mul_inv]

theorem reaches_iff {num den : Nat} (pos : 0 < den) (shift : Int) :
    reaches num den shift = true ↔ (2 : Rat) ^ shift ≤ num / den := by
  have pos' : (0 : Rat) < den := by exact_mod_cast pos
  cases shift with
  | ofNat shift =>
    rw [le_div_iff₀ pos']
    simp only [reaches, decide_eq_true_eq, Int.ofNat_eq_natCast, zpow_natCast]
    rw [mul_comm, Nat.pow_eq]
    exact_mod_cast Iff.rfl
  | negSucc shift =>
    rw [le_div_iff₀ pos', zpow_negSucc, inv_mul_le_iff₀ (by positivity)]
    simp only [reaches, decide_eq_true_eq]
    rw [mul_comm num, Nat.pow_eq]
    exact_mod_cast Iff.rfl

/-- A number lies within a power of two of the one that its bits tell. -/
theorem log2_bounds {n : Nat} (pos : n ≠ 0) :
    (2 : Rat) ^ (n.log2 : Int) ≤ n ∧ (n : Rat) < 2 ^ ((n.log2 : Int) + 1) := by
  constructor
  · rw [zpow_natCast]
    exact_mod_cast Nat.log2_self_le pos
  · rw [← Nat.cast_succ, zpow_natCast]
    exact_mod_cast Nat.lt_log2_self

theorem lastPlace_spec {num den : Nat} (numPos : num ≠ 0) (denPos : den ≠ 0) :
    (2 : Rat) ^ (lastPlace num den + 52) ≤ num / den ∧
      (num / den : Rat) < 2 ^ (lastPlace num den + 53) := by
  obtain ⟨numLow, numHigh⟩ := log2_bounds numPos
  obtain ⟨denLow, denHigh⟩ := log2_bounds denPos
  have denPos' : 0 < den := Nat.pos_of_ne_zero denPos
  have cast : (0 : Rat) < den := by exact_mod_cast denPos'
  have two : (2 : Rat) ≠ 0 := by norm_num
  unfold lastPlace
  dsimp only
  split
  next reached =>
    rw [reaches_iff denPos'] at reached
    constructor
    · rw [sub_add_cancel]
      exact reached
    · rw [div_lt_iff₀ cast]
      calc (num : Rat) < 2 ^ ((num.log2 : Int) + 1) := numHigh
        _ = 2 ^ ((num.log2 : Int) - den.log2 - 52 + 53) * 2 ^ (den.log2 : Int) := by
          rw [← zpow_add₀ two]
          congr 1
          ring
        _ ≤ _ := by gcongr
  next below =>
    rw [reaches_iff denPos', not_le] at below
    constructor
    · rw [le_div_iff₀ cast]
      calc (2 : Rat) ^ ((num.log2 : Int) - den.log2 - 53 + 52) * den
          ≤ 2 ^ ((num.log2 : Int) - den.log2 - 53 + 52) * 2 ^ ((den.log2 : Int) + 1) := by
            gcongr
        _ = 2 ^ (num.log2 : Int) := by
          rw [← zpow_add₀ two]
          congr 1
          ring
        _ ≤ num := numLow
    · rw [sub_add_cancel]
      exact below

/-! ## Rounding -/

theorem roundDiv_mul {k den : Nat} (pos : 0 < den) : roundDiv (k * den) den = k := by
  simp [roundDiv, pos]

theorem roundDiv_le {num den bound : Nat} (h : num ≤ bound * den) : roundDiv num den ≤ bound := by
  rcases Nat.eq_zero_or_pos den with rfl | pos
  · obtain rfl : num = 0 := by omega
    simp [roundDiv]
  have parts := Nat.div_add_mod num den
  have low : num / den ≤ bound := Nat.div_le_of_le_mul (by rwa [Nat.mul_comm])
  rcases Nat.lt_or_eq_of_le low with less | full
  · unfold roundDiv
    dsimp only
    split
    · omega
    · split <;> omega
  · -- nothing is left over at the bound itself
    have rest : num % den = 0 := by
      rw [full, Nat.mul_comm] at parts
      omega
    simp [roundDiv, rest, pos, full]

/-- The quotient that is rounded is the number over its last place. -/
theorem exists_roundDiv (num : Nat) {den : Nat} (pos : 0 < den) (place : Int) :
    ∃ n d, 0 < d ∧ roundScaled num den place = roundDiv n d ∧
      (num / den : Rat) = n / d * 2 ^ place := by
  have cast : (den : Rat) ≠ 0 := by exact_mod_cast pos.ne'
  cases place with
  | ofNat shift =>
    refine ⟨num, den * 2 ^ shift, by positivity, rfl, ?_⟩
    simp only [Int.ofNat_eq_natCast, zpow_natCast]
    push_cast
    field_simp
  | negSucc shift =>
    refine ⟨num * 2 ^ (shift + 1), den, pos, rfl, ?_⟩
    rw [zpow_negSucc]
    push_cast
    field_simp

theorem roundScaled_eq {num den k : Nat} (pos : 0 < den) {place : Int}
    (h : (num / den : Rat) = k * 2 ^ place) : roundScaled num den place = k := by
  obtain ⟨n, d, dPos, rounded, quotient⟩ := exists_roundDiv num pos place
  have scale : (2 : Rat) ^ place ≠ 0 := by positivity
  have whole : (n : Rat) / d = k := mul_right_cancel₀ scale (quotient.symm.trans h)
  rw [div_eq_iff (by exact_mod_cast dPos.ne')] at whole
  have product : n = k * d := by exact_mod_cast whole
  rw [rounded, product, roundDiv_mul dPos]

theorem roundScaled_le {num den bound : Nat} (pos : 0 < den) {place : Int}
    (h : (num / den : Rat) ≤ bound * 2 ^ place) : roundScaled num den place ≤ bound := by
  obtain ⟨n, d, dPos, rounded, quotient⟩ := exists_roundDiv num pos place
  have scale : (0 : Rat) < 2 ^ place := by positivity
  have below : (n : Rat) / d ≤ bound := le_of_mul_le_mul_right (quotient ▸ h) scale
  rw [div_le_iff₀ (by exact_mod_cast dPos)] at below
  rw [rounded]
  exact roundDiv_le (by exact_mod_cast below)

/-! ## Numbers that rounding leaves as they are -/

theorem isExact_natCast {n : Nat} (h : n ≤ 2 ^ 53) : IsExact n := ⟨n, 0, h, by simp⟩

/-- A positive number as the quotient that `nearest` works on. -/
theorem quotient_eq {q : Rat} (pos : 0 < q) : (q.num.toNat / q.den : Rat) = q := by
  have numerator : ((q.num.toNat : Int) : Rat) = q.num := by
    rw [Int.toNat_of_nonneg (Rat.num_pos.mpr pos).le]
  rw [Int.cast_natCast] at numerator
  rw [numerator, Rat.num_div_den]

theorem nearest_of_pos {q : Rat} (pos : 0 < q) :
    nearest q = roundScaled q.num.toNat q.den (lastPlace q.num.toNat q.den) *
      (2 : Rat) ^ lastPlace q.num.toNat q.den := by
  unfold nearest
  rw [if_neg (not_le.mpr (Rat.num_pos.mpr pos))]
  exact scaled_eq _ _

theorem nearest_of_nonpos {q : Rat} (h : q ≤ 0) : nearest q = 0 :=
  if_pos (Rat.num_nonpos.mpr h)

theorem place_spec {q : Rat} (pos : 0 < q) :
    (2 : Rat) ^ (lastPlace q.num.toNat q.den + 52) ≤ q ∧
      q < 2 ^ (lastPlace q.num.toNat q.den + 53) := by
  have numerator : q.num.toNat ≠ 0 := by
    have := Rat.num_pos.mpr pos
    omega
  have bounds := lastPlace_spec numerator q.den_ne_zero
  rwa [quotient_eq pos] at bounds

theorem isExact_nearest (q : Rat) : IsExact (nearest q) := by
  rcases le_or_gt q 0 with h | pos
  · rw [nearest_of_nonpos h]
    exact ⟨0, 0, Nat.zero_le _, by simp⟩
  · refine ⟨_, _, roundScaled_le q.den_pos ?_, nearest_of_pos pos⟩
    rw [quotient_eq pos]
    push_cast
    calc q ≤ 2 ^ (lastPlace q.num.toNat q.den + 53) := (place_spec pos).2.le
      _ = 2 ^ 53 * 2 ^ lastPlace q.num.toNat q.den := by
        rw [zpow_add₀ (by norm_num), mul_comm]
        norm_cast

/-- An exact number is a whole multiple of the last place of its 53 bits. -/
theorem IsExact.exists_multiple {q : Rat} (exact : IsExact q) {place : Int}
    (low : (2 : Rat) ^ (place + 52) ≤ q) : ∃ k : Nat, q = k * 2 ^ place := by
  obtain ⟨significand, shift, bound, rfl⟩ := exact
  have two : (2 : Rat) ≠ 0 := by norm_num
  rcases le_or_gt place shift with above | below
  · obtain ⟨gap, rfl⟩ := Int.le.dest above
    refine ⟨significand * 2 ^ gap, ?_⟩
    rw [zpow_add₀ two, zpow_natCast]
    push_cast
    ring
  · -- the significand has one bit too many: it is the bound
    obtain ⟨gap, rfl⟩ := Int.le.dest below
    have scale : (0 : Rat) < 2 ^ shift := by positivity
    have large : (2 : Rat) ^ (gap + 53) ≤ significand := by
      refine le_of_mul_le_mul_right ?_ scale
      calc (2 : Rat) ^ (gap + 53) * 2 ^ shift = 2 ^ (shift + 1 + gap + 52) := by
            rw [← zpow_natCast, ← zpow_add₀ two]
            congr 1
            push_cast
            ring
        _ ≤ _ := low
    have large' : 2 ^ (gap + 53) ≤ significand := by exact_mod_cast large
    obtain rfl : gap = 0 := by
      by_contra nonzero
      have grows : 2 ^ 53 < 2 ^ (gap + 53) := Nat.pow_lt_pow_right (by norm_num) (by omega)
      omega
    obtain rfl : significand = 2 ^ 53 := le_antisymm bound (by simpa using large')
    refine ⟨2 ^ 52, ?_⟩
    push_cast
    rw [add_zero, zpow_add₀ two]
    ring

/-- Rounding leaves an exact number as it is. -/
theorem nearest_eq_self {q : Rat} (exact : IsExact q) (nonneg : 0 ≤ q) : nearest q = q := by
  rcases nonneg.eq_or_lt with rfl | pos
  · exact nearest_of_nonpos le_rfl
  · obtain ⟨k, multiple⟩ := exact.exists_multiple (place_spec pos).1
    have whole := roundScaled_eq (k := k) q.den_pos ((quotient_eq pos).trans multiple)
    rw [nearest_of_pos pos, whole, ← multiple]

theorem nearest_nonneg (q : Rat) : 0 ≤ nearest q := by
  obtain ⟨significand, place, -, eq⟩ := isExact_nearest q
  rw [eq]
  positivity

/-- One less than an exact number is exact as well: it is a multiple of the same last place. -/
theorem IsExact.sub_one {q : Rat} (exact : IsExact q) (low : 1 ≤ q) (high : q ≤ 2 ^ 53) :
    IsExact (q - 1) := by
  obtain ⟨significand, place, bound, rfl⟩ := exact
  rcases le_or_gt 0 place with whole | fraction
  · obtain ⟨shift, rfl⟩ := Int.eq_ofNat_of_zero_le whole
    have positive : 1 ≤ significand * 2 ^ shift := by
      rw [zpow_natCast] at low
      exact_mod_cast low
    have value : (significand * 2 ^ (shift : Int) - 1 : Rat) =
        ((significand * 2 ^ shift - 1 : Nat) : Rat) := by
      rw [Nat.cast_sub positive, zpow_natCast]
      push_cast
      ring
    rw [value]
    refine isExact_natCast ?_
    have high' : significand * 2 ^ shift ≤ 2 ^ 53 := by
      rw [zpow_natCast] at high
      exact_mod_cast high
    omega
  · obtain ⟨shift, rfl⟩ : ∃ shift : Nat, place = -shift := ⟨place.natAbs, by omega⟩
    have unit : (2 : Rat) ^ shift * 2 ^ (-(shift : Int)) = 1 := by
      rw [zpow_neg, zpow_natCast, mul_inv_cancel₀ (by positivity)]
    have positive : 2 ^ shift ≤ significand := by
      have scale : (0 : Rat) < 2 ^ (-(shift : Int)) := by positivity
      have := le_of_mul_le_mul_right (unit.trans_le low) scale
      exact_mod_cast this
    refine ⟨significand - 2 ^ shift, -shift, (Nat.sub_le _ _).trans bound, ?_⟩
    rw [Nat.cast_sub positive]
    push_cast
    rw [sub_mul, unit]

theorem ofNat_eq {n : Nat} (h : n ≤ 2 ^ 53) : ofNat n = n :=
  nearest_eq_self (isExact_natCast h) (by positivity)

theorem add_zero_of_isExact {q : Rat} (exact : IsExact q) (nonneg : 0 ≤ q) : add q 0 = q := by
  rw [add, add_zero, nearest_eq_self exact nonneg]

theorem sub_one_of_isExact {q : Rat} (exact : IsExact q) (low : 1 ≤ q) (high : q ≤ 2 ^ 53) :
    sub q 1 = q - 1 :=
  nearest_eq_self (exact.sub_one low high) (sub_nonneg.mpr low)

@[simp] theorem div_zero_left (b : Rat) : div 0 b = 0 := by
  rw [div, zero_div, nearest_of_nonpos le_rfl]

@[simp] theorem mul_zero_left (b : Rat) : mul 0 b = 0 := by
  rw [mul, zero_mul, nearest_of_nonpos le_rfl]

end Binary64

@[simp] theorem floatSeconds_zero : floatSeconds 0 = 0 := by
  simp [floatSeconds, Binary64.ofNat_eq, Binary64.add, Binary64.nearest_of_nonpos]

namespace TokenBucket

open Binary64 (IsExact)

/-! ## Buckets -/

theorem capacity_eq (b : TokenBucket) : Binary64.ofNat b.capacity.toNat = b.capacity.toNat :=
  Binary64.ofNat_eq (b.capacity.toNat_lt.le.trans (by norm_num))

@[simp] theorem capacity_refill (b : TokenBucket) (now : Instant) :
    (b.refill now).capacity = b.capacity := rfl

@[simp] theorem lookedAt_refill (b : TokenBucket) (now : Instant) :
    (b.refill now).lookedAt = now := rfl

@[simp] theorem capacity_tryAcquire (b : TokenBucket) (now : Instant) :
    (b.tryAcquire now).2.capacity = b.capacity := by
  unfold tryAcquire
  dsimp only
  split <;> rfl

theorem refill_le (b : TokenBucket) (now : Instant) :
    (b.refill now).tokens ≤ b.capacity.toNat := by
  simp only [refill, capacity_eq]
  split
  next h => exact h
  next => exact le_rfl

theorem refill_le_two_pow (b : TokenBucket) (now : Instant) : (b.refill now).tokens ≤ 2 ^ 53 := by
  refine (b.refill_le now).trans ?_
  exact_mod_cast b.capacity.toNat_lt.le.trans (by norm_num)

theorem isExact_refill (b : TokenBucket) (now : Instant) : IsExact (b.refill now).tokens := by
  simp only [refill]
  split
  · exact Binary64.isExact_nearest _
  · exact Binary64.isExact_nearest _

theorem refill_nonneg (b : TokenBucket) (now : Instant) : 0 ≤ (b.refill now).tokens := by
  simp only [refill]
  split
  · exact Binary64.nearest_nonneg _
  · exact Binary64.nearest_nonneg _

/-- A bucket that was looked at just now gains nothing. -/
theorem tokens_refill {b : TokenBucket} {now : Instant} (looked : b.lookedAt = now)
    (exact : IsExact b.tokens) (nonneg : 0 ≤ b.tokens) (le : b.tokens ≤ b.capacity.toNat) :
    (b.refill now).tokens = b.tokens := by
  have gained : b.gained now = 0 := by simp [TokenBucket.gained, Instant.since, looked]
  simp [refill, gained, Binary64.add_zero_of_isExact exact nonneg, capacity_eq, le]

/-- Each grant takes one whole token, and a refusal takes none. -/
theorem available_tryAcquire (b : TokenBucket) (now : Instant) :
    ((b.tryAcquire now).2.available now).1 + (if (b.tryAcquire now).1 then 1 else 0) =
      (b.available now).1 := by
  have exact := b.isExact_refill now
  have le := b.refill_le now
  have nonneg := b.refill_nonneg now
  by_cases enough : 1 ≤ (b.refill now).tokens
  · have high := b.refill_le_two_pow now
    have spent := Binary64.sub_one_of_isExact exact enough high
    have again : (((b.tryAcquire now).2).refill now).tokens = (b.refill now).tokens - 1 := by
      simp only [tryAcquire, if_pos enough, spent]
      exact tokens_refill rfl (exact.sub_one enough high) (by linarith)
        (show _ ≤ (b.capacity.toNat : Rat) by linarith)
    have whole : 1 ≤ (b.refill now).tokens.floor := Rat.le_floor_iff.mpr (by exact_mod_cast enough)
    have fewer : ((b.refill now).tokens - 1).floor = (b.refill now).tokens.floor - 1 :=
      Int.floor_sub_one (b.refill now).tokens
    have granted : (b.tryAcquire now).1 = true := by simp [tryAcquire, if_pos enough]
    simp only [available, again, fewer, granted, if_true]
    omega
  · have again : (((b.tryAcquire now).2).refill now).tokens = (b.refill now).tokens := by
      simp only [tryAcquire, if_neg enough]
      exact tokens_refill rfl exact nonneg le
    have refused : (b.tryAcquire now).1 = false := by simp [tryAcquire, if_neg enough]
    simp [available, again, refused]

/-- A bucket never shows more tokens than it has room for. -/
theorem available_le (b : TokenBucket) (now : Instant) :
    (b.available now).1 ≤ b.capacity.toNat := by
  have floor : ((b.refill now).tokens.floor : Rat) ≤ b.capacity.toNat :=
    (Rat.floor_le _).trans (b.refill_le now)
  have floor' : (b.refill now).tokens.floor ≤ (b.capacity.toNat : Int) := by exact_mod_cast floor
  simp only [available]
  omega

end TokenBucket

end CredentialSupply
