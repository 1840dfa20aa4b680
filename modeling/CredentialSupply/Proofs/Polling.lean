import CredentialSupply.Proofs.RoundingError

set_option autoImplicit false

/-!
# Reading a bucket that others use

The time between two requests is rounded in one piece when nobody looks at the bucket between them,
and in several when somebody does. So a look that takes no token can change what later requests are
told, but only by rounding (`polling_disturbs_by_rounding_only`): what is told does not change where
the bounds on the tokens, each look widening them by `TokenBucket.slack`, leave one answer; a token
is given at the latest when there would be `slack` more of it for each look; and a look at the
instant of another request changes nothing.

The bounds follow the bucket with the additional looks. They also hold the tokens of a bucket that
nobody else looks at (`Covers`), since a look only widens them (`Bounds.Contains.of_parts`).
-/

namespace CredentialSupply.TokenBucket

/-! ## Requests -/

/-- A request to a bucket: for a token, or for the number of tokens. -/
inductive Query where
  | acquire
  | available
  deriving DecidableEq

/-- What is told on a request. -/
inductive Reply where
  | granted (yes : Bool)
  | shown (tokens : Nat)
  deriving DecidableEq

/-- What is told when there are so many tokens. -/
def Query.reply : Query → Rat → Reply
  | .acquire, tokens => .granted (decide (1 ≤ tokens))
  | .available, tokens => .shown tokens.floor.toNat

/-- What is left of so many tokens. -/
def Query.left : Query → Rat → Rat
  | .acquire, tokens => if 1 ≤ tokens then tokens - 1 else tokens
  | .available, tokens => tokens

/-- A request at an instant, which may be one in addition to those of a client. -/
structure Look where
  instant : Instant
  query : Query
  extra : Bool
  deriving DecidableEq

/-- What is told on a request, and the bucket after it. -/
def serve (b : TokenBucket) (look : Look) : Reply × TokenBucket :=
  match look.query with
  | .acquire => ((b.tryAcquire look.instant).map .granted id)
  | .available => ((b.available look.instant).map .shown id)

/-- Requests in a row, each with what is told. -/
def transcript (b : TokenBucket) : List Look → List (Look × Reply)
  | [] => []
  | look :: rest => (look, (b.serve look).1) :: (b.serve look).2.transcript rest

/-- The bucket after requests in a row. -/
def after (b : TokenBucket) (looks : List Look) : TokenBucket :=
  looks.foldl (fun b look => (b.serve look).2) b

/-- What the client is told. -/
def replies (b : TokenBucket) (looks : List Look) : List Reply :=
  ((b.transcript looks).filter (!·.1.extra)).map Prod.snd

/-- The requests are made one after the other from an instant on. -/
def InOrder (now : Instant) (looks : List Look) : Prop :=
  (now :: looks.map Look.instant).Pairwise (· ≤ ·)

/-- The additional requests take no token. -/
def Idle (b : TokenBucket) (looks : List Look) : Prop :=
  ∀ entry ∈ b.transcript looks, entry.1.extra = true → entry.2 ≠ .granted true

instance (now : Instant) (looks : List Look) : Decidable (InOrder now looks) :=
  inferInstanceAs (Decidable (List.Pairwise _ _))

instance (b : TokenBucket) (looks : List Look) : Decidable (b.Idle looks) :=
  inferInstanceAs (Decidable (∀ entry ∈ b.transcript looks, _))

/-! ## Bounds on the tokens -/

/-- What is known of the tokens in a bucket. -/
structure Bounds where
  low : Rat
  high : Rat

namespace Bounds

/-- What is known after a look, given the room in the bucket and what was due. -/
def refill (x : Bounds) (room earned : Rat) : Bounds where
  low := min (max x.low ((x.low + earned) / slack)) room
  high := min ((x.high + earned) * slack) room

/-- What is known after a request. -/
def after (x : Bounds) (look : Look) : Bounds :=
  if look.extra then x else ⟨look.query.left x.low, look.query.left x.high⟩

/-- So many tokens are within the bounds. -/
structure Contains (x : Bounds) (tokens : Rat) : Prop where
  low : x.low ≤ tokens
  high : tokens ≤ x.high

/-- The bounds leave one answer to a request. -/
def Decides (x : Bounds) (look : Look) : Prop := look.query.reply x.low = look.query.reply x.high

instance (x : Bounds) (look : Look) : Decidable (x.Decides look) :=
  inferInstanceAs (Decidable (_ = _))

end Bounds

/-- What is known of the tokens at each of the requests. -/
def estimates (b : TokenBucket) (x : Bounds) : List Look → List (Look × Bounds)
  | [] => []
  | look :: rest =>
      let found := x.refill b.capacity.toNat (b.earned look.instant)
      (look, found) :: (b.serve look).2.estimates (found.after look) rest

/-- What the client is told does not depend on rounding. -/
def Clear (b : TokenBucket) (looks : List Look) : Prop :=
  ∀ entry ∈ b.estimates ⟨b.tokens, b.tokens⟩ looks,
    entry.1.extra = false → entry.2.Decides entry.1

instance (b : TokenBucket) (looks : List Look) : Decidable (b.Clear looks) :=
  inferInstanceAs (Decidable (∀ entry ∈ b.estimates _ looks, _))

/-! ## Serving -/

/-- What a bucket keeps from one request to the next. -/
structure Orderly (b : TokenBucket) (now : Instant) : Prop where
  exact : Binary64.IsExact b.tokens
  nonneg : 0 ≤ b.tokens
  le : b.tokens ≤ b.capacity.toNat
  period : 0 < b.refillPeriod.nanos
  looked : b.lookedAt ≤ now

/-- The settings of a bucket. -/
def settings (b : TokenBucket) : UInt32 × UInt32 × Span :=
  (b.capacity, b.refillTokens, b.refillPeriod)

section Serving

variable {b other : TokenBucket} {now later : Instant} {look : Look}

theorem reply_serve (b : TokenBucket) (look : Look) :
    (b.serve look).1 = look.query.reply (b.refill look.instant).tokens := by
  rw [serve]
  cases look.query with
  | acquire =>
    simp only [tryAcquire, Query.reply]
    split <;> simp_all
  | available => rfl

theorem tokens_serve (b : TokenBucket) (look : Look) :
    (b.serve look).2.tokens = look.query.left (b.refill look.instant).tokens := by
  rw [serve]
  cases look.query with
  | acquire =>
    have high := b.refill_le_two_pow look.instant
    simp only [tryAcquire, Query.left]
    split
    next enough => exact Binary64.sub_one_of_isExact (b.isExact_refill look.instant) enough high
    next => rfl
  | available => rfl

@[simp] theorem lookedAt_serve (b : TokenBucket) (look : Look) :
    (b.serve look).2.lookedAt = look.instant := by
  rw [serve]
  cases look.query with
  | acquire =>
    simp only [tryAcquire]
    split <;> rfl
  | available => rfl

@[simp] theorem settings_serve (b : TokenBucket) (look : Look) :
    (b.serve look).2.settings = b.settings := by
  rw [serve]
  cases look.query with
  | acquire =>
    simp only [tryAcquire]
    split <;> rfl
  | available => rfl

@[simp] theorem capacity_serve (b : TokenBucket) (look : Look) :
    (b.serve look).2.capacity = b.capacity :=
  congrArg Prod.fst (b.settings_serve look)

theorem earned_eq (same : b.settings = other.settings) (looked : b.lookedAt = other.lookedAt) :
    b.earned = other.earned := by
  simp only [settings, Prod.mk.injEq] at same
  funext now
  rw [earned, earned, same.2.1, same.2.2, looked]

/-- What is due does not depend on where the time is cut. -/
theorem earned_add_earned (b : TokenBucket) (looked : b.lookedAt ≤ look.instant)
    (later_le : look.instant ≤ later) :
    b.earned look.instant + (b.serve look).2.earned later = b.earned later := by
  have same := b.settings_serve look
  simp only [settings, Prod.mk.injEq] at same
  have cut : later.since b.lookedAt =
      look.instant.since b.lookedAt + later.since look.instant := by
    rw [Instant.le_def] at looked later_le
    unfold Instant.since
    omega
  rw [earned, earned, earned, same.2.1, same.2.2, lookedAt_serve, cut]
  push_cast
  ring

/-- A request that is told nothing but a number, or refused, takes no token. -/
theorem left_eq_self {query : Query} {tokens : Rat} (idle : query.reply tokens ≠ .granted true) :
    query.left tokens = tokens := by
  cases query with
  | acquire =>
    have few : ¬ 1 ≤ tokens := by simpa [Query.reply] using idle
    exact if_neg few
  | available => rfl

theorem left_nonneg {query : Query} {tokens : Rat} (nonneg : 0 ≤ tokens) :
    0 ≤ query.left tokens := by
  cases query with
  | acquire =>
    simp only [Query.left]
    split
    next enough => exact sub_nonneg.mpr enough
    next => exact nonneg
  | available => exact nonneg

theorem left_le (query : Query) (tokens : Rat) : query.left tokens ≤ tokens := by
  cases query with
  | acquire =>
    simp only [Query.left]
    split
    next => linarith
    next => exact le_rfl
  | available => exact le_rfl

theorem isExact_left {query : Query} {tokens : Rat} (bits : Binary64.IsExact tokens)
    (high : tokens ≤ 2 ^ 53) : Binary64.IsExact (query.left tokens) := by
  cases query with
  | acquire =>
    simp only [Query.left]
    split
    next enough => exact bits.sub_one enough high
    next => exact bits
  | available => exact bits

namespace Orderly

theorem mono (h : b.Orderly now) (le : now ≤ later) : b.Orderly later :=
  { h with looked := Instant.le_trans h.looked le }

theorem serve (h : b.Orderly now) (look : Look) : (b.serve look).2.Orderly look.instant where
  exact := by
    rw [tokens_serve]
    exact isExact_left (b.isExact_refill look.instant) (b.refill_le_two_pow look.instant)
  nonneg := by
    rw [tokens_serve]
    exact left_nonneg (b.refill_nonneg look.instant)
  le := by
    rw [tokens_serve, capacity_serve]
    exact (left_le _ _).trans (b.refill_le look.instant)
  period := by
    rw [show (b.serve look).2.refillPeriod = b.refillPeriod from
      congrArg (fun settings => settings.2.2) (b.settings_serve look)]
    exact h.period
  looked := by
    rw [lookedAt_serve]
    exact Instant.le_refl _

/-- A bucket that was looked at just now is as it was. -/
theorem refill_eq (h : b.Orderly now) (looked : b.lookedAt = now) : b.refill now = b := by
  have tokens := tokens_refill looked h.exact h.nonneg h.le
  obtain ⟨capacity, refillTokens, refillPeriod, count, lookedAt⟩ := b
  subst looked
  simp only [refill, TokenBucket.mk.injEq, true_and, and_true] at tokens ⊢
  exact tokens

end Orderly

theorem Used.orderly {capacity refillTokens : UInt32} {refillPeriod : Span}
    (used : Used capacity refillTokens refillPeriod b now) : b.Orderly now := by
  induction used with
  | @created b now clock accepted =>
    obtain ⟨rfl, positive⟩ := eq_of_create accepted
    exact ⟨Binary64.isExact_nearest _, Binary64.nearest_nonneg _,
      (capacity_eq ⟨capacity, refillTokens, refillPeriod, 0, now⟩).le, positive,
      Instant.le_refl _⟩
  | waited used span passed ih =>
    refine ih.mono ?_
    rw [Instant.le_def, Instant.later?_eq_some passed]
    omega
  | @asked b now used ih => exact ih.serve ⟨now, .acquire, false⟩
  | @shown b now used ih => exact ih.serve ⟨now, .available, false⟩

end Serving

/-! ## Bounds and buckets -/

namespace Bounds

variable {x : Bounds} {tokens room e e' : Rat} {look : Look} {b : TokenBucket} {now : Instant}

/-- Bounds that leave one answer give the answer for what they contain. -/
theorem Contains.reply (h : x.Contains tokens) (decides : x.Decides look) :
    look.query.reply tokens = look.query.reply x.low := by
  obtain ⟨low, high⟩ := h
  rw [Decides] at decides
  revert decides
  cases look.query with
  | acquire =>
    simp only [Query.reply, Reply.granted.injEq, decide_eq_decide]
    intro decides
    constructor
    · intro enough
      exact decides.mpr (enough.trans high)
    · intro enough
      exact enough.trans low
  | available =>
    simp only [Query.reply, Reply.shown.injEq]
    intro decides
    have low' : x.low.floor ≤ tokens.floor := Int.floor_le_floor low
    have high' : tokens.floor ≤ x.high.floor := Int.floor_le_floor high
    omega

theorem Contains.after (h : x.Contains tokens) (own : look.extra = false)
    (decides : x.Decides look) : (x.after look).Contains (look.query.left tokens) := by
  have told := h.reply decides
  obtain ⟨low, high⟩ := h
  simp only [Bounds.after, own, Bool.false_eq_true, if_false]
  rw [Decides] at decides
  revert decides told
  cases look.query with
  | acquire =>
    simp only [Query.reply, Reply.granted.injEq, decide_eq_decide, Query.left]
    intro decides told
    -- all three are enough for a token, or none of them
    by_cases enough : 1 ≤ x.low
    · rw [if_pos enough, if_pos (told.mpr enough), if_pos (decides.mp enough)]
      exact ⟨by linarith, by linarith⟩
    · rw [if_neg enough, if_neg (mt told.mp enough), if_neg (mt decides.mpr enough)]
      exact ⟨low, high⟩
  | available =>
    intro _ _
    exact ⟨low, high⟩

theorem Contains.refill (h : x.Contains b.tokens) (orderly : b.Orderly now) (later : Instant) :
    (x.refill b.capacity.toNat (b.earned later)).Contains (b.refill later).tokens where
  low := by
    have rise : (x.low + b.earned later) / slack ≤ (b.tokens + b.earned later) / slack :=
      div_le_div_of_nonneg_right (by linarith [h.low]) slack_pos.le
    rcases max_choice x.low ((x.low + b.earned later) / slack) with kept | raised
    · rw [Bounds.refill, kept]
      exact (min_le_left _ _).trans (h.low.trans (tokens_le_refill orderly.exact orderly.le later))
    · rw [Bounds.refill, raised]
      exact (min_le_min_right _ rise).trans (le_refill orderly.nonneg orderly.period later)
  high := by
    refine le_min ?_ (b.refill_le later)
    refine (refill_le_slack orderly.nonneg orderly.period later).trans ?_
    exact mul_le_mul_of_nonneg_right (by linarith [h.high]) slack_pos.le

/-- Bounds on tokens, which are not negative. -/
structure Sound (x : Bounds) : Prop where
  low : 0 ≤ x.low
  high : 0 ≤ x.high

theorem Sound.refill (h : x.Sound) (hroom : 0 ≤ room) (he : 0 ≤ e) : (x.refill room e).Sound where
  low := le_min (h.low.trans (le_max_left _ _)) hroom
  high := le_min (mul_nonneg (add_nonneg h.high he) slack_pos.le) hroom

theorem Sound.after (h : x.Sound) (look : Look) : (x.after look).Sound := by
  unfold Bounds.after
  split
  · exact h
  · exact ⟨left_nonneg h.low, left_nonneg h.high⟩

/-- A look on the way only widens what is known. -/
theorem Contains.of_parts (sound : x.Sound) (hroom : 0 ≤ room) (he : 0 ≤ e) (he' : 0 ≤ e')
    (h : (x.refill room (e + e')).Contains tokens) :
    ((x.refill room e).refill room e').Contains tokens where
  low := by
    refine le_trans (min_le_min_right _ ?_) h.low
    have first : (x.refill room e).low ≤ max x.low ((x.low + e) / slack) := min_le_left _ _
    have less : (x.low + e) / slack ≤ (x.low + (e + e')) / slack :=
      div_le_div_of_nonneg_right (by linarith) slack_pos.le
    have due : max x.low ((x.low + e) / slack) ≤ x.low + e :=
      max_le (by linarith) (div_le_self (add_nonneg sound.low he) one_le_slack)
    refine max_le (first.trans (max_le_max_left _ less)) ?_
    refine le_trans ?_ (le_max_right _ _)
    exact div_le_div_of_nonneg_right (by linarith) slack_pos.le
  high := by
    have inRoom := h.high.trans (min_le_right _ _)
    have inBounds := h.high.trans (min_le_left _ _)
    refine le_min ?_ inRoom
    rcases min_choice ((x.high + e) * slack) room with open' | full
    · rw [Bounds.refill, open']
      have due : x.high + e ≤ (x.high + e) * slack :=
        le_mul_of_one_le_right (add_nonneg sound.high he) one_le_slack
      refine inBounds.trans (mul_le_mul_of_nonneg_right ?_ slack_pos.le)
      linarith
    · rw [Bounds.refill, full]
      have more : room + e' ≤ (room + e') * slack :=
        le_mul_of_one_le_right (add_nonneg hroom he') one_le_slack
      linarith

end Bounds

/-- Whenever the polled bucket is looked at next, the bounds then hold the tokens of the bucket `b`,
which has the same settings. -/
structure Covers (x : Bounds) (polled b : TokenBucket) (now : Instant) : Prop where
  same : b.settings = polled.settings
  orderly : b.Orderly now
  contains : ∀ later, now ≤ later →
    (x.refill polled.capacity.toNat (polled.earned later)).Contains (b.refill later).tokens

namespace Covers

variable {x : Bounds} {polled b : TokenBucket} {now : Instant} {look : Look}

theorem of_contains (same : b.settings = polled.settings) (looked : b.lookedAt = polled.lookedAt)
    (orderly : b.Orderly now) (h : x.Contains b.tokens) : Covers x polled b now where
  same := same
  orderly := orderly
  contains := by
    intro later _
    rw [← earned_eq same looked, ← show b.capacity = polled.capacity from congrArg Prod.fst same]
    exact h.refill orderly later

/-- A look in addition, at a bucket that is polled, leaves the bounds on another as they are or
widens them. -/
theorem extra (h : Covers x polled b now) (sound : x.Sound) (le : now ≤ look.instant)
    (looked : polled.lookedAt ≤ look.instant) (isExtra : look.extra = true) :
    Covers ((x.refill polled.capacity.toNat (polled.earned look.instant)).after look)
      (polled.serve look).2 b look.instant where
  same := h.same.trans (polled.settings_serve look).symm
  orderly := h.orderly.mono le
  contains := by
    intro later later_le
    rw [Bounds.after, if_pos isExtra, capacity_serve]
    apply Bounds.Contains.of_parts sound (Nat.cast_nonneg _) (earned_nonneg _ _)
      (earned_nonneg _ _)
    rw [earned_add_earned polled looked later_le]
    exact h.contains later (Instant.le_trans le later_le)

/-- After a look at the bucket itself the bounds hold what is left in it. -/
theorem serve (h : Covers x polled b now)
    (left : (Bounds.after (x.refill polled.capacity.toNat (polled.earned look.instant))
      look).Contains (look.query.left (b.refill look.instant).tokens)) :
    Covers ((x.refill polled.capacity.toNat (polled.earned look.instant)).after look)
      (polled.serve look).2 (b.serve look).2 look.instant := by
  apply of_contains
  · rw [settings_serve, settings_serve, h.same]
  · rw [lookedAt_serve, lookedAt_serve]
  · exact h.orderly.serve look
  · rw [tokens_serve]
    exact left

end Covers

section Runs

variable {b polled silent : TokenBucket} {x : Bounds} {now later : Instant} {look : Look}
  {looks : List Look}

theorem transcript_cons (b : TokenBucket) (look : Look) (rest : List Look) :
    b.transcript (look :: rest) =
      (look, (b.serve look).1) :: (b.serve look).2.transcript rest := rfl

theorem replies_cons_own (own : look.extra = false) (rest : List Look) :
    b.replies (look :: rest) = (b.serve look).1 :: (b.serve look).2.replies rest := by
  simp [replies, transcript_cons, own]

theorem replies_cons_extra (isExtra : look.extra = true) (rest : List Look) :
    b.replies (look :: rest) = (b.serve look).2.replies rest := by
  simp [replies, transcript_cons, isExtra]

/-- A client whose answers the bounds leave no choice for is told the same without the other
requests. -/
theorem replies_eq (sound : x.Sound) (coversPolled : Covers x polled polled now)
    (coversSilent : Covers x polled silent now) (order : InOrder now looks)
    (idle : polled.Idle looks)
    (clear : ∀ entry ∈ polled.estimates x looks, entry.1.extra = false → entry.2.Decides entry.1) :
    polled.replies looks = silent.replies (looks.filter (!·.extra)) := by
  -- the bounds follow the polled bucket, and hold the tokens of both at every step
  induction looks generalizing polled silent x now with
  | nil => rfl
  | cons look rest ih =>
    obtain ⟨first, order⟩ := List.pairwise_cons.mp order
    have le : now ≤ look.instant := first _ List.mem_cons_self
    rw [Idle, transcript_cons, List.forall_mem_cons] at idle
    rw [estimates, List.forall_mem_cons] at clear
    obtain ⟨idleHere, idleRest⟩ := idle
    obtain ⟨clearHere, clearRest⟩ := clear
    have found := coversPolled.contains look.instant le
    have sound' := (sound.refill (Nat.cast_nonneg polled.capacity.toNat)
      (polled.earned_nonneg look.instant)).after look
    cases kind : look.extra with
    | true =>
      have refused := idleHere kind
      rw [reply_serve] at refused
      rw [replies_cons_extra kind, List.filter_cons_of_neg (by simp [kind])]
      apply ih sound' _ _ order idleRest clearRest
      · apply coversPolled.serve
        rw [left_eq_self refused, Bounds.after, if_pos kind]
        exact found
      · exact coversSilent.extra sound le (Instant.le_trans coversPolled.orderly.looked le) kind
    | false =>
      have decides := clearHere kind
      have foundSilent := coversSilent.contains look.instant le
      rw [replies_cons_own kind, List.filter_cons_of_pos (by simp [kind]), replies_cons_own kind]
      congr 1
      · rw [reply_serve, reply_serve, found.reply decides, foundSilent.reply decides]
      · apply ih sound' _ _ order idleRest clearRest
        · exact coversPolled.serve (found.after kind decides)
        · exact coversSilent.serve (foundSilent.after kind decides)

/-! ## Delay -/

theorem granted_iff (b : TokenBucket) (now : Instant) :
    (b.tryAcquire now).1 = true ↔ 1 ≤ (b.refill now).tokens := by
  rw [tryAcquire]
  split <;> simp_all

/-- Requests that take no token never lose any. -/
theorem tokens_le_after (orderly : b.Orderly now)
    (refused : ∀ entry ∈ b.transcript looks, entry.2 ≠ .granted true) :
    b.tokens ≤ (b.after looks).tokens := by
  induction looks generalizing b now with
  | nil => exact le_rfl
  | cons look rest ih =>
    rw [transcript_cons, List.forall_mem_cons, reply_serve] at refused
    refine (tokens_le_refill orderly.exact orderly.le look.instant).trans ?_
    rw [← left_eq_self refused.1, ← tokens_serve]
    exact ih (orderly.serve look) refused.2

/-- Unless the bucket fills up, requests that take no token make what is due less by at most the
slack each. -/
theorem due_le_after (orderly : b.Orderly now) (order : InOrder now looks)
    (early : ∀ look ∈ looks, look.instant ≤ later)
    (refused : ∀ entry ∈ b.transcript looks, entry.2 ≠ .granted true) :
    b.capacity.toNat ≤ (b.after looks).tokens ∨
      b.tokens + b.earned later ≤
        ((b.after looks).tokens + (b.after looks).earned later) * slack ^ looks.length := by
  -- by induction on the requests, each of which costs at most one factor of the slack
  induction looks generalizing b now with
  | nil =>
    right
    rw [List.length_nil, pow_zero, mul_one]
    exact le_rfl
  | cons look rest ih =>
    obtain ⟨first, order⟩ := List.pairwise_cons.mp order
    obtain ⟨hereEarly, restEarly⟩ := List.forall_mem_cons.mp early
    rw [transcript_cons, List.forall_mem_cons, reply_serve] at refused
    obtain ⟨here, later'⟩ := refused
    have looked := Instant.le_trans orderly.looked (first _ List.mem_cons_self)
    have step := le_refill orderly.nonneg orderly.period look.instant
    rw [← left_eq_self here, ← tokens_serve] at step
    have orderly' := orderly.serve look
    show (b.capacity.toNat : Rat) ≤ ((b.serve look).2.after rest).tokens ∨
      _ ≤ (((b.serve look).2.after rest).tokens + ((b.serve look).2.after rest).earned later) *
        slack ^ (rest.length + 1)
    rcases min_le_iff.mp step with due | full
    · rcases ih orderly' order restEarly later' with filled | dueRest
      · left
        rwa [capacity_serve] at filled
      · right
        rw [div_le_iff₀ slack_pos] at due
        have rest_le := le_mul_of_one_le_right ((b.serve look).2.earned_nonneg later) one_le_slack
        calc b.tokens + b.earned later
            = b.tokens + b.earned look.instant + (b.serve look).2.earned later := by
              rw [← earned_add_earned b looked hereEarly, add_assoc]
          _ ≤ ((b.serve look).2.tokens + (b.serve look).2.earned later) * slack := by linarith
          _ ≤ _ := mul_le_mul_of_nonneg_right dueRest slack_pos.le
          _ = _ := by rw [mul_assoc, ← pow_succ]
    · left
      exact full.trans (tokens_le_after orderly' later')

@[simp] theorem capacity_after (b : TokenBucket) (looks : List Look) :
    (b.after looks).capacity = b.capacity := by
  induction looks generalizing b with
  | nil => rfl
  | cons look rest ih => exact (ih _).trans (b.capacity_serve look)

theorem exists_orderly_after (orderly : b.Orderly now) (looks : List Look) :
    ∃ last, (b.after looks).Orderly last := by
  induction looks generalizing b now with
  | nil => exact ⟨now, orderly⟩
  | cons look rest ih => exact ih (orderly.serve look)

/-- A token that a bucket would give at an instant is given, after requests that take none, when
there is slack more of it for each of them. -/
theorem granted_after {sooner : Instant} (orderly : b.Orderly now) (order : InOrder now looks)
    (early : ∀ look ∈ looks, look.instant ≤ later)
    (refused : ∀ entry ∈ b.transcript looks, entry.2 ≠ .granted true)
    (granted : (b.tryAcquire sooner).1 = true)
    (more : (b.tokens + b.earned sooner) * slack ^ (looks.length + 2) ≤ b.tokens + b.earned later) :
    ((b.after looks).tryAcquire later).1 = true := by
  rw [granted_iff] at granted ⊢
  have room : (1 : Rat) ≤ b.capacity.toNat := granted.trans (b.refill_le sooner)
  obtain ⟨last, orderlyAfter⟩ := exists_orderly_after orderly looks
  rcases due_le_after orderly order early refused with full | due
  · exact room.trans (full.trans (tokens_le_refill orderlyAfter.exact orderlyAfter.le later))
  · refine le_trans (le_min ?_ ?_) (le_refill orderlyAfter.nonneg orderlyAfter.period later)
    · have silent := granted.trans (refill_le_slack orderly.nonneg orderly.period sooner)
      have power : (0 : Rat) < slack ^ looks.length := pow_pos slack_pos _
      have polled : (b.tokens + b.earned sooner) * slack * slack ≤
          (b.after looks).tokens + (b.after looks).earned later := by
        refine le_of_mul_le_mul_right ?_ power
        calc (b.tokens + b.earned sooner) * slack * slack * slack ^ looks.length
            = (b.tokens + b.earned sooner) * slack ^ (looks.length + 2) := by ring
          _ ≤ b.tokens + b.earned later := more
          _ ≤ _ := due
      rw [le_div_iff₀ slack_pos]
      exact (mul_le_mul_of_nonneg_right silent slack_pos.le).trans polled
    · rwa [capacity_after]

/-! ## Requests at one instant -/

/-- A request that takes no token leaves the bucket as a look does. -/
theorem serve_of_refused (refused : (b.serve look).1 ≠ .granted true) :
    (b.serve look).2 = b.refill look.instant := by
  rw [reply_serve] at refused
  revert refused
  rw [serve]
  cases look.query with
  | acquire =>
    intro refused
    have few : ¬ 1 ≤ (b.refill look.instant).tokens := by simpa [Query.reply] using refused
    simp [tryAcquire, few]
  | available =>
    intro _
    rfl

theorem refill_refill (orderly : b.Orderly now) (instant : Instant) :
    (b.refill instant).refill instant = b.refill instant :=
  (orderly.serve ⟨instant, .available, true⟩).refill_eq rfl

theorem serve_refill (orderly : b.Orderly now) (look : Look) :
    (b.refill look.instant).serve look = b.serve look := by
  unfold serve tryAcquire available
  rw [refill_refill orderly]

/-! ## Polling -/

/-- **Polling disturbs by rounding only.** A client is told the same with and without the requests
of others that take no token, as far as no answer depends on rounding; a polled bucket gives a token
at the latest when there would be slack more of it for each request; and a request that takes no
token changes nothing for others at its instant, whichever comes first. -/
theorem polling_disturbs_by_rounding_only {capacity refillTokens : UInt32} {refillPeriod : Span}
    (used : Used capacity refillTokens refillPeriod b now) :
    (∀ looks, InOrder now looks → b.Idle looks → b.Clear looks →
      b.replies looks = b.replies (looks.filter (!·.extra))) ∧
    (∀ looks sooner later, InOrder now looks → (∀ look ∈ looks, look.instant ≤ later) →
      (∀ entry ∈ b.transcript looks, entry.2 ≠ .granted true) →
      (b.tryAcquire sooner).1 = true →
      (b.tokens + b.earned sooner) * slack ^ (looks.length + 2) ≤ b.tokens + b.earned later →
      ((b.after looks).tryAcquire later).1 = true) ∧
    ∀ look extra, extra.instant = look.instant →
      ((b.serve extra).1 ≠ .granted true → (b.serve extra).2.serve look = b.serve look) ∧
      (((b.serve look).2.serve extra).1 ≠ .granted true →
        ((b.serve look).2.serve extra).2 = (b.serve look).2) := by
  have orderly := used.orderly
  refine ⟨?_, ?_, ?_⟩
  · intro looks order idle clear
    have sound : Bounds.Sound ⟨b.tokens, b.tokens⟩ := ⟨orderly.nonneg, orderly.nonneg⟩
    have covers : Covers ⟨b.tokens, b.tokens⟩ b b now :=
      Covers.of_contains rfl rfl orderly ⟨le_rfl, le_rfl⟩
    exact replies_eq sound covers covers order idle clear
  · intro looks sooner later order early refused granted more
    exact granted_after orderly order early refused granted more
  · intro look extra same
    constructor
    · intro refused
      rw [serve_of_refused refused, same, serve_refill orderly]
    · intro refused
      rw [serve_of_refused refused, same]
      exact (orderly.serve look).refill_eq (lookedAt_serve b look)

end Runs

/-- Room for one token, which comes back every three seconds. -/
def single : TokenBucket := ⟨1, 1, Span.ofSeconds 3, Binary64.ofNat 1, Instant.origin⟩

/-- A client that asks at the start and after two, three and a half, and five seconds, while
somebody else looks at the bucket and tries to take a token. -/
def patientRun : List Look :=
  [⟨Instant.origin, .acquire, false⟩, ⟨⟨200000000⟩, .available, true⟩,
   ⟨⟨2000000000⟩, .acquire, false⟩, ⟨⟨2500000000⟩, .acquire, true⟩,
   ⟨⟨3500000000⟩, .acquire, false⟩, ⟨⟨5000000000⟩, .available, false⟩]

/-- A client that asks again just when the token is back, while somebody else looks at the
bucket. -/
def punctualRun : List Look :=
  [⟨Instant.origin, .acquire, false⟩, ⟨⟨200000000⟩, .available, true⟩,
   ⟨⟨3000000000⟩, .acquire, false⟩]

/-- The patient client is told the same without the other. The punctual one is not, since the two
parts of three seconds add up to less than a token, but would be a nanosecond later. -/
theorem punctual_client_loses_token :
    single.replies patientRun =
        [.granted true, .granted false, .granted true, .shown 0] ∧
      single.replies (patientRun.filter (!·.extra)) = single.replies patientRun ∧
      single.replies punctualRun = [.granted true, .granted false] ∧
      single.replies (punctualRun.filter (!·.extra)) = [.granted true, .granted true] ∧
      ((single.after (punctualRun.take 2)).tryAcquire ⟨3000000001⟩).1 = true := by
  have used : Used 1 1 (Span.ofSeconds 3) single Instant.origin :=
    .created (by decide +kernel) rfl
  have same := (polling_disturbs_by_rounding_only used).1 patientRun (by decide) (by decide +kernel)
    (by decide +kernel)
  have granted := (polling_disturbs_by_rounding_only used.asked).2.1
    [⟨⟨200000000⟩, .available, true⟩] ⟨3000000000⟩ ⟨3000000001⟩ (by decide) (by decide)
    (by decide +kernel) (by decide +kernel) (by decide +kernel)
  exact ⟨by decide +kernel, same.symm, by decide +kernel, by decide +kernel, granted⟩

end CredentialSupply.TokenBucket
