import CredentialSupply.Failure
import CredentialSupply.Time.FloatSeconds
import CredentialSupply.Time.Instant

set_option autoImplicit false

/-!
# Token buckets

A bucket starts full and gains tokens in proportion to the time that passes, up to its
capacity. Tokens are a floating-point number: every look at the bucket first adds what was
gained since the last look, each arithmetic step rounded, and then moves the time of the last
look to the present.
-/

namespace CredentialSupply

/-- A token bucket. -/
structure TokenBucket where
  capacity : UInt32
  refillTokens : UInt32
  refillPeriod : Span
  tokens : Rat
  lookedAt : Instant

namespace TokenBucket

/-- The complaint about a setting that must not be zero. -/
def mustBePositive (field : String) : Failure :=
  .configuration field "Must be greater than zero."

/-- Checks the settings of a bucket. -/
def validate (capacity refillTokens : UInt32) (refillPeriod : Span) : Except Failure Unit :=
  if capacity = 0 then .error (mustBePositive "bucket_size")
  else if refillTokens = 0 then .error (mustBePositive "refill_tokens")
  else if refillPeriod.isZero then .error (mustBePositive "refill_period")
  else .ok ()

/-- A full bucket that gains `refillTokens` every `refillPeriod`. -/
def create (capacity refillTokens : UInt32) (refillPeriod : Span) (now : Instant) :
    Except Failure TokenBucket :=
  (validate capacity refillTokens refillPeriod).map fun _ =>
    ⟨capacity, refillTokens, refillPeriod, Binary64.ofNat capacity.toNat, now⟩

/-- Tokens gained between the last look and `now`. -/
def gained (b : TokenBucket) (now : Instant) : Rat :=
  Binary64.mul
    (Binary64.div (floatSeconds (now.since b.lookedAt)) (floatSeconds b.refillPeriod.nanos))
    (Binary64.ofNat b.refillTokens.toNat)

/-- The bucket with the tokens gained until `now`. -/
def refill (b : TokenBucket) (now : Instant) : TokenBucket :=
  let raised := Binary64.add b.tokens (b.gained now)
  let full := Binary64.ofNat b.capacity.toNat
  -- the minimum is taken of rounded numbers
  { b with tokens := if raised ≤ full then raised else full, lookedAt := now }

/-- Takes one token if there is a whole one. -/
def tryAcquire (b : TokenBucket) (now : Instant) : Bool × TokenBucket :=
  let filled := b.refill now
  if 1 ≤ filled.tokens then
    (true, { filled with tokens := Binary64.sub filled.tokens 1 })
  else (false, filled)

/-- Whole tokens in the bucket. -/
def available (b : TokenBucket) (now : Instant) : Nat × TokenBucket :=
  let filled := b.refill now
  (filled.tokens.floor.toNat, filled)

end TokenBucket

end CredentialSupply
