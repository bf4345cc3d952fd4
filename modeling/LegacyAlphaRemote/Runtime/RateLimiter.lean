import LegacyAlphaRemote.Core.Bytes

/-!
# The rate limiter

`rate_limiter.cpp`: a token bucket for each of the last addresses that asked.  The tokens are
`double`s in the source and exact rationals here.
-/

namespace LegacyAlpha

/-- `RateLimiter::Bucket`, with the tokens as exact rationals. -/
structure Bucket where
  key : Bytes
  tokens : ℚ
  lastMs : ℤ
  deriving DecidableEq, Repr

/-- `RateLimiter`, whose buckets are kept in the order in which they were made. -/
structure RateLimiter where
  capacity : ℚ
  refillPerMs : ℚ
  maximumKeys : ℕ
  buckets : List Bucket := []
  deriving DecidableEq, Repr

/-- The constructor, which makes a rate by the second one by the millisecond. -/
def RateLimiter.new (capacity refillPerSecond : ℚ) (maximumKeys : ℕ) : RateLimiter :=
  { capacity, refillPerMs := refillPerSecond / 1000, maximumKeys }

namespace RateLimiter

/-- The tokens that have come in since the bucket was last looked at, no more than it holds.  A time
before that changes nothing. -/
def refill (limiter : RateLimiter) (bucket : Bucket) (nowMs : ℤ) : Bucket :=
  if nowMs > bucket.lastMs then
    { bucket with
      tokens := min (bucket.tokens + (nowMs - bucket.lastMs) * limiter.refillPerMs) limiter.capacity
      lastMs := nowMs }
  else bucket

/-- A token is taken from the first bucket with this key, if there is a whole one. -/
def spend (limiter : RateLimiter) (key : Bytes) (nowMs : ℤ) : List Bucket → Bool × List Bucket
  | [] => (false, [])
  | bucket :: buckets =>
    if bucket.key == key then
      let bucket := limiter.refill bucket nowMs
      if bucket.tokens < 1 then (false, bucket :: buckets)
      else (true, { bucket with tokens := bucket.tokens - 1 } :: buckets)
    else
      let (allowed, buckets) := limiter.spend key nowMs buckets
      (allowed, bucket :: buckets)

/-- The buckets with one for this key: a new one, full, takes the place of the oldest when there are
too many. -/
def withBucket (limiter : RateLimiter) (key : Bytes) (nowMs : ℤ) : List Bucket :=
  if limiter.buckets.any fun bucket => bucket.key == key then limiter.buckets
  else
    (if limiter.buckets.length ≥ limiter.maximumKeys then limiter.buckets.tail
      else limiter.buckets) ++ [{ key, tokens := limiter.capacity, lastMs := nowMs }]

/-- `allow`: a key without a bucket gets a full one, for which the oldest has to go when there are as
many as there may be. -/
def allow (limiter : RateLimiter) (key : Bytes) (nowMs : ℤ) : Bool × RateLimiter :=
  let (allowed, buckets) := limiter.spend key nowMs (limiter.withBucket key nowMs)
  (allowed, { limiter with buckets })

/-- `clear`: every bucket goes, so that each key begins with a full one again. -/
def clear (limiter : RateLimiter) : RateLimiter := { limiter with buckets := [] }

lemma spend_keys (limiter : RateLimiter) (key : Bytes) (nowMs : ℤ) (buckets : List Bucket) :
    (limiter.spend key nowMs buckets).2.map Bucket.key = buckets.map Bucket.key := by
  induction buckets with
  | nil => rfl
  | cons bucket buckets ih =>
      have hrefill : (limiter.refill bucket nowMs).key = bucket.key := by
        unfold refill
        split_ifs <;> rfl
      unfold spend
      by_cases hkey : (bucket.key == key) = true
      · rw [if_pos hkey]
        dsimp only
        split_ifs <;> simp [hrefill]
      · rw [if_neg hkey]
        simp [ih]

/-- There are never more buckets than the limiter was made for, as a new one comes in the place of
another. -/
theorem allow_length_le {limiter : RateLimiter} (hmax : 0 < limiter.maximumKeys)
    (h : limiter.buckets.length ≤ limiter.maximumKeys) (key : Bytes) (nowMs : ℤ) :
    (limiter.allow key nowMs).2.buckets.length ≤ limiter.maximumKeys := by
  have hkeys := congrArg List.length
    (limiter.spend_keys key nowMs (limiter.withBucket key nowMs))
  rw [List.length_map, List.length_map] at hkeys
  rw [allow, hkeys, withBucket]
  split_ifs with hany hfull
  · exact h
  · rw [List.length_append, List.length_tail, List.length_singleton]
    omega
  · rw [List.length_append, List.length_singleton]
    omega

end RateLimiter

end LegacyAlpha
