import LiveConfig.Duration

/-!
# Token buckets

A limit on the rate of outbound calls: tokens flow in at a fixed rate up to a burst, and each call
takes one.

## Layout

The bucket is generic in its arithmetic and in its clock. The limiter of the program runs it on
doubles and on the moments of the program; the bound on granted calls is a law of ordered fields.
-/

namespace LiveConfig

/-! ## §1 The bucket -/

/-- A bucket of tokens, with moments in `τ` and numbers in `α`. -/
structure TokenBucket (τ α : Type) where
  /-- Tokens that flow in per second. -/
  rate : α
  /-- The most tokens that are kept. -/
  capacity : α
  /-- The tokens at hand. -/
  tokens : α
  /-- The moment up to which tokens have flowed in. -/
  filledAt : τ
deriving DecidableEq, Repr

namespace TokenBucket

variable {τ α : Type} [Add α] [Sub α] [Mul α] [Div α] [LT α] [LE α] [DecidableLT α]
  [DecidableLE α] [OfNat α 0] [OfNat α 1] [OfNat α 60]

/-- The smaller of two numbers. -/
def smaller (a b : α) : α := if a < b then a else b

/-- The larger of two numbers. -/
def larger (a b : α) : α := if b < a then a else b

/-- A full bucket, whose burst is one call even at slow rates. -/
def full (rate : α) (now : τ) : TokenBucket τ α := ⟨rate, larger rate 1, larger rate 1, now⟩

/-- Let tokens flow in up to a moment; `seconds` says how long it is from one moment to another. A
moment that is not later changes nothing. -/
def refill (seconds : τ → τ → α) (now : τ) (b : TokenBucket τ α) : TokenBucket τ α :=
  let elapsed := seconds b.filledAt now
  if 0 < elapsed then
    { b with tokens := smaller (b.tokens + elapsed * b.rate) b.capacity, filledAt := now }
  else b

/-- The longest wait, in seconds, before a refused call asks again. -/
def maxWait : α := 60

/-- **Take a token** at a moment: no wait if there is one, otherwise the seconds until there is
one. -/
def reserve (seconds : τ → τ → α) (now : τ) (b : TokenBucket τ α) : TokenBucket τ α × Option α :=
  let b := b.refill seconds now
  if 1 ≤ b.tokens then ({ b with tokens := b.tokens - 1 }, none)
  else (b, some (smaller ((1 - b.tokens) / b.rate) maxWait))

end TokenBucket

/-! ## §2 The limiter -/

/-- A limiter of calls; without a bucket nothing is limited. -/
structure RateLimiter where
  bucket : Option (TokenBucket Instant Float)

namespace RateLimiter

/-- A limiter for so many calls per second. A rate that is not a positive finite number limits
nothing. -/
def ofRate (rate : Float) (now : Instant) : RateLimiter :=
  ⟨if rate.isFinite && 0.0 < rate then some (.full rate now) else none⟩

/-- Take a token now, or learn how long to wait before asking again. -/
def reserve (now : Instant) (l : RateLimiter) : RateLimiter × Option Duration :=
  match l.bucket with
  | none => (l, none)
  | some b =>
    let (b, wait) := b.reserve (fun since now => (Duration.between since now).toSeconds) now
    (⟨some b⟩,
      wait.map fun s =>
        match Duration.ofSeconds s with
        | .ok d => d
        | .error _ => .ofSecs 60)

end RateLimiter

end LiveConfig
