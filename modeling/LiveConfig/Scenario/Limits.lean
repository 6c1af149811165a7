import LiveConfig.TokenBucket

/-!
# Scenarios of a limiter

A caller takes tokens of one limiter, one after the other, with pauses in between. Time is counted
in milliseconds, and a wait ends at the first whole millisecond that is not too early.
-/

namespace LiveConfig.Scenario

/-- A step of the caller. -/
inductive LimitStep
  | acquire (times : Nat)
  | wait (millis : Nat)
deriving DecidableEq, Repr

/-- How long the caller waits for one token before he gives up. -/
def patience : Nat := 3600000

/-- How waiting for a token ends. -/
structure Acquired where
  limiter : RateLimiter
  moment : Nat
  /-- The caller has the token; otherwise he has given up. -/
  granted : Bool

/-- Wait for a token until a moment at most; `fuel` bounds the number of tries. -/
def acquireFrom (giveUp : Nat) : Nat → RateLimiter → Nat → Acquired
  | 0, l, now => ⟨l, now, false⟩
  | fuel + 1, l, now =>
    match l.reserve (now * 1000000) with
    | (l, none) => ⟨l, now, true⟩
    | (l, some wait) =>
      let next := now + wait.ceilMillis
      if giveUp < next then ⟨l, max now giveUp, false⟩ else acquireFrom giveUp fuel l next

/-- Take tokens one after the other, with at most so many tries for each: when each was had, none if
the caller gave up. -/
def acquireTimes (tries : Nat) : Nat → RateLimiter → Nat → List (Option Nat) × RateLimiter × Nat
  | 0, l, now => ([], l, now)
  | times + 1, l, now =>
    let a := acquireFrom (now + patience) tries l now
    let (rest, l, now) := acquireTimes tries times a.limiter a.moment
    ((if a.granted then some a.moment else none) :: rest, l, now)

/-- When each token was had, from a moment on. -/
def acquiredFrom (tries : Nat) : List LimitStep → RateLimiter → Nat → List (Option Nat)
  | [], _, _ => []
  | .acquire times :: rest, l, now =>
    let (moments, l, now) := acquireTimes tries times l now
    moments ++ acquiredFrom tries rest l now
  | .wait millis :: rest, l, now => acquiredFrom tries rest l (now + Duration.pause millis)

/-- **When each token was had**, over all steps. -/
def acquiredAt (steps : List LimitStep) (l : RateLimiter) : List (Option Nat) :=
  acquiredFrom (patience + 1) steps l 0

end LiveConfig.Scenario
