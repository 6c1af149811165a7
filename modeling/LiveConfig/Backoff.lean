import LiveConfig.Duration

/-!
# Back-off

How long to wait after consecutive errors: the delay grows by a factor with every error up to a cap,
and successes bring it down again.

## Layout

The counters (`Backoff`) know nothing of numbers, and the delay (`delayAfter`) knows nothing of
history, so that the growth law can be stated over any ordered arithmetic.

## Main statements

- `errors_registerError`: each error counts one.
- `errors_registerSuccess_le`: a success never raises the count.
-/

namespace LiveConfig

/-! ## §1 Growth -/

namespace Growth

/-- `acc * a ^ n` by repeated squaring. The order of the multiplications is part of the result where
multiplication rounds. -/
def powerFrom {α : Type} [Mul α] (acc a : α) (n : Nat) : α :=
  let acc := if n % 2 = 1 then acc * a else acc
  if n / 2 = 0 then acc else powerFrom acc (a * a) (n / 2)
termination_by n
decreasing_by omega

/-- The power of a number. -/
def power {α : Type} [Mul α] [OfNat α 1] (a : α) (n : Nat) : α := powerFrom 1 a n

/-- The exponent after so many errors: past 64 it stays. -/
def exponent (errors : Nat) : Nat := min (errors - 1) 64

/-- **The delay** after so many consecutive errors: `base` grown by `factor` with every error but
the first, at most `cap`. -/
def delayAfter {α : Type} [Mul α] [OfNat α 1] [LT α] [DecidableLT α]
    (base factor cap : α) (errors : Nat) : α :=
  let grown := base * power factor (exponent errors)
  if grown < cap then grown else cap

end Growth

/-! ## §2 Configuration -/

/-- The parameters of a back-off. -/
structure BackoffConfig where
  /-- The delay after the first error. -/
  base : Duration
  /-- The longest delay. -/
  cap : Duration
  /-- Growth per consecutive error. -/
  factor : Float
  /-- Successes in a row that bring the error count down; with zero the first success resets it. -/
  recovery : Nat

namespace BackoffConfig

/-- Between the attempts of one fetch. -/
def fetchRetry : BackoffConfig := ⟨.ofSecs 1, .ofSecs 8, 2.0, 0⟩

/-- Between failed long polls. -/
def longPoll : BackoffConfig := ⟨.ofSecs 1, .ofSecs 120, 2.0, 0⟩

/-- The delay after so many consecutive errors, unless the growth runs below zero. -/
def delay? (c : BackoffConfig) (errors : Nat) : Except Duration.SecondsError Duration :=
  Duration.ofSeconds (Growth.delayAfter c.base.toSeconds c.factor c.cap.toSeconds errors)

end BackoffConfig

/-! ## §3 Counters -/

/-- The errors that count towards the next delay, and the successes since the last of them.

A machine word holds either number: the streak stays below `recovery`, and the errors run out of 64
bits only after 2 ^ 64 of them, where the growth has long ended. -/
structure Backoff where
  errors : Nat := 0
  streak : Nat := 0
deriving DecidableEq, Repr, Inhabited

/-- What can happen to a back-off. -/
inductive BackoffStep
  | error
  | success
deriving DecidableEq, Repr

namespace Backoff

/-- Count an error. -/
def registerError (b : Backoff) : Backoff := ⟨b.errors + 1, 0⟩

/-- Count a success: a streak of `recovery` takes two errors off. -/
def registerSuccess (recovery : Nat) (b : Backoff) : Backoff :=
  if recovery = 0 then ⟨0, 0⟩
  -- A streak starts anew at its full length, so a long run of successes counts several times.
  else if recovery ≤ b.streak + 1 then ⟨b.errors - 2, 0⟩
  else ⟨b.errors, b.streak + 1⟩

@[simp] theorem errors_registerError (b : Backoff) : b.registerError.errors = b.errors + 1 := rfl

theorem errors_registerSuccess_le (recovery : Nat) (b : Backoff) :
    (b.registerSuccess recovery).errors ≤ b.errors := by
  unfold registerSuccess
  split
  · exact Nat.zero_le _
  · split
    · exact Nat.sub_le _ _
    · exact Nat.le_refl _

end Backoff

end LiveConfig
