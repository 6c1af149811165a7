import LiveConfig.Duration

/-!
# Health of a namespace

The failures since the server last answered, and a record that keeps repeated failures from flooding
the log.

## Main statements

- `lastError_recordFailure`: the last error is the text of the failure recorded last.
- `record_conserves`: a failure is reported or held back, never both and never neither.
-/

namespace LiveConfig

/-! ## §1 Failures in a row -/

/-- How the refreshes of a namespace have gone. -/
structure Health where
  /-- Failures since the last answer. -/
  failures : Nat := 0
  /-- The text of the latest of them. -/
  lastError : Option String := none
  /-- When the server last answered. -/
  lastSuccess : Option Instant := none
deriving DecidableEq, Repr, Inhabited

namespace Health

/-- The count of failures stops at the largest 32-bit number. -/
def maxFailures : Nat := UInt32.size - 1

/-- The server has answered. -/
def recordSuccess (now : Instant) (_ : Health) : Health := ⟨0, none, some now⟩

/-- A refresh has failed. -/
def recordFailure (error : String) (h : Health) : Health :=
  { h with failures := min (h.failures + 1) maxFailures, lastError := some error }

/-- How long ago the server last answered. -/
def age? (now : Instant) (h : Health) : Option Duration :=
  h.lastSuccess.map fun moment => Duration.between moment now

@[simp] theorem lastError_recordFailure (e : String) (h : Health) :
    (h.recordFailure e).lastError = some e := rfl

end Health

/-! ## §2 Log of failures -/

/-- Which failures are reported loudly: the first one of a window, with the number of those that
were held back before it. -/
structure FailureLog where
  /-- When the last loud report was made. -/
  windowStart : Option Instant := none
  /-- Failures held back since. -/
  suppressed : Nat := 0
deriving DecidableEq, Repr, Inhabited

namespace FailureLog

/-- Record a failure. A loud report carries the number of failures held back before it. -/
def record (interval : Duration) (now : Instant) (l : FailureLog) : FailureLog × Option Nat :=
  match l.windowStart with
  | some start =>
    if now - start < interval.nanos then (⟨some start, l.suppressed + 1⟩, none)
    else (⟨some now, 0⟩, some l.suppressed)
  | none => (⟨some now, 0⟩, some l.suppressed)

/-- Forget the window and what was held back. -/
def reset (_ : FailureLog) : FailureLog := {}

/-- A failure is held back, or it is reported together with all that were. -/
theorem record_conserves (interval : Duration) (now : Instant) (l : FailureLog) :
    (l.record interval now).1.suppressed + ((l.record interval now).2.map (· + 1)).getD 0
      = l.suppressed + 1 := by
  unfold record
  split
  · split <;> simp
  · simp

end FailureLog

end LiveConfig
