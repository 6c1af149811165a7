import LiveConfig.Backoff

/-!
# Scenarios of a back-off

Errors and successes one after the other, with the delay after each of them.
-/

namespace LiveConfig.Scenario

/-- What is seen after a step: the delay after an error, and the errors that count. -/
structure BackoffReport where
  delay : Option Duration
  errors : Nat

/-- **The delay after each step.** -/
def backoffReports (c : BackoffConfig) :
    List BackoffStep → Backoff → Except Duration.SecondsError (List BackoffReport)
  | [], _ => .ok []
  | .error :: rest, b => do
    let b := b.registerError
    let delay ← c.delay? b.errors
    let reports ← backoffReports c rest b
    pure (⟨some delay, b.errors⟩ :: reports)
  | .success :: rest, b => do
    let b := b.registerSuccess c.recovery
    let reports ← backoffReports c rest b
    pure (⟨none, b.errors⟩ :: reports)

end LiveConfig.Scenario
