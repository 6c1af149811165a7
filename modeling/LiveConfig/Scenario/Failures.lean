import LiveConfig.Health

/-!
# Scenarios of the health record

Failures and successes of one namespace, with pauses in between, and what its health record says
after each of them.
-/

namespace LiveConfig.Scenario

/-- A step of the scenario. -/
inductive HealthStep
  | fail (text : String)
  | succeed
  | wait (millis : Nat)
deriving DecidableEq, Repr

/-- What is seen after a step. -/
structure HealthReport where
  /-- The failures in a row: with the new one after a failure, those that have ended after a
  success. -/
  streak : Option Nat
  health : Health
  age : Option Duration

/-- One step at a moment: the moment afterwards, the record, and the failures in a row. -/
def HealthStep.run (now : Nat) (h : Health) : HealthStep → Nat × Health × Option Nat
  | .fail text =>
    let h := h.recordFailure text
    (now, h, some h.failures)
  | .succeed => (now, h.recordSuccess (now * 1000000), some h.failures)
  | .wait millis => (now + Duration.pause millis, h, none)

/-- **What is seen after each step.** -/
def healthReports : List HealthStep → Nat → Health → List HealthReport
  | [], _, _ => []
  | s :: rest, now, h =>
    let (now, h, streak) := s.run now h
    ⟨streak, h, h.age? (now * 1000000)⟩ :: healthReports rest now h

end LiveConfig.Scenario
