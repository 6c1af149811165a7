import LiveConfig.Scenario.Exchange

/-!
# Scenarios of discovery

Someone works the locator step by step while its loop may be under way. A millisecond passes after
each step before anything is seen, so that everything due has happened by then.
-/

namespace LiveConfig.Simulation.World

/-- The lines that have been logged since they were last taken out. -/
def takeLogs (w : World) : List (Shown LogLine) × World := (ordered w.logs, { w with logs := [] })

end LiveConfig.Simulation.World

namespace LiveConfig.Scenario

open Simulation

/-- A millisecond passes, so that everything due happens. -/
def breathe : Client Unit := Client.pauseMillis 1

/-- A step of the scenario. -/
inductive LocatorStep
  | refresh
  | refreshOnFailure
  | pick (tried : List String)
  | pickOrDiscover (tried : List String)
  /-- Start the loop. -/
  | launch
  | cancel
  | wait (millis : Nat)

/-- What a step gives. -/
inductive LocatorResult
  | nothing
  | endpoints (list : List Endpoint)
  | picked (endpoint : Option Endpoint)
  | failed (e : Http.CallError)

/-- What is seen after a step. -/
structure LocatorReport where
  result : LocatorResult
  moment : Nat
  endpoints : List Endpoint
  /-- Whether the loop is under way; none if it was never started. -/
  running : Option Bool
  requests : List Sent
  logs : List (Shown LogLine)

/-- Do what a step says. -/
def LocatorStep.act : LocatorStep → Client LocatorResult
  | .refresh => do
    match ← Client.refresh .main with
    | .ok list => pure (.endpoints list)
    | .error e => pure (.failed e)
  | .refreshOnFailure => do
    Client.refreshOnFailure .main
    pure .nothing
  | .pick tried => do pure (.picked (← Activity.update (World.pick tried)))
  | .pickOrDiscover tried => do pure (.picked (← Client.pickOrDiscover .main tried))
  | .launch => do
    Activity.change (World.start .discovery)
    pure .nothing
  | .cancel => do
    Activity.change World.cancel
    pure .nothing
  | .wait millis => do
    Client.pauseMillis millis
    pure .nothing

/-- A step, and what is seen after it. -/
def LocatorStep.run (s : LocatorStep) : Client LocatorReport := do
  let result ← s.act
  breathe
  Activity.update fun w =>
    let (requests, w) := w.requests
    let (logs, w) := w.takeLogs
    ({ result, moment := w.now, endpoints := w.discovery.locator.endpoints,
       running := w.running? .discovery, requests, logs }, w)

/-- **Work the locator**: what is seen after each step. -/
def locatorReports (steps : List LocatorStep) : Client (List LocatorReport) :=
  Activity.forEach steps LocatorStep.run

end LiveConfig.Scenario
