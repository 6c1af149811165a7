import LiveConfig.Simulation.Client

/-!
# Scenarios of calls and fetches

Calls to single addresses, fetches from one instance, and fetches that rotate over the instances,
one after the other, against the scripted backend.

## Main statements

- `requests_nil`: what has been taken out of the world is not shown again.
-/

namespace LiveConfig.Simulation

/-! ## §1 Requests -/

/-- Requests in the order in which they are shown: by moment, then by address, then as they were
sent. -/
def Sent.ordered (sent : List Sent) : List Sent := chronological Sent.moment Sent.path sent

/-- The requests that have been sent since they were last taken out. -/
def World.requests (w : World) : List Sent × World := (Sent.ordered w.sent, { w with sent := [] })

/-- What has been taken out of the world is not shown again. -/
theorem World.requests_nil (w : World) : w.requests.2.requests.1 = [] := by
  simp [World.requests, Sent.ordered, chronological]

end LiveConfig.Simulation

namespace LiveConfig.Scenario

open Simulation

/-! ## §2 Calls -/

/-- The answer to a call, with the milliseconds that it took; without them no call was made. -/
structure TimedAnswer where
  answer : Except Http.CallError (Http.Outcome Json)
  took : Option Nat

/-- Call an address for any document. -/
def call (limit : Duration) (address : String) : Client TimedAnswer :=
  match Http.address address [] with
  | .error e => pure ⟨.error e, none⟩
  | .ok u => do
    let started ← Activity.look World.now
    let answer ← Client.get Json.read? u limit
    let ended ← Activity.look World.now
    pure ⟨answer, some (ended - started)⟩

/-- **Call addresses** one after the other: the answers and the requests. -/
def calls (limit : Duration) (addresses : List String) : Client (List TimedAnswer × List Sent) := do
  let answers ← Activity.forEach addresses (call limit)
  let requests ← Activity.update World.requests
  pure (answers, requests)

/-! ## §3 Fetches -/

/-- A fetch of a namespace. -/
structure FetchCall where
  ns : String
  /-- The release that is known. -/
  release : Option String := none
  messages : Option Messages := none
  /-- Milliseconds before the fetch. -/
  wait : Nat := 0

/-- **Fetch from one instance**: the outcomes and the requests. -/
def fetches (base : String) (calls : List FetchCall) :
    Client (List (Except Http.CallError FetchOutcome) × List Sent) := do
  let outcomes ← Activity.forEach calls fun c => Client.fetch base c.ns c.release c.messages
  let requests ← Activity.update World.requests
  pure (outcomes, requests)

/-- What is seen after a fetch that rotates. -/
structure RotationReport where
  result : FetchResult
  /-- The errors that count towards the next delay. -/
  errors : Nat
  moment : Nat
  requests : List Sent

/-- **Fetch from instance after instance**, with one back-off for all fetches: the reports, and the
endpoints that are known at the end. -/
def rotations : List FetchCall → Backoff → Client (List RotationReport × List Endpoint)
  | [], _ => do
    let endpoints ← Activity.look fun w => w.discovery.locator.endpoints
    pure ([], endpoints)
  | c :: rest, b => do
    Client.pauseMillis c.wait
    let (result, b) ← Client.fetchAnywhere .main c.ns c.release c.messages b
    let (requests, moment) ← Activity.update fun w =>
      let (requests, w) := w.requests
      ((requests, w.now), w)
    let (reports, endpoints) ← rotations rest b
    pure (⟨result, b.errors, moment, requests⟩ :: reports, endpoints)

end LiveConfig.Scenario
