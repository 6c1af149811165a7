import LiveConfig.Backoff
import LiveConfig.Discovery.Endpoint
import LiveConfig.Fetch.Request

/-!
# Rotation

One logical fetch asks instance after instance until one of them answers, and waits longer after
each passing error.

## The machine

`Rotation` is where such a fetch stands between two questions. It asks its environment for an
endpoint, for the result of a fetch there, and, after a passing error, for a chance to look for
other instances and a pause; what it is told decides the next question.

## The loop

`Rotation.fetch` drives the machine to its end. What the machine asks for is done by `Services`,
in whatever kind of program the fetch is part of.
-/

namespace LiveConfig

/-! ## §1 Errors -/

/-- Why a fetch failed as a whole. -/
inductive FetchError
  | noEndpoint
  | exhausted (attempts : Nat) (last : Http.CallError)
deriving DecidableEq

namespace FetchError

/-- The family of an error, for logs. -/
def family : FetchError → String
  | noEndpoint => "no-endpoint"
  | exhausted _ last => last.family

/-- What is said about an error. -/
def message : FetchError → String
  | noEndpoint => "no configuration service instance is known"
  | exhausted attempts last =>
    "fetch failed after " ++ Number.decimalText attempts ++ " attempt(s): " ++ last.message

end FetchError

/-! ## §2 The machine -/

/-- What a fetch ends with. -/
abbrev FetchResult := Except FetchError FetchOutcome

/-- Where a fetch stands. -/
inductive Rotation.Stage
  /-- It needs an endpoint. -/
  | picking
  /-- It waits for the answer of an endpoint. -/
  | asking (endpoint : Endpoint)
  /-- A passing error calls for a look for other instances and, unless it was the last attempt, for
  a pause. -/
  | pausing (delay : Duration) (sleeps : Bool)
  | ended (result : FetchResult)

/-- A fetch under way. -/
structure Rotation where
  maxAttempts : Nat
  tried : List String := []
  attempts : Nat := 0
  lastError : Option Http.CallError := none
  stage : Rotation.Stage := .picking

namespace Rotation

/-- A fetch that begins; there is always one attempt. -/
def ofLimit (maxAttempts : Nat) : Rotation := { maxAttempts := max maxAttempts 1 }

/-- How a fetch ends when no endpoint is left or no attempt. -/
def exhausted (r : Rotation) : Rotation :=
  { r with stage := .ended (match r.lastError with
      | some last => .error (.exhausted r.attempts last)
      | none => .error .noEndpoint) }

/-- Go on with the endpoint that was picked, if one was. -/
def picked (endpoint : Option Endpoint) (r : Rotation) : Rotation :=
  match endpoint with
  | none => r.exhausted
  | some e =>
    { r with attempts := r.attempts + 1, tried := e.id :: r.tried, stage := .asking e }

/-- **Go on with the answer of an endpoint**: the fetch and the back-off afterwards. -/
def reply (config : BackoffConfig) (b : Backoff) (answer : Except Http.CallError FetchOutcome)
    (r : Rotation) : Except Duration.SecondsError (Rotation × Backoff) :=
  match answer with
  | .ok outcome => .ok ({ r with stage := .ended (.ok outcome) }, b.registerSuccess config.recovery)
  | .error e =>
    if e.isTransient then do
      let b := b.registerError
      let delay ← config.delay? b.errors
      pure ({ r with
        lastError := some e
        stage := .pausing delay (r.attempts < r.maxAttempts) }, b)
    -- Another instance would reject the request as well, so this is no matter for the back-off.
    else .ok ({ r with stage := .ended (.error (.exhausted r.attempts e)) }, b)

/-- Go on after the pause. -/
def resume (r : Rotation) : Rotation :=
  if r.attempts < r.maxAttempts then { r with stage := .picking } else r.exhausted

/-- The result, if there is one. -/
def result? (r : Rotation) : Option FetchResult :=
  match r.stage with
  | .ended result => some result
  | _ => none

/-! ## §3 The loop -/

/-- What a fetch calls for while it is under way, as programs of one kind. -/
structure Services (m : Type → Type) where
  /-- Pick an endpoint, knowing the names of those that have been tried. -/
  pick : List String → m (Option Endpoint)
  /-- Fetch from an endpoint. -/
  ask : Endpoint → m (Except Http.CallError FetchOutcome)
  /-- The parameters of the back-off. -/
  backoff : m BackoffConfig
  /-- Look for other instances after a passing error. -/
  lookAgain : m Unit
  pause : Duration → m Unit
  /-- The back-off gives no delay. -/
  fail : Duration.SecondsError → m (Rotation × Backoff)

variable {m : Type → Type} [Monad m]

/-- One round of a fetch: it goes on from where it stands. -/
def advance (services : Services m) (r : Rotation) (b : Backoff) : m (Rotation × Backoff) :=
  match r.stage with
  | .ended _ => pure (r, b)
  | .picking => do
    let endpoint ← services.pick r.tried
    pure (r.picked endpoint, b)
  | .asking endpoint => do
    let answer ← services.ask endpoint
    let config ← services.backoff
    match r.reply config b answer with
    | .ok next => pure next
    | .error e => services.fail e
  | .pausing delay sleeps => do
    services.lookAgain
    if sleeps then services.pause delay
    pure (r.resume, b)

/-- Round after round, at most so many, until there is a result. -/
def run (services : Services m) : Nat → Rotation → Backoff → m (FetchResult × Backoff)
  | 0, _, b => pure (.error .noEndpoint, b)
  | fuel + 1, r, b => do
    match r.result? with
    | some result => pure (result, b)
    | none =>
      let (r, b) ← advance services r b
      run services fuel r b

/-- **Fetch** from instance after instance until one answers. -/
def fetch (services : Services m) (maxAttempts : Nat) (b : Backoff) : m (FetchResult × Backoff) :=
  let r := ofLimit maxAttempts
  run services (4 * r.maxAttempts + 4) r b

end Rotation

end LiveConfig
