import LiveConfig.Discovery.Locator
import LiveConfig.Permits

/-!
# Discovery calls

Callers that ask for a discovery at the same time. A lock lets one of them talk to the meta server
at a time; a caller whose fetch has failed first looks how fresh the list is.

## The machine

Each call stands in a `CallPhase`, and each `DiscoveryMove` lets one call go on. Looking and asking
take the lock separately, so other callers may come in between.

## Main statements

- `begin_of_isFixed`: with fixed instances a call ends at once and changes nothing.
-/

namespace LiveConfig

/-! ## §1 Calls -/

/-- Why a discovery is wanted. -/
inductive Purpose
  /-- For its own sake: on schedule, or because no instance is known. -/
  | direct
  /-- Because a fetch has failed. -/
  | afterFailure
deriving DecidableEq, Repr

/-- Where a call stands. -/
inductive CallPhase
  /-- It waits for the lock to see how fresh the list is. -/
  | looking
  /-- It waits for the lock to ask. -/
  | entering
  /-- It holds the lock and waits for the answer. -/
  | asking
deriving DecidableEq, Repr

/-- A call under way. -/
structure DiscoveryCall where
  id : Nat
  purpose : Purpose
  phase : CallPhase
deriving DecidableEq, Repr

/-- The locator with the calls on it. -/
structure Discovery where
  locator : Locator
  lock : Permits := .lock
  calls : List DiscoveryCall := []
deriving DecidableEq

/-- A step of a call, or the beginning or the end of one. -/
inductive DiscoveryMove
  | call (id : Nat) (purpose : Purpose)
  | look (id : Nat)
  | ask (id : Nat)
  | answer (id : Nat) (a : Locator.Answer)
  /-- The caller gives up. -/
  | abandon (id : Nat)

/-- What a step shows. -/
inductive DiscoveryEffect
  | nothing
  /-- A request was sent. -/
  | sent (url : Url)
  /-- The call has ended. -/
  | ended (result : Except Http.CallError (List Endpoint)) (remark : Option Locator.Remark)

namespace Discovery

/-! ## §2 Moves -/

/-- The call with a number. -/
def call? (d : Discovery) (id : Nat) : Option DiscoveryCall := d.calls.find? fun c => c.id = id

/-- Put a call into another phase. -/
def setPhase (id : Nat) (phase : CallPhase) (d : Discovery) : Discovery :=
  { d with calls := d.calls.map fun c => if c.id = id then { c with phase } else c }

/-- End a call: it lets go of the lock. -/
def leave (id : Nat) (d : Discovery) : Discovery :=
  { d with lock := d.lock.release id, calls := d.calls.filter fun c => c.id ≠ id }

/-- Begin a call. With fixed instances it ends at once. -/
def begin (id : Nat) (purpose : Purpose) (d : Discovery) : Discovery × DiscoveryEffect :=
  if d.locator.isFixed then (d, .ended (.ok d.locator.endpoints) none)
  else
    let phase := match purpose with
      | .direct => CallPhase.entering
      | .afterFailure => CallPhase.looking
    ({ d with lock := d.lock.request id, calls := d.calls ++ [⟨id, purpose, phase⟩] }, .nothing)

/-- See how fresh the list is: a fresh one ends the call, otherwise the call queues up to ask. -/
def look (now : Instant) (id : Nat) (d : Discovery) : Discovery × DiscoveryEffect :=
  if d.locator.isFresh now then (d.leave id, .ended (.ok d.locator.endpoints) none)
  else
    ({ d.setPhase id .entering with lock := (d.lock.release id).request id }, .nothing)

/-- Ask the meta server, if it has an address. -/
def ask (now : Instant) (c : DiscoveryCall) (d : Discovery) : Discovery × DiscoveryEffect :=
  -- The moment counts whether or not an answer comes.
  let d := { d with locator := { d.locator with lastRefresh := some now } }
  match d.locator.address with
  | .ok url => (d.setPhase c.id .asking, .sent url)
  | .error e => (d.leave c.id, .ended (.error e) none)

/-- Take in the answer. -/
def answer (id : Nat) (a : Locator.Answer) (d : Discovery) : Discovery × DiscoveryEffect :=
  let (locator, result, remark) := d.locator.absorb a
  (({ d with locator } : Discovery).leave id, .ended result remark)

/-- **One move**; none if it is not possible. -/
def step? (now : Instant) (d : Discovery) : DiscoveryMove → Option (Discovery × DiscoveryEffect)
  | .call id purpose => if (d.call? id).isSome then none else some (d.begin id purpose)
  | .look id => do
    let c ← d.call? id
    if c.phase = .looking ∧ d.lock.holds id then some (d.look now id) else none
  | .ask id => do
    let c ← d.call? id
    if c.phase = .entering ∧ d.lock.holds id then some (d.ask now c) else none
  | .answer id a => do
    let c ← d.call? id
    if c.phase = .asking then some (d.answer id a) else none
  | .abandon id => some (d.leave id, .nothing)

/-- With fixed instances a call ends at once and changes nothing. -/
theorem begin_of_isFixed (id : Nat) (purpose : Purpose) (d : Discovery)
    (h : d.locator.isFixed = true) :
    d.begin id purpose = (d, .ended (.ok d.locator.endpoints) none) := by
  simp [begin, h]

end Discovery

end LiveConfig
