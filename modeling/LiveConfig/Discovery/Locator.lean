import LiveConfig.Discovery.Endpoint
import LiveConfig.Health
import LiveConfig.Http.Error

/-!
# The locator

What is known of the instances of the service, and what an answer of the meta server changes about
it: only a readable list replaces the known one.

## Main statements

- `endpoints_absorb`: the list after an answer is the body of the answer, or the list before.
-/

namespace LiveConfig

/-- The parameters of discovery. -/
structure LocatorConfig where
  /-- Where the instances are listed. -/
  metaServer : String
  appId : String
  clientIp : Option String := none
  /-- Fixed addresses; with any of them nothing is discovered. -/
  fixed : List String := []
  refreshInterval : Duration := .ofSecs 300
  timeout : Duration := .ofSecs 1
deriving DecidableEq

/-- The instances that are known. -/
structure Locator where
  config : LocatorConfig
  endpoints : List Endpoint
  /-- When discovery last began. -/
  lastRefresh : Option Instant := none
deriving DecidableEq

namespace Locator

/-- The locator before any discovery. -/
def ofConfig (c : LocatorConfig) : Locator := { config := c, endpoints := Endpoint.fixed c.fixed }

/-- Whether the instances are fixed. -/
def isFixed (l : Locator) : Bool := !l.config.fixed.isEmpty

/-- The address that is asked for the instances. -/
def address (l : Locator) : Except Http.CallError Url := do
  let u ← Http.address l.config.metaServer ["services", "config"]
  pure (u.withPairs ([("appId", l.config.appId)]
    ++ (l.config.clientIp.map fun ip => ("ip", ip)).toList))

/-- An answer to the question for the instances. -/
abbrev Answer := Except Http.CallError (Http.Outcome (List Endpoint))

/-- What is said about an answer. -/
inductive Remark
  | cleared
  | missing
  | failed
deriving DecidableEq, Repr

/-- The words of a remark. -/
def Remark.message : Remark → String
  | .cleared => "config-sync discovery returned no instances; clearing endpoint list"
  | .missing => "config-sync discovery endpoint missing; keeping previous instances"
  | .failed => "config-sync discovery failed; keeping previous instances"

/-- **Take in an answer**: the locator afterwards, what the caller gets, and what is said. -/
def absorb (l : Locator) (a : Answer) :
    Locator × Except Http.CallError (List Endpoint) × Option Remark :=
  match a with
  | .ok (.body list) =>
    ({ l with endpoints := list }, .ok list,
      if list.isEmpty && !l.endpoints.isEmpty then some .cleared else none)
  | .ok .notModified => (l, .ok l.endpoints, none)
  | .ok .notFound => (l, .error (.client 404), some .missing)
  | .error e => (l, .error e, some .failed)

/-- The list after an answer is the body of the answer, or the list before. -/
theorem endpoints_absorb (l : Locator) (a : Answer) :
    (l.absorb a).1.endpoints = match a with
      | .ok (.body list) => list
      | _ => l.endpoints := by
  unfold absorb
  split <;> rfl

/-- How long after a discovery a failure does not cause another one. -/
def spacing : Duration := .ofSecs 1

/-- Whether a discovery began very recently. -/
def isFresh (l : Locator) (now : Instant) : Bool :=
  match l.lastRefresh with
  | some moment => now - moment < spacing.nanos
  | none => false

end Locator

end LiveConfig
