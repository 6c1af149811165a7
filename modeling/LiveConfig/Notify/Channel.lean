import LiveConfig.Backoff
import LiveConfig.Http.Error
import LiveConfig.Notify.Notification
import LiveConfig.Telemetry
import LiveConfig.Text.Quoted

/-!
# The notification channel

One long poll serves all namespaces. For each of them the channel remembers the latest notification,
and a newer one fires the trigger of the namespace.

## Main statements

- `stale_dispatchOne`: a notification that is not newer changes nothing and fires nothing.
- `id?_subscribe`: a repeated subscription keeps the latest notification.
-/

namespace LiveConfig

/-- The parameters of long polls. -/
structure PollConfig where
  appId : String
  cluster : String
  dataCenter : Option String := none
  clientIp : Option String := none
  timeout : Duration := .ofSecs 90
  backoff : BackoffConfig := .longPoll

/-- What is remembered of a namespace. -/
structure Subscription (T : Type) where
  /-- The number of its latest notification. -/
  id : Int := Notification.initialId
  /-- What notifications have announced so far. -/
  messages : Option Messages := none
  /-- What a newer notification sets off. -/
  trigger : T
deriving DecidableEq, Repr

/-- The channel: what is remembered, by namespace in the order of the names. -/
structure Channel (T : Type) where
  subscriptions : List (String × Subscription T) := []
  /-- A subscription has come in since the poll loop last waited for one. -/
  signalled : Bool := false
  ordered : Sorted.Ordered subscriptions := by exact Sorted.ordered_nil
deriving DecidableEq, Repr

/-- A trigger that has been fired, with all that was announced for its namespace. -/
structure Fired (T : Type) where
  ns : String
  trigger : T
  messages : Option Messages
deriving DecidableEq, Repr

namespace Channel

variable {T : Type}

/-! ## §1 Subscriptions -/

/-- What is remembered of a namespace. -/
def get? (ns : String) (c : Channel T) : Option (Subscription T) := c.subscriptions.lookup ns

/-- The latest notification of a namespace. -/
def id? (ns : String) (c : Channel T) : Option Int := (c.get? ns).map Subscription.id

/-- The subscribed namespaces, in order. -/
def names (c : Channel T) : List String := c.subscriptions.map Prod.fst

/-- **Subscribe a namespace.** A repeated subscription changes nothing but the trigger. -/
def subscribe (ns : String) (trigger : T) (c : Channel T) : Channel T :=
  let subscription : Subscription T := match c.get? ns with
    | some old => { old with trigger }
    | none => { trigger }
  { subscriptions := Sorted.insert ns subscription c.subscriptions
    signalled := true
    ordered := Sorted.ordered_insert ns subscription _ c.ordered }

/-- A repeated subscription keeps the latest notification. -/
theorem id?_subscribe (ns : String) (trigger : T) (c : Channel T) :
    (c.subscribe ns trigger).id? ns = some ((c.id? ns).getD Notification.initialId) := by
  simp only [id?, get?, subscribe, Sorted.lookup_insert, if_true, Option.map_some]
  cases c.subscriptions.lookup ns <;> rfl

/-! ## §2 Notifications -/

/-- What taking in a notification shows. -/
inductive Heard
  | unknown
  | stale (ns : String) (id : Int)
  | newer (ns : String) (id : Int)
deriving DecidableEq, Repr

/-- Messages that have been announced, with those of one more notification. -/
def announced (old new : Option Messages) : Option Messages :=
  match new with
  | none => old
  | some m => Messages.mergeInto old m

/-- **Take in one notification**: only a newer one counts. -/
def dispatchOne (n : Notification) (c : Channel T) : Channel T × Option (Fired T) × Heard :=
  match c.get? n.ns with
  | none => (c, none, .unknown)
  | some s =>
    if n.id ≤ s.id then (c, none, .stale n.ns n.id)
    else
      let s := { s with id := n.id, messages := announced s.messages n.messages }
      ({ c with
          subscriptions := Sorted.insert n.ns s c.subscriptions
          ordered := Sorted.ordered_insert n.ns s _ c.ordered },
        some ⟨n.ns, s.trigger, s.messages⟩, .newer n.ns n.id)

/-- Take in notifications one after the other: the channel, the triggers that are fired then, and
what was heard. -/
def dispatch (ns : List Notification) (c : Channel T) : Channel T × List (Fired T) × List Heard :=
  ns.foldl
    (fun acc n =>
      let (c, fired, heard) := acc.1.dispatchOne n
      (c, acc.2.1 ++ fired.toList, acc.2.2 ++ [heard]))
    (c, [], [])

/-- A notification that is not newer changes nothing and fires nothing. -/
theorem stale_dispatchOne (n : Notification) (c : Channel T) (s : Subscription T)
    (hs : c.get? n.ns = some s) (h : n.id ≤ s.id) :
    c.dispatchOne n = (c, none, .stale n.ns n.id) := by
  simp [dispatchOne, hs, h]

/-- The event that an observer sees, if any. -/
def Heard.event? {F P : Type} : Heard → Option (TelemetryEvent F P)
  | .unknown => none
  | .stale ns id => some (.staleNotification ns id)
  | .newer ns id => some (.notification ns id)

/-! ## §3 Polls -/

/-- What a poll says about the subscribed namespaces; nothing if there are none. -/
def stateText? (c : Channel T) : Option String :=
  if c.subscriptions.isEmpty then none
  else some (Json.compactText (Notification.listToJson
    (c.subscriptions.map fun p => { ns := p.1, id := p.2.id })))

/-- The address of a poll at an instance. -/
def address (config : PollConfig) (base state : String) : Except Http.CallError Url := do
  let u ← Http.address base ["notifications", "v2"]
  let given (name : String) (value : Option String) := (value.map fun v => (name, v)).toList
  pure (u.withPairs ([("appId", config.appId), ("cluster", config.cluster),
      ("notifications", state)]
    ++ given "dataCenter" config.dataCenter ++ given "ip" config.clientIp))

/-- What the answer to a poll says; nothing if the server held it to the end. -/
def pollResult (a : Except Http.CallError (Http.Outcome (List Notification))) :
    Except Http.CallError (Option (List Notification)) :=
  match a with
  | .ok (.body list) => .ok (some list)
  | .ok .notModified => .ok none
  | .ok .notFound => .error (.client 404)
  | .error e => .error e

end Channel

end LiveConfig
