import LiveConfig.Config.Parts
import LiveConfig.Discovery.Calls
import LiveConfig.Registry
import LiveConfig.Simulation.Activity
import LiveConfig.Simulation.Backend
import LiveConfig.Sync.Machine
import LiveConfig.TokenBucket

/-!
# The simulated world

All parts of a client and of its surroundings in one state, on one clock: the backend, the files,
the namespaces with their machines, and everything that has been shown so far.
-/

namespace LiveConfig.Simulation

/-! ## §1 Listeners with a script -/

/-- How a scripted listener fails. -/
inductive Collapse
  /-- With a fixed text. -/
  | fixedText
  /-- With a text that names it. -/
  | ownText
  /-- With something that is no text. -/
  | noText
deriving DecidableEq, Repr

/-- A listener that does what it was told beforehand. -/
structure Script where
  label : String
  /-- A registration that it removes. -/
  thenUnsubscribe : Option Nat := none
  /-- A listener that it registers. -/
  thenSubscribe : Option String := none
  collapse : Option Collapse := none
  /-- It looks at the cache file of its namespace. -/
  looksAtDisk : Bool := true
deriving DecidableEq, Repr

namespace Script

/-- The text with which a listener fails. -/
def failureText (s : Script) : Collapse → String
  | .fixedText => "static failure"
  | .ownText => "listener " ++ s.label ++ " failed"
  | .noText => "non-string panic payload"

/-- What a scripted listener does. -/
def react (s : Script) (_ : ChangeSet) : Listeners.Reaction Script where
  edits := (s.thenUnsubscribe.map Listeners.Edit.unsubscribe).toList
    ++ (s.thenSubscribe.map fun label =>
        Listeners.Edit.subscribe { label, looksAtDisk := false } {}).toList
  failure := s.collapse.map s.failureText

end Script

/-! ## §2 What has been shown -/

/-- What a listener saw when it was called. -/
structure Call where
  ns : String
  label : String
  changes : ChangeSet
  seenRelease : Option String
  seenSource : Provenance
  diskRelease : Option String

/-- A trigger that was fired. -/
structure Trigger where
  ns : String
  label : String
  messages : Option Messages

/-- Something that was shown at a moment; `ns` is empty for what concerns no namespace. -/
structure Shown (α : Type) where
  moment : Nat
  ns : String
  value : α

/-- In order of time, at one moment in the order of some names, and otherwise as it was. -/
def chronological {α : Type} (moment : α → Nat) (name : α → String) (l : List α) : List α :=
  l.mergeSort fun a b => moment a < moment b || (moment a == moment b && name a ≤ name b)

/-- What was shown, in order of time, and at one moment in the order of the namespaces. -/
def ordered {α : Type} (shown : List (Shown α)) : List (Shown α) :=
  chronological Shown.moment Shown.ns shown

/-! ## §3 The world -/

/-- The names of the activities of a client. -/
inductive Role
  /-- The script of the scenario. -/
  | main
  /-- The worker of the namespace with a number. -/
  | worker (sync : Nat)
  /-- The loop that looks for instances. -/
  | discovery
  /-- The loop of long polls. -/
  | polling
deriving DecidableEq, Repr

/-- The number of a role among those who share locks. -/
def Role.id : Role → Nat
  | .main => 0
  | .discovery => 1
  | .polling => 2
  | .worker sync => sync + 3

/-- The state of everything. -/
structure World where
  now : Nat := 0
  routes : List Route := []
  /-- The reply where none is left; it never comes unless something else is said. -/
  otherwise : Reply := { delivery := .hang }
  sent : List Sent := []
  selector : Selector := .first
  /-- How many choices have been made. -/
  turn : Nat := 0
  discovery : Discovery
  fetchConfig : FetchConfig
  fetchBackoff : BackoffConfig := .fetchRetry
  fetchLimiter : RateLimiter := ⟨none⟩
  pollConfig : PollConfig
  pollLimiter : RateLimiter := ⟨none⟩
  /-- The channel: triggers lead to the namespaces with a number, or to a label. -/
  channel : Channel (Nat ⊕ String) := {}
  setting : SyncSetting := {}
  pool : Permits := { capacity := 8 }
  registry : Registry := {}
  machines : List (Nat × SyncMachine Script) := []
  files : Files := {}
  cancelled : Bool := false
  started : List Role := []
  /-- The activities that are under way or were. -/
  alive : List (Role × Bool) := []
  aborted : List Role := []
  /-- The activities that a cancellation takes away at once. -/
  interruptible : List Role := []
  observed : List (Shown Observed) := []
  logs : List (Shown LogLine) := []
  calls : List (Shown Call) := []
  triggers : List (Shown Trigger) := []
  counters : Counters := {}

namespace World

/-- The world of a client that has just been set up. -/
def ofConfig (c : SyncConfig) : World where
  discovery := { locator := .ofConfig c.locator }
  fetchConfig := c.fetch
  fetchBackoff := c.fetchBackoff
  fetchLimiter := .ofRate c.fetchRate 0
  pollConfig := c.poll
  pollLimiter := .ofRate c.pollRate 0
  setting := c.sync none
  pool := { capacity := c.poolSize }

/-- Now, in nanoseconds. -/
def instant (w : World) : Instant := w.now * 1000000

/-! ## §4 Showing -/

/-- Write a line to the log. -/
def log (ns : String) (line : LogLine) (w : World) : World :=
  { w with logs := w.logs ++ [⟨w.now, ns, line⟩] }

/-- The namespace that an event is about, if it is about one. -/
def namespaceOf : Observed → String
  | .refreshSuccess ns _ | .refreshError ns _ | .notFound ns | .localFallback ns
  | .fallbackExpired ns | .notification ns _ | .staleNotification ns _ | .listenerPanic ns => ns
  | .longPollError _ => ""

/-- Let the observers see an event. -/
def observe (e : Observed) (w : World) : World :=
  { w with observed := w.observed ++ [⟨w.now, namespaceOf e, e⟩], counters := w.counters.count e }

/-- The release in the cache file of a namespace. -/
def diskRelease? (ns : String) (w : World) : Option String :=
  (w.setting.cache.bind fun c => c.load w.files ns).bind fun s => s.release

/-- Show an event of a namespace. -/
def show_ (ns : String) (w : World) : SyncEvent Script → World
  | .observed e => w.observe e
  | .logged line => w.log ns line
  | .called recipient changes shown _ =>
    let call : Call :=
      { ns := changes.ns
        label := recipient.listener.label
        changes
        seenRelease := shown.release
        seenSource := shown.source
        diskRelease := if recipient.listener.looksAtDisk then w.diskRelease? ns else none }
    { w with calls := w.calls ++ [⟨w.now, changes.ns, call⟩] }
  | .ended .. => w

/-! ## §5 Parts -/

/-- The machine of a namespace. -/
def machine? (sync : Nat) (w : World) : Option (SyncMachine Script) := w.machines.lookup sync

/-- Put a machine back. -/
def setMachine (sync : Nat) (m : SyncMachine Script) (w : World) : World :=
  { w with machines := w.machines.map fun p => if p.1 = sync then (sync, m) else p }

/-- What surrounds the namespaces. -/
def frame (w : World) : SyncFrame Script := ⟨w.setting, Script.react⟩

/-- Move a namespace, if it can make the move: how its refresh ended, if it did. -/
def move (sync : Nat) (m : SyncMove Script) (w : World) : Option RefreshOutcome × World :=
  match w.machine? sync with
  | none => (none, w)
  | some machine =>
    match machine.step? w.frame w.instant w.files m with
    | none => (none, w)
    | some (machine, files, events) =>
      let w := { w with files }.setMachine sync machine
      (events.findSome? fun
          | .ended _ outcome => some outcome
          | _ => none,
        events.foldl (show_ machine.sync.ns) w)

/-- Move the locator, if it can make the move. -/
def discover (m : DiscoveryMove) (w : World) : DiscoveryEffect × World :=
  match w.discovery.step? w.instant m with
  | none => (.nothing, w)
  | some (discovery, effect) =>
    let w := { w with discovery }
    match effect with
    | .ended _ (some remark) => (effect, w.log "" (.warning remark.message []))
    | _ => (effect, w)

/-- Pick an endpoint. -/
def pick (tried : List String) (w : World) : Option Endpoint × World :=
  (w.selector.pick w.turn tried w.discovery.locator.endpoints, { w with turn := w.turn + 1 })

/-- A notification reaches a namespace: it leaves its messages and asks for a refresh. -/
def trigger (sync : Nat) (messages : Option Messages) (w : World) : World :=
  let (_, w) := w.move sync (.announce messages)
  (w.move sync .request).2

/-- Fire a trigger. -/
def fire (f : Fired (Nat ⊕ String)) (w : World) : World :=
  match f.trigger with
  | .inl sync => w.trigger sync f.messages
  | .inr label => { w with triggers := w.triggers ++ [⟨w.now, f.ns, ⟨f.ns, label, f.messages⟩⟩] }

/-- Take in notifications: how many triggers were fired. -/
def dispatch (ns : List Notification) (w : World) : Nat × World :=
  let (channel, fired, heard) := w.channel.dispatch ns
  let w := { w with channel }
  let w := (heard.filterMap Channel.Heard.event?).foldl (fun w e => w.observe e) w
  (fired.length, fired.foldl (fun w f => w.fire f) w)

/-- Start an activity. -/
def start (role : Role) (w : World) : World :=
  { w with
    started := w.started ++ [role]
    alive := w.alive.filter (·.1 ≠ role) ++ [(role, true)] }

/-- An activity has ended. -/
def ended (role : Role) (w : World) : World :=
  { w with alive := w.alive.map fun p => if p.1 = role then (role, false) else p }

/-- Whether an activity is under way; none if it was never started. -/
def running? (role : Role) (w : World) : Option Bool := w.alive.lookup role

/-- Take an activity away, with everything that it holds. -/
def drop (role : Role) (w : World) : World :=
  let w := (w.discover (.abandon role.id)).2
  let w := { w with pool := w.pool.release role.id }
  let w := match role with
    | .worker sync => (w.move sync (.abandon workerId)).2
    | _ => w
  { w.ended role with
    aborted := w.aborted.filter (· ≠ role)
    interruptible := w.interruptible.filter (· ≠ role) }

/-- What happens in the registry on behalf of a namespace. -/
def enact (w : World) : RegistryEffect → World
  | .made ns sync =>
    let (machine, events) := SyncMachine.start w.setting w.files ns w.instant
    events.foldl (show_ ns) { w with machines := w.machines ++ [(sync, machine)] }
  | .announced ns sync => { w with channel := w.channel.subscribe ns (.inl sync) }
  | .staffed _ sync =>
    let w := if w.cancelled then (w.move sync .cancel).2 else w
    w.start (.worker sync)
  | _ => w

/-- The namespace of a name, which is set up if need be. -/
def obtain (given : String) (w : World) : Except Namespace.InvalidName (String × Nat) × World :=
  let (registry, effects) := w.registry.obtain 0 given
  let w := effects.foldl enact { w with registry }
  let result := effects.findSome? fun
    | .found ns sync => some (Except.ok (ns, sync))
    | .rejected e => some (Except.error e)
    | _ => none
  (result.getD (.error ⟨given, .empty⟩), w)

/-- Cancel everything. -/
def cancel (w : World) : World :=
  w.machines.foldl (fun w p => (w.move p.1 .cancel).2) { w with cancelled := true }

end World

end LiveConfig.Simulation
