import LiveConfig.Scenario.Disk
import LiveConfig.Scenario.Notices
import LiveConfig.Status

/-!
# Scenarios of a whole client

A client is set up from its configuration, used step by step, and shut down. A millisecond passes
after each step before anything is seen.

## Shutdown

A shutdown cancels everything and gives the activities a grace period to end. What has not ended
then is taken away.

## Main statements

- `setUp_refused`: a client that may not introduce itself as it wants to is not set up.
-/

namespace LiveConfig

/-! ## §1 Errors -/

/-- Why a client cannot be set up. -/
inductive ClientError
  /-- Nothing runs activities. -/
  | noRuntime
  | http (e : Http.CallError)
  | overflow (e : Duration.SumError)
  /-- More refreshes would be allowed at a time than there can be permits. -/
  | tooManyPermits
deriving DecidableEq

/-- What is said about an error. -/
def ClientError.message : ClientError → String
  | .noRuntime => "no tokio runtime available to run background tasks"
  | .http e => "http client error: " ++ e.message
  | .overflow e => e.message
  | .tooManyPermits =>
    "a semaphore may not have more than MAX_PERMITS permits ("
      ++ Number.decimalText Permits.most ++ ")"

end LiveConfig

namespace LiveConfig.Simulation.World

/-! ## §2 Setting up -/

/-- The report of a cache that could not be opened. -/
def cacheLine : LogLine :=
  .warning "config-sync local cache unavailable; running without disk fallback" []

/-- A world with the cache of a client, if it can be opened. -/
def openCache (c : SyncConfig) (w : World) : World :=
  let (files, opened) := CacheStore.openAt w.files Scenario.cacheRoot c.appId c.cluster
  let w := { w with files }
  match opened with
  | .ok cache => { w with setting := c.sync (some cache) }
  | .error _ => w.log "" cacheLine

/-- **Set a client up** in a world with some files: the world, and the corrected configuration. -/
def setUp (given : SyncConfig) (agent : String) (files : Files) :
    Except ClientError (World × SyncConfig) :=
  match given.sanitise with
  | .error e => .error (.overflow e)
  | .ok (c, warnings) =>
    match Http.agentError? agent with
    | some e => .error (.http e)
    | none =>
      if Permits.most < c.poolSize then .error .tooManyPermits
      else
        let w := warnings.foldl (fun w warning => w.log "" (.warning warning.message []))
          { ofConfig c with files }
        .ok (w.openCache c, c)

/-- A client that may not introduce itself as it wants to is not set up. -/
theorem setUp_refused (given : SyncConfig) (agent : String) (files : Files) (e : Http.CallError)
    (h : Http.agentError? agent = some e) : ∃ e, setUp given agent files = .error e := by
  unfold setUp
  split
  · exact ⟨_, rfl⟩
  · rw [h]
    exact ⟨_, rfl⟩

/-! ## §3 Looking -/

/-- The calls of listeners since they were last taken out. -/
def takeCalls (w : World) : List (Shown Call) × World := (ordered w.calls, { w with calls := [] })

/-- The state of the namespace with a number. -/
def sync? (sync : Nat) (w : World) : Option (Sync Script) :=
  (w.machine? sync).map SyncMachine.sync

/-- The report on a namespace. -/
def statusOf? (w : World) (p : String × Nat) : Option NamespaceStatus :=
  (w.sync? p.2).map fun s => s.status p.1 (w.channel.id? p.1) w.instant

/-- The registered names, in order. -/
def names (w : World) : List String := w.registry.names.mergeSort fun a b => a ≤ b

/-- The report on the client. -/
def status (w : World) : Json :=
  NamespaceStatus.report w.fetchConfig.appId w.fetchConfig.cluster
    (w.registry.entries.filterMap w.statusOf?)

/-- The client in one line. -/
def text (w : World) : String :=
  "ConfigContext \x7b app_id: " ++ Text.quoted w.fetchConfig.appId ++ ", cluster: "
    ++ Text.quoted w.fetchConfig.cluster ++ ", namespaces: " ++ Text.quotedList w.names ++ " \x7d"

end LiveConfig.Simulation.World

namespace LiveConfig.Scenario

open Simulation

/-! ## §4 Steps -/

/-- A step of a session. -/
inductive SessionStep
  | snapshot (ns : String)
  /-- Wait for the first refresh, and look then. -/
  | load (ns : String)
  | view (ns : String) (q : ViewQuery)
  | subscribe (ns : String) (listener : Script) (filter : ListenerFilter)
  /-- Remove the listener that was registered last under a label. -/
  | unsubscribe (label : String)
  | refresh (ns : String)
  | requestRefresh (ns : String) (times : Nat)
  | trigger (ns : String) (messages : Option Messages)
  | dispatch (notifications : List Notification)
  | initialized (ns : String)
  | notificationId (ns : String)
  | namespaces
  | endpoints
  | config
  | counters
  | status
  | start
  | shutdown
  | wait (millis : Nat)
  | files
  | writeFile (path text : String)
  | makeDirectory (path : String)
  | describe (ns : String)

/-- What a step gives. -/
inductive SessionResult
  | nothing
  | rejected (e : Namespace.InvalidName)
  | snapshot (s : Snapshot)
  | view (a : ViewAnswer)
  | subscribed (ns : String) (id : Nat)
  | unsubscribed (found : Option Bool)
  | refreshed (outcome : RefreshOutcome)
  /-- So many triggers were fired. -/
  | fired (count : Nat)
  | initialized (ns : String) (done : Bool) (failures : Nat) (shownNs : String)
  | notificationId (id : Option Int)
  | names (list : List String)
  | endpoints (list : List Endpoint)
  | config (c : SyncConfig)
  | counters (c : Counters)
  | status (report : Json)
  | truth (b : Bool)
  | files (list : List (String × Option String))
  | texts (client : String) (handle sync : Option String)

/-- What a session remembers between its steps. -/
structure SessionState where
  config : SyncConfig
  /-- The listeners that were registered, by label, the latest first. -/
  handles : List (String × String × Nat) := []
  /-- The background loops have been started and not been shut down. -/
  started : Bool := false
  /-- How many workers an earlier shutdown has waited for. -/
  joined : Nat := 0

/-- Do something with the namespace of a name, unless the name is rejected. -/
def withNamespace (given : String) (act : String → Nat → Client SessionResult) :
    Client SessionResult := do
  match ← Activity.update (World.obtain given) with
  | .ok (ns, sync) => act ns sync
  | .error e => pure (.rejected e)

/-- Do something with the state of the namespace of a name. -/
def withState (given : String) (look : World → Sync Script → SessionResult) :
    Client SessionResult :=
  withNamespace given fun _ sync =>
    Activity.look fun w => ((w.sync? sync).map (look w)).getD .nothing

/-- Wait for an activity until a moment: whether it had to be taken away. -/
def join (deadline : Nat) (role : Role) : Client Bool := do
  .await (some deadline) (fun w => w.running? role ≠ some true) (pure ())
  let straggles ← Activity.look fun w => w.running? role == some true
  if straggles then
    Activity.change fun w => { w with aborted := w.aborted ++ [role] }
  pure straggles

/-- The report of activities that had to be taken away. -/
def abortLine (aborted : Nat) : LogLine :=
  .warning "config-sync shutdown grace period elapsed; aborted remaining tasks"
    [("aborted", Number.decimalText aborted)]

/-- **Shut the client down.** -/
def shutDown (s : SessionState) : Client SessionState := do
  Activity.change World.cancel
  let staffed ← Activity.look fun w => w.registry.staffed
  let deadline ← Client.momentAfter s.config.shutdownGrace
  let roles := [Role.discovery, .polling] ++ (staffed.drop s.joined).map Role.worker
  let straggled ← Activity.forEach roles (join ((deadline + 999999) / 1000000))
  let aborted := straggled.count true
  if 0 < aborted then Activity.change (World.log "" (abortLine aborted))
  pure { s with started := false, joined := staffed.length }

/-- Register a listener: its number, if there is such a namespace. -/
def register (sync : Nat) (listener : Script) (filter : ListenerFilter) : Client (Option Nat) :=
  Activity.update fun w =>
    ((w.sync? sync).map fun s => (s.view.subscribe listener filter).1,
      (w.move sync (.subscribe listener filter)).2)

/-- Remove a listener of a registered namespace: whether it was there. -/
def unregister (ns : String) (id : Nat) : Client Bool :=
  Activity.update fun w =>
    match (w.registry.find? ns).bind fun sync => (w.sync? sync).map (sync, ·) with
    | some (sync, s) => ((s.view.unsubscribe id).1, (w.move sync (.unsubscribe id)).2)
    | none => (false, w)

/-- Ask the worker of a namespace for refreshes. -/
def request (sync : Nat) : Nat → Client Unit
  | 0 => pure ()
  | times + 1 => do
    Activity.change fun w => (w.move sync .request).2
    request sync times

/-- The namespace in one line. -/
def syncText (ns : String) (s : Sync Script) : String :=
  "NamespaceSync \x7b namespace: " ++ Text.quoted ns ++ ", view: " ++ s.view.text ++ " \x7d"

/-- The handle on the background loops in one line. -/
def handleText : String := "SyncHandle \x7b join_handles: 2 \x7d"

/-- Do what a step that remembers nothing says. -/
def SessionStep.act (state : SessionState) : SessionStep → Client SessionResult
  | .snapshot ns => withState ns fun _ s => .snapshot s.view.snapshot
  | .load ns => withNamespace ns fun _ sync => do
    Activity.waitFor fun w => ((w.machine? sync).map SyncMachine.initialized).getD true
    Activity.look fun w => ((w.sync? sync).map fun s => .snapshot s.view.snapshot).getD .nothing
  | .view ns q => withNamespace ns fun ns sync =>
    Activity.update fun w =>
      match w.sync? sync with
      | some s =>
        (.view (s.view.answer q), ((s.view.report? q).map fun line => w.log ns line).getD w)
      | none => (.nothing, w)
  | .refresh ns => withNamespace ns fun _ sync => do
    pure (.refreshed (← Client.refreshNow sync))
  | .requestRefresh ns times => withNamespace ns fun _ sync => do
    request sync times
    pure .nothing
  | .trigger ns messages => withNamespace ns fun _ sync => do
    Activity.change (World.trigger sync messages)
    pure .nothing
  | .dispatch notifications => do
    pure (.fired (← Activity.update (World.dispatch notifications)))
  | .initialized ns => withNamespace ns fun ns sync =>
    Activity.look fun w => ((w.machine? sync).map fun m =>
      .initialized ns m.initialized m.sync.health.failures m.sync.view.ns).getD .nothing
  | .notificationId ns => Activity.look fun w => .notificationId (w.channel.id? ns)
  | .namespaces => Activity.look fun w => .names w.names
  | .endpoints => Activity.look fun w => .endpoints w.discovery.locator.endpoints
  | .config => pure (.config state.config)
  | .counters => Activity.look fun w => .counters w.counters
  | .status => Activity.look fun w => .status w.status
  | .wait millis => do
    Client.pauseMillis millis
    pure .nothing
  | .files => Activity.look fun w => .files (w.files.listing cacheRoot)
  | .writeFile path text => do
    Activity.change fun w => { w with files := orKeep w.files (w.files.write cacheRoot path text) }
    pure .nothing
  | .makeDirectory path => do
    Activity.change fun w => { w with files := (w.files.makeDirectory cacheRoot path).1 }
    pure .nothing
  | .describe ns => do
    let obtained ← Activity.update (World.obtain ns)
    Activity.look fun w =>
      let sync := match obtained with
        | .ok (ns, sync) => (w.sync? sync).map (syncText ns)
        | .error _ => none
      .texts w.text (if state.started then some handleText else none) sync
  | .subscribe .. | .unsubscribe _ | .start | .shutdown => pure .nothing

/-- Do what a step says. -/
def SessionStep.advance (state : SessionState) : SessionStep → Client (SessionResult × SessionState)
  | .subscribe given listener filter => do
    match ← Activity.update (World.obtain given) with
    | .error e => pure (.rejected e, state)
    | .ok (ns, sync) =>
      match ← register sync listener filter with
      | none => pure (.nothing, state)
      | some id =>
        pure (.subscribed ns id,
          { state with handles := (listener.label, ns, id) :: state.handles })
  | .unsubscribe label =>
    match state.handles.lookup label with
    | none => pure (.unsubscribed none, state)
    | some (ns, id) => do
      let found ← unregister ns id
      pure (.unsubscribed (some found), state)
  | .start => do
    Activity.change fun w => (w.start .discovery).start .polling
    pure (.truth true, { state with started := true })
  | .shutdown => do
    let state ← if state.started then shutDown state else pure state
    let cancelled ← Activity.look World.cancelled
    pure (.truth cancelled, state)
  | step => do
    let result ← step.act state
    pure (result, state)

/-! ## §5 Sessions -/

/-- What is seen after a step. -/
structure SessionReport where
  result : SessionResult
  moment : Nat
  requests : List Sent
  observed : List (Shown Observed)
  calls : List (Shown Call)
  logs : List (Shown LogLine)

/-- What is seen now, after a step with a result. -/
def World.report (result : SessionResult) (w : World) : SessionReport × World :=
  let (requests, w) := w.requests
  let (observed, w) := w.takeObserved
  let (calls, w) := w.takeCalls
  let (logs, w) := w.takeLogs
  ({ result, moment := w.now, requests, observed, calls, logs }, w)

/-- The steps of a session one after the other. -/
def sessionReports : SessionState → List SessionStep → Client (List SessionReport)
  | _, [] => pure []
  | state, step :: rest => do
    let (result, state) ← step.advance state
    breathe
    let report ← Activity.update (World.report result)
    let reports ← sessionReports state rest
    pure (report :: reports)

/-- What a session shows: what was logged while the client was set up, what is seen after each step,
and the counters at the end. -/
structure SessionOutcome where
  setupLogs : List (Shown LogLine)
  reports : List SessionReport
  counters : Counters

/-- **A session with a client.** -/
def session (config : SyncConfig) (steps : List SessionStep) : Client SessionOutcome := do
  let setupLogs ← Activity.update World.takeLogs
  let reports ← sessionReports { config } steps
  let counters ← Activity.look World.counters
  pure ⟨setupLogs, reports, counters⟩

end LiveConfig.Scenario
