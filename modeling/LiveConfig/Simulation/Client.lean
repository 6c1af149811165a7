import LiveConfig.Simulation.World

/-!
# The client in the simulated world

What the parts of a client do over time: calls over the network, fetches that rotate over the
instances, discovery, the long poll, and the workers of the namespaces.
-/

namespace LiveConfig.Simulation

/-- An activity of the client. -/
abbrev Client (α : Type) := Activity World α

namespace Client

/-- The most rounds of a loop. -/
def rounds : Nat := 1000000

/-- Pause. -/
def pause (d : Duration) : Client Unit := do
  if d.isZero then pure ()
  else
    let now ← Activity.look World.now
    Activity.waitUntil (now + Duration.pause d.ceilMillis)

/-- Pause for milliseconds. -/
def pauseMillis (ms : Nat) : Client Unit := do
  if ms = 0 then pure ()
  else
    let now ← Activity.look World.now
    Activity.waitUntil (now + Duration.pause ms)

/-- The moment so long from now. Who asks for one that no clock reaches goes no further. -/
def momentAfter (d : Duration) : Client Instant := do
  let now ← Activity.look World.instant
  match Duration.after now d with
  | .ok moment => pure moment
  | .error e => .fail e.message

/-! ## §1 Calls -/

/-- How often a call follows a reply elsewhere. -/
def maxRedirects : Nat := 10

/-- Wait for the moment at which a call gives up. -/
def giveUp {α : Type} (deadline : Nat) (limit : Duration) : Client (Except Http.CallError α) := do
  Activity.waitUntil deadline
  pure (.error (.timeout limit))

/-- What a complete or broken body is read as. -/
def readBody {α : Type} (read? : String → Option α) (deadline : Nat) (limit : Duration)
    (r : Reply) : Client (Except Http.CallError (Http.Outcome α)) :=
  match r.delivery with
  | .cut => pure (.error .transport)
  | .stall => giveUp deadline limit
  | _ => pure (match r.body.bind read? with
      | some a => .ok (.body a)
      | none => .error .decode)

/-- What a reply is read as: its body only if the status is one of success. -/
def readReply {α : Type} (read? : String → Option α) (deadline : Nat) (limit : Duration)
    (r : Reply) : Client (Except Http.CallError (Http.Outcome α)) :=
  match Http.classify r.status with
  | .ok .success => readBody read? deadline limit r
  | .ok .notModified => pure (.ok .notModified)
  | .ok .notFound => pure (.ok .notFound)
  | .error e => pure (.error e)

/-- Send a request: it takes a reply, and arrives if a connection comes about. -/
def send (u : Url) : Client Reply :=
  Activity.update fun w =>
    let u := plain u
    let (scripted, routes) := Route.take u.textToPath w.routes
    let reply := scripted.getD w.otherwise
    let arrived : List Sent :=
      if reply.delivery = .refused then [] else [⟨w.now, u.textToPath, u.textToQuery⟩]
    (reply, { w with routes, sent := w.sent ++ arrived })

/-- Send a request and take in the reply. Where it leads elsewhere, `follow` says what comes of
it. -/
def exchange {α : Type} (read? : String → Option α) (deadline : Nat) (limit : Duration)
    (follow : Reply → String → Client (Except Http.CallError (Http.Outcome α))) (u : Url) :
    Client (Except Http.CallError (Http.Outcome α)) := do
  if u.scheme ≠ "http" then pure (.error .transport)
  else
    let reply ← send u
    if reply.delivery = .refused then pure (.error .transport)
    else if reply.delivery = .hang then giveUp deadline limit
    else
      let now ← Activity.look World.now
      -- An answer at the deadline comes too late; one without delay never does.
      if deadline ≤ now + reply.delay ∧ 0 < reply.delay then giveUp deadline limit
      else
        pauseMillis reply.delay
        if reply.delivery = .reset then pure (.error .transport)
        else
          match reply.location? with
          | none => readReply read? deadline limit reply
          | some location => follow reply location

/-- Ask an address and follow where it leads, at most so many times. -/
def ask {α : Type} (read? : String → Option α) (deadline : Nat) (limit : Duration) :
    Nat → Url → Client (Except Http.CallError (Http.Outcome α))
  | 0, u => exchange read? deadline limit (fun _ _ => pure (.error .transport)) u
  | hops + 1, u =>
    let follow (reply : Reply) (location : String) :=
      match Url.read? (locationFrom u location) with
      | .ok u => ask read? deadline limit hops u
      -- A place that is no address leads nowhere, and the reply itself counts.
      | .error _ => readReply read? deadline limit reply
    exchange read? deadline limit follow u

/-- **Ask an address for a document.** An address of a foreign scheme is refused at once. Without
any time for the call nothing is sent at all. -/
def get {α : Type} (read? : String → Option α) (u : Url) (limit : Duration) :
    Client (Except Http.CallError (Http.Outcome α)) := do
  let now ← Activity.look World.now
  if u.scheme ≠ "http" ∧ u.scheme ≠ "https" then pure (.error .transport)
  else if limit.isZero then pure (.error (.timeout limit))
  else ask read? (now + limit.ceilMillis) limit maxRedirects u

/-! ## §2 Limits -/

/-- Take a token of a limiter, waiting for it if need be. -/
def acquire (reserve : World → Option Duration × World) : Client Unit :=
  Activity.loop rounds do
    match ← Activity.update reserve with
    | none => pure true
    | some wait => do
      pause wait
      pure false

/-- Take a token for a fetch. -/
def reserveFetch (w : World) : Option Duration × World :=
  let (fetchLimiter, wait) := w.fetchLimiter.reserve w.instant
  (wait, { w with fetchLimiter })

/-- Take a token for a poll. -/
def reservePoll (w : World) : Option Duration × World :=
  let (pollLimiter, wait) := w.pollLimiter.reserve w.instant
  (wait, { w with pollLimiter })

/-! ## §3 Discovery -/

/-- Ask the meta server on behalf of a role, once it holds the lock. -/
def discoverNow (role : Role) : Client (Except Http.CallError (List Endpoint)) := do
  Activity.waitFor fun w => w.discovery.lock.holds role.id
  match ← Activity.update (World.discover (.ask role.id)) with
  | .ended result _ => pure result
  | .nothing => pure (.ok [])
  | .sent url => do
    let limit ← Activity.look fun w => w.discovery.locator.config.timeout
    let answer ← get Endpoint.readList? url limit
    match ← Activity.update (World.discover (.answer role.id answer)) with
    | .ended result _ => pure result
    | _ => pure (.ok [])

/-- Look for instances. -/
def refresh (role : Role) : Client (Except Http.CallError (List Endpoint)) := do
  match ← Activity.update (World.discover (.call role.id .direct)) with
  | .ended result _ => pure result
  | _ => discoverNow role

/-- Look for instances after a failure, unless that was done a moment ago. -/
def refreshOnFailure (role : Role) : Client Unit := do
  match ← Activity.update (World.discover (.call role.id .afterFailure)) with
  | .ended .. => pure ()
  | _ =>
    Activity.waitFor fun w => w.discovery.lock.holds role.id
    match ← Activity.update (World.discover (.look role.id)) with
    | .ended .. => pure ()
    -- The lock was let go in between, so others may have asked by now; this caller asks all the
    -- same.
    | _ =>
      let _ ← discoverNow role
      pure ()

/-- Pick an endpoint, after a look for instances if none is known. -/
def pickOrDiscover (role : Role) (tried : List String) : Client (Option Endpoint) := do
  let unknown ← Activity.look fun w => w.discovery.locator.endpoints.isEmpty
  if unknown then
    let _ ← refresh role
  Activity.update (World.pick tried)

/-! ## §4 Fetches -/

/-- Fetch a namespace from an instance. -/
def fetch (base ns : String) (release : Option String) (messages : Option Messages) :
    Client (Except Http.CallError FetchOutcome) := do
  let config ← Activity.look World.fetchConfig
  match config.address base ns release messages with
  | .error e => pure (.error e)
  | .ok url =>
    acquire reserveFetch
    let answer ← get FetchConfig.Body.read? url config.timeout
    pure (answer.map (config.outcomeOf ns))

/-- What a fetch of a namespace calls for. -/
def services (role : Role) (ns : String) (release : Option String) (messages : Option Messages) :
    Rotation.Services Client where
  pick := pickOrDiscover role
  ask endpoint := fetch endpoint.url ns release messages
  backoff := Activity.look World.fetchBackoff
  lookAgain := refreshOnFailure role
  pause := pause
  fail e := .fail e.message

/-- **Fetch a namespace** from instance after instance until one answers. -/
def fetchAnywhere (role : Role) (ns : String) (release : Option String) (messages : Option Messages)
    (b : Backoff) : Client (FetchResult × Backoff) := do
  let config ← Activity.look World.fetchConfig
  Rotation.fetch (services role ns release messages) config.maxAttempts b

/-! ## §5 Namespaces -/

/-- Where the refresh that a caller runs stands. -/
def phase? (sync caller : Nat) (w : World) : Option (RefreshPhase Script) :=
  (w.machine? sync).bind fun m => m.active.bind fun a =>
    if a.caller = caller then some a.phase else none

/-- Whether a caller holds the lock of a namespace. -/
def holdsLock (sync caller : Nat) (w : World) : Bool :=
  ((w.machine? sync).map fun m => m.lock.holds caller).getD false

/-- Deliver what is left to deliver. -/
def deliverAll (sync : Nat) : Nat → Option RefreshOutcome → Client (Option RefreshOutcome)
  | 0, outcome => pure outcome
  | _ + 1, some outcome => pure (some outcome)
  | fuel + 1, none => do
    let outcome ← Activity.update (World.move sync .deliver)
    deliverAll sync fuel outcome

/-- **Refresh a namespace** on behalf of a caller who has asked for its lock. -/
def refreshHeld (role : Role) (sync caller : Nat) : Client RefreshOutcome := do
  Activity.waitFor (holdsLock sync caller)
  Activity.change fun w => (w.move sync (.enter caller)).2
  Activity.change fun w => { w with pool := w.pool.request role.id }
  Activity.waitFor fun w => w.pool.holds role.id
  Activity.change fun w => (w.move sync .permit).2
  let machine ← Activity.look fun w => w.machine? sync
  match machine, machine.bind SyncMachine.active with
  | some m, some ⟨_, .fetching flight⟩ =>
    let (result, backoff) ←
      fetchAnywhere role m.sync.ns flight.previous.release flight.messages m.sync.backoff
    let answered ← Activity.update (World.move sync (.answer result backoff))
    -- The permit is kept while the disk works, but not while listeners are called.
    let saving ← Activity.look fun w => match phase? sync caller w with
      | some (.saving ..) => true
      | _ => false
    if saving then Activity.change fun w => (w.move sync (.saved none)).2
    Activity.change fun w => { w with pool := w.pool.release role.id }
    let gathered ← match answered with
      | some outcome => pure (some outcome)
      | none => Activity.update (World.move sync .gather)
    let left ← Activity.look fun w => match phase? sync caller w with
      | some (.delivering _ left _) => left.length
      | _ => 0
    let outcome ← deliverAll sync (left + 1) gathered
    pure (outcome.getD .failed)
  | _, _ => pure .failed

/-- Refresh a namespace directly. -/
def refreshNow (sync : Nat) : Client RefreshOutcome := do
  -- The script has one caller's number of its own in every namespace.
  Activity.change fun w => (w.move sync (.call 1)).2
  refreshHeld .main sync 1

/-- The work of a worker. -/
def worker (sync : Nat) : Client Unit := do
  let role := Role.worker sync
  let _ ← momentAfter (← Activity.look fun w => w.setting.refreshInterval)
  Activity.change fun w => (w.move sync .launch).2
  let refreshes ← Activity.look fun w =>
    ((w.machine? sync).map fun m => m.worker == .initial).getD false
  if refreshes then
    let _ ← refreshHeld role sync workerId
  Activity.loop rounds do
    let due ← Activity.look fun w => ((w.machine? sync).map fun m => m.nextTick).getD 0
    .await (some ((due + 999999) / 1000000))
      (fun w => ((w.machine? sync).map fun m => m.cancelled || m.wake).getD true) (pure ())
    Activity.change fun w => (w.move sync .take).2
    let state ← Activity.look fun w => (w.machine? sync).map SyncMachine.worker
    if state = some .busy then
      let _ ← refreshHeld role sync workerId
      pure false
    else pure (state ≠ some .idle)

/-! ## §6 Loops -/

/-- From here on a cancellation takes the role away at once, or no longer does. -/
def interruptible (role : Role) (yes : Bool) : Client Unit :=
  Activity.change fun w =>
    { w with interruptible := (w.interruptible.filter (· ≠ role)) ++ (if yes then [role] else []) }

/-- The loop that looks for instances. -/
def discoveryLoop : Client Unit := do
  let locator ← Activity.look fun w => w.discovery.locator
  if locator.isFixed then pure ()
  else
    Activity.loop rounds do
      let _ ← refresh .discovery
      interruptible .discovery true
      pause locator.config.refreshInterval
      interruptible .discovery false
      pure false

/-- One long poll at an instance. -/
def poll (base : String) : Client (Except Http.CallError (Option (List Notification))) := do
  let (config, state) ← Activity.look fun w => (w.pollConfig, w.channel.stateText?)
  match state with
  | none => pure (.ok none)
  | some state =>
    match Channel.address config base state with
    | .error e => pure (.error e)
    | .ok url =>
      acquire reservePoll
      let answer ← get Notification.readList? url config.timeout
      pure (Channel.pollResult answer)

/-- The delay after one more failed poll. -/
def pollDelay (config : PollConfig) (b : Backoff) : Client (Duration × Backoff) :=
  let b := b.registerError
  match config.backoff.delay? b.errors with
  | .ok delay => pure (delay, b)
  | .error e => .fail e.message

/-- The report of a failed poll. Of the delay in milliseconds it shows the lowest 64 bits. -/
def pollLine (message : String) (delay : Duration) (failures : Option Nat) : LogLine :=
  .warning message
    ([("retry_in_ms", Number.decimalText (delay.millis % UInt64.size))]
      ++ (failures.map fun n => ("failures", Number.decimalText n)).toList)

/-- One round of the loop of long polls. -/
def pollRound (b : Backoff) : Client Backoff := do
  interruptible .polling true
  let idle ← Activity.look fun w => w.channel.subscriptions.isEmpty
  if idle then
    Activity.waitFor fun w => w.channel.signalled
    Activity.change fun w => { w with channel := { w.channel with signalled := false } }
    pure b
  else
    let config ← Activity.look World.pollConfig
    match ← pickOrDiscover .polling [] with
    | none =>
      let (delay, b) ← pollDelay config b
      Activity.change (World.log "" (pollLine
        "config-sync long poll has no configuration service instance" delay none))
      pause delay
      pure b
    | some endpoint =>
      match ← poll endpoint.url with
      | .ok list =>
        let _ ← Activity.update (World.dispatch (list.getD []))
        pure (b.registerSuccess config.backoff.recovery)
      | .error e =>
        Activity.change (World.observe (.longPollError e))
        let (delay, b) ← pollDelay config b
        let line := pollLine "config-sync long poll failed" delay (some b.errors)
        Activity.change (World.log "" line)
        -- A look for other instances that has begun is not cut short.
        interruptible .polling false
        refreshOnFailure .polling
        interruptible .polling true
        pause delay
        pure b

/-- The loop of long polls. -/
def pollLoop : Nat → Backoff → Client Unit
  | 0, _ => pure ()
  | fuel + 1, b => do
    let b ← pollRound b
    pollLoop fuel b

end Client

/-! ## §7 Running -/

/-- The world as the clock sees it. -/
def host : Host World Role where
  now := World.now
  setNow moment w := { w with now := moment }
  started w := (w.started, { w with started := [] })
  program
    | .main => pure ()
    | .worker sync => Client.worker sync
    | .discovery => Client.discoveryLoop
    | .polling => Client.pollLoop Client.rounds {}
  dropped w role := w.aborted.contains role || (w.cancelled && w.interruptible.contains role)
  onDrop := World.drop
  onEnd := World.ended

/-- The most steps of a scenario. -/
def maxSteps : Nat := 100000000

/-- **Run a script** in a world. -/
def runScript {α : Type} (w : World) (script : Client α) : Ending World α :=
  run host maxSteps w script []

end LiveConfig.Simulation
