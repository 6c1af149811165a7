import LiveConfig.Permits
import LiveConfig.Sync.Refresh

/-!
# The machine of a namespace

A namespace with all who refresh it: its worker, which runs on schedule and on request, and callers
who refresh it directly. A lock lets one refresh run at a time.

## The worker

Requests collapse in one slot: while it is full, further requests add nothing. A worker that waits
looks first whether it is cancelled, then into the slot, then at the clock.

## Moves

A `SyncMove` is one uninterrupted stretch of one party; `step?` refuses a move that its party cannot
make. A notification comes in two moves, one that leaves its messages and one that asks for the
refresh, and a commit comes in two as well: what has changed is shown first, and who listens is
looked up afterwards. Everybody else may move in between.

## Main statements

- `wake_request`: after a request the slot is full.
- `take?_stopped`: a worker that has ended takes nothing any more.
-/

namespace LiveConfig

/-! ## §1 The state -/

/-- Where the worker stands. -/
inductive WorkerPhase
  /-- It has not run yet. -/
  | created
  /-- Its first refresh is under way or waits for the lock. -/
  | initial
  /-- It waits for something to do. -/
  | idle
  /-- A later refresh is under way or waits for the lock. -/
  | busy
  | stopped
deriving DecidableEq, Repr

/-- Where the refresh that holds the lock stands. -/
inductive RefreshPhase (L : Type)
  /-- It waits for a permit of the pool. -/
  | queued (flight : Flight)
  /-- It waits for the server. -/
  | fetching (flight : Flight)
  /-- It waits for the disk. -/
  | saving (snapshot : Snapshot) (changes : ChangeSet)
  /-- Its changes are shown, but it has yet to look up who listens. -/
  | committed (changes : ChangeSet) (outcome : RefreshOutcome)
  /-- It has listeners left to call. -/
  | delivering (changes : ChangeSet) (left : List (Registration L)) (outcome : RefreshOutcome)
deriving DecidableEq

/-- The refresh that holds the lock, and who runs it. -/
structure ActiveRefresh (L : Type) where
  caller : Nat
  phase : RefreshPhase L
deriving DecidableEq

/-- A namespace with all who refresh it. -/
structure SyncMachine (L : Type) where
  sync : Sync L
  lock : Permits := .lock
  active : Option (ActiveRefresh L) := none
  /-- The slot for requests is full. -/
  wake : Bool := false
  worker : WorkerPhase := .created
  /-- The first refresh of the worker has ended. -/
  initialized : Bool := false
  cancelled : Bool := false
  /-- When the next scheduled refresh is due. -/
  nextTick : Instant := 0
  /-- Snapshots that the disk is still busy with although their refreshes were given up. -/
  detached : List Snapshot := []
deriving DecidableEq

/-- The worker among the callers. -/
def workerId : Nat := 0

/-- One uninterrupted stretch of one party. -/
inductive SyncMove (L : Type)
  /-- Someone asks the worker for a refresh. -/
  | request
  /-- A notification leaves the messages that it announces. -/
  | announce (messages : Option Messages)
  /-- A caller asks for a refresh of his own. -/
  | call (caller : Nat)
  /-- The worker begins. -/
  | launch
  /-- The waiting worker looks for something to do. -/
  | take
  /-- The caller who holds the lock begins his refresh. -/
  | enter (caller : Nat)
  /-- The pool lets the refresh talk to the server. -/
  | permit
  /-- The server has answered, or every attempt has failed. -/
  | answer (result : FetchResult) (backoff : Backoff)
  /-- The disk has done its work. -/
  | saved (fault : Option CacheStore.Fault)
  /-- Who listens to the changes is looked up. -/
  | gather
  /-- The next listener is called. -/
  | deliver
  /-- A caller gives up, whatever he was doing. -/
  | abandon (caller : Nat)
  /-- The disk has done what a refresh that was given up had asked for. -/
  | settled (fault : Option CacheStore.Fault)
  /-- The worker is told to stop. -/
  | cancel
  | subscribe (listener : L) (filter : ListenerFilter)
  | unsubscribe (id : Nat)

/-- What surrounds a namespace. -/
structure SyncFrame (L : Type) where
  setting : SyncSetting
  /-- What each listener does when it is called. -/
  react : L → ChangeSet → Listeners.Reaction L

namespace SyncMachine

variable {L : Type}

/-- A namespace that starts with what the cache holds, and that nobody refreshes yet. -/
def start (s : SyncSetting) (f : Files) (ns : String) (now : Instant) :
    SyncMachine L × List (SyncEvent L) :=
  let (sync, events) := Sync.start s f ns now
  ({ sync }, events)

/-- How late a scheduled refresh may begin without moving the schedule. -/
def tickTolerance : Nat := 5000000

/-! ## §2 Ends of refreshes -/

/-- The worker after one of its refreshes. -/
def workerAfter (m : SyncMachine L) : SyncMachine L :=
  { m with worker := .idle, initialized := true }

/-- The refresh that holds the lock lets it go. -/
def letGo (caller : Nat) (m : SyncMachine L) : SyncMachine L :=
  let m := { m with active := none, lock := m.lock.release caller }
  if caller = workerId then m.workerAfter else m

section LetGo

variable (caller : Nat) (m : SyncMachine L)

@[simp] theorem sync_letGo : (m.letGo caller).sync = m.sync := by
  unfold letGo workerAfter; split <;> rfl

@[simp] theorem active_letGo : (m.letGo caller).active = none := by
  unfold letGo workerAfter; split <;> rfl

@[simp] theorem lock_letGo : (m.letGo caller).lock = m.lock.release caller := by
  unfold letGo workerAfter; split <;> rfl

@[simp] theorem wake_letGo : (m.letGo caller).wake = m.wake := by
  unfold letGo workerAfter; split <;> rfl

@[simp] theorem cancelled_letGo : (m.letGo caller).cancelled = m.cancelled := by
  unfold letGo workerAfter; split <;> rfl

/-- A worker that has let go waits for something to do; nobody else's refresh concerns it. -/
theorem worker_letGo :
    (m.letGo caller).worker = if caller = workerId then .idle else m.worker := by
  unfold letGo workerAfter; split <;> rfl

end LetGo

/-- Go on with what remains of a refresh. -/
def proceed (caller : Nat) (remaining : Remaining) (m : SyncMachine L) :
    SyncMachine L × List (SyncEvent L) :=
  match remaining with
  | .nothing outcome => (m.letGo caller, [.ended caller outcome])
  | .saving snapshot changes =>
    ({ m with active := some ⟨caller, .saving snapshot changes⟩ }, [])
  | .delivering changes outcome =>
    ({ m with active := some ⟨caller, .committed changes outcome⟩ }, [])

/-- Go on with the listeners that are left to call; after the last one the refresh ends. -/
def tell (caller : Nat) (changes : ChangeSet) (left : List (Registration L))
    (outcome : RefreshOutcome) (m : SyncMachine L) : SyncMachine L × List (SyncEvent L) :=
  match left with
  | [] => (m.letGo caller, m.sync.concluded outcome ++ [.ended caller outcome])
  | left => ({ m with active := some ⟨caller, .delivering changes left outcome⟩ }, [])

section Proceed

variable (caller : Nat) (m : SyncMachine L)

@[simp] theorem sync_proceed (r : Remaining) : (m.proceed caller r).1.sync = m.sync := by
  cases r <;> simp [proceed]

@[simp] theorem cancelled_proceed (r : Remaining) :
    (m.proceed caller r).1.cancelled = m.cancelled := by
  cases r <;> simp [proceed]

@[simp] theorem sync_tell (c : ChangeSet) (left : List (Registration L)) (o : RefreshOutcome) :
    (m.tell caller c left o).1.sync = m.sync := by
  cases left <;> simp [tell]

@[simp] theorem cancelled_tell (c : ChangeSet) (left : List (Registration L))
    (o : RefreshOutcome) : (m.tell caller c left o).1.cancelled = m.cancelled := by
  cases left <;> simp [tell]

end Proceed

/-! ## §3 Moves -/

/-- Fill the slot. -/
def request (m : SyncMachine L) : SyncMachine L := { m with wake := true }

@[simp] theorem wake_request (m : SyncMachine L) : m.request.wake = true := rfl

/-- The worker begins: it sets its clock, and refreshes at once unless it is cancelled already. -/
def launch (interval : Duration) (now : Instant) (m : SyncMachine L) : SyncMachine L :=
  let m := { m with nextTick := now + interval.nanos }
  -- Nobody may wait forever for a first refresh, not even for one that is never made.
  if m.cancelled then m.workerAfter
  else { m with worker := .initial, lock := m.lock.request workerId }

/-- When the schedule goes on after a refresh that begins now. -/
def tickAfter (interval : Duration) (now due : Instant) : Instant :=
  if due + tickTolerance < now then now + interval.nanos else due + interval.nanos

/-- **The waiting worker looks for something to do**: to stop, to serve a request, or to keep the
schedule, in this order. -/
def take? (interval : Duration) (now : Instant) (m : SyncMachine L) : Option (SyncMachine L) :=
  if m.worker ≠ .idle then none
  else if m.cancelled then some { m with worker := .stopped }
  else if m.wake then
    some { m with wake := false, worker := .busy, lock := m.lock.request workerId }
  else if m.nextTick ≤ now then
    some { m with
      nextTick := tickAfter interval now m.nextTick
      worker := .busy
      lock := m.lock.request workerId }
  else none

/-- The caller who holds the lock begins his refresh. -/
def enter (caller : Nat) (m : SyncMachine L) : SyncMachine L :=
  let (sync, flight) := m.sync.begin
  { m with sync, active := some ⟨caller, .queued flight⟩ }

/-- The snapshot that the disk goes on with when a refresh is given up. -/
def detach (phase : RefreshPhase L) : List Snapshot :=
  match phase with
  | .saving snapshot _ => [snapshot]
  | _ => []

/-- A caller gives up: a refresh that he runs is dropped where it stands. A worker that gives up has
ended. -/
def abandon (caller : Nat) (m : SyncMachine L) : SyncMachine L :=
  let dropped := (m.active.filter (·.caller = caller)).map ActiveRefresh.phase
  { m with
    lock := m.lock.release caller
    active := m.active.filter (·.caller ≠ caller)
    detached := m.detached ++ (dropped.map detach).getD []
    worker := if caller = workerId then .stopped else m.worker }

/-- **One move** of a namespace with the files of its cache; none if the move is not possible. -/
def step? (frame : SyncFrame L) (now : Instant) (m : SyncMachine L) (f : Files) :
    SyncMove L → Option (SyncMachine L × Files × List (SyncEvent L))
  | .request => some (m.request, f, [])
  | .announce messages => some ({ m with sync := m.sync.queueMessages messages }, f, [])
  | .call caller =>
    if caller = workerId ∨ m.lock.asked caller then none
    else some ({ m with lock := m.lock.request caller }, f, [])
  | .launch =>
    if m.worker = .created then some (m.launch frame.setting.refreshInterval now, f, []) else none
  | .take => (m.take? frame.setting.refreshInterval now).map fun m => (m, f, [])
  | .enter caller =>
    if m.lock.holds caller ∧ m.active = none then some (m.enter caller, f, []) else none
  | .permit =>
    match m.active with
    | some ⟨caller, .queued flight⟩ =>
      some ({ m with active := some ⟨caller, .fetching flight⟩ }, f, [])
    | _ => none
  | .answer result backoff =>
    match m.active with
    | some ⟨caller, .fetching flight⟩ =>
      let sync := { m.sync with backoff }
      let (sync, events, remaining) := sync.answered frame.setting now flight result
      let (m, more) := { m with sync }.proceed caller remaining
      some (m, f, events ++ more)
    | _ => none
  | .saved fault =>
    match m.active with
    | some ⟨caller, .saving snapshot changes⟩ =>
      let (f, events) := m.sync.save frame.setting fault snapshot f
      let outcome := RefreshOutcome.updated changes.size
      some ({ m with active := some ⟨caller, .committed changes outcome⟩ }, f, events)
    | _ => none
  | .gather =>
    match m.active with
    | some ⟨caller, .committed changes outcome⟩ =>
      let left := m.sync.view.listeners.concerned changes
      let (m, events) := m.tell caller changes left outcome
      some (m, f, events)
    | _ => none
  | .deliver =>
    match m.active with
    | some ⟨caller, .delivering changes (next :: left) outcome⟩ =>
      let (sync, events) := m.sync.deliver frame.react changes next
      let (m, more) := { m with sync }.tell caller changes left outcome
      some (m, f, events ++ more)
    | _ => none
  | .abandon caller => some (m.abandon caller, f, [])
  | .settled fault =>
    match m.detached with
    | [] => none
    | snapshot :: rest =>
      some ({ m with detached := rest }, (m.sync.save frame.setting fault snapshot f).1, [])
  | .cancel => some ({ m with cancelled := true }, f, [])
  | .subscribe listener filter =>
    let view := (m.sync.view.subscribe listener filter).2
    some ({ m with sync := { m.sync with view } }, f, [])
  | .unsubscribe id =>
    let view := (m.sync.view.unsubscribe id).2
    some ({ m with sync := { m.sync with view } }, f, [])

/-- A worker that has ended takes nothing any more. -/
theorem take?_stopped (interval : Duration) (now : Instant) (m : SyncMachine L)
    (h : m.worker = .stopped) : m.take? interval now = none := by
  simp [take?, h]

end SyncMachine

end LiveConfig
