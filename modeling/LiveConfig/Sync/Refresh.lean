import LiveConfig.Cache.Store
import LiveConfig.Status
import LiveConfig.Sync.Event

/-!
# Refreshing a namespace

What one refresh does to a namespace, cut at the moments at which it waits: it takes the announced
messages, gets an answer, commits it, saves it and tells the listeners.

## Commits

A release is committed by showing it in the view. A release that is known and was delivered by the
server before is not committed again; a known release from the cache is, and counts as a change only
if its entries differ.

## Main statements

- `pending_begin`: the messages that a refresh takes are all that were pending.
- `view_notFound`: a namespace that the server does not know keeps its view.
-/

namespace LiveConfig

/-! ## §1 The state of a namespace -/

/-- What a namespace is told at its start. -/
structure SyncSetting where
  policy : FallbackPolicy := .serveStale
  failureLogInterval : Duration := .ofSecs 60
  fetchBackoff : BackoffConfig := .fetchRetry
  refreshInterval : Duration := .ofSecs 300
  /-- The cache, if it could be opened. -/
  cache : Option CacheStore := none

/-- A namespace: its view, its health, and what waits for its next refresh. -/
structure Sync (L : Type) where
  ns : String
  view : View L
  health : Health := {}
  backoff : Backoff := {}
  failureLog : FailureLog := {}
  /-- When the server last confirmed what is shown. -/
  lastConfirmed : Instant
  /-- The messages that the next fetch will carry. -/
  pending : Option Messages := none
deriving DecidableEq

/-- What a refresh holds while it waits. -/
structure Flight where
  messages : Option Messages
  /-- The snapshot that was shown when it began. -/
  previous : Snapshot
deriving DecidableEq

/-- What remains to be done before a refresh ends. -/
inductive Remaining
  /-- The refresh has ended. -/
  | nothing (outcome : RefreshOutcome)
  /-- A committed snapshot has to be saved, and then its changes delivered. -/
  | saving (snapshot : Snapshot) (changes : ChangeSet)
  /-- Changes have to be delivered, after which the refresh ends. -/
  | delivering (changes : ChangeSet) (outcome : RefreshOutcome)
deriving DecidableEq

namespace Sync

variable {L : Type}

/-- A namespace that starts with what the cache holds. -/
def start (s : SyncSetting) (f : Files) (ns : String) (now : Instant) :
    Sync L × List (SyncEvent L) :=
  match (s.cache.map fun c => c.lookUp f ns : Option CacheStore.Loaded) with
  | some (.found r) =>
    ({ ns, view := .ofSnapshot r.toSnapshot, lastConfirmed := now },
      [.observed (.localFallback ns)])
  | some .unreadable =>
    ({ ns, view := .ofSnapshot (.empty ns), lastConfirmed := now },
      [.logged (SyncEvent.unreadableLine ns)])
  | some .absent | none => ({ ns, view := .ofSnapshot (.empty ns), lastConfirmed := now }, [])

/-! ## §2 Messages -/

/-- Keep messages for the next fetch. -/
def queueMessages (m : Option Messages) (s : Sync L) : Sync L :=
  match m with
  | none => s
  | some m => { s with pending := Messages.mergeInto s.pending m }

/-- Begin a refresh: it takes all pending messages. -/
def begin (s : Sync L) : Sync L × Flight :=
  ({ s with pending := none }, ⟨s.pending, s.view.snapshot⟩)

@[simp] theorem pending_begin (s : Sync L) :
    s.begin.1.pending = none ∧ s.begin.2.messages = s.pending := ⟨rfl, rfl⟩

/-! ## §3 Answers -/

/-- The server has answered and confirmed or replaced what is shown. -/
def confirmed (now : Instant) (s : Sync L) : Sync L :=
  { s with
    lastConfirmed := now
    failureLog := s.failureLog.reset
    health := s.health.recordSuccess now }

/-- Commit a fetched snapshot. -/
def commit (snapshot : Snapshot) (s : Sync L) : Sync L × Remaining :=
  let shown := s.view.snapshot
  let known := shown.release = snapshot.release
  if known ∧ shown.source = .remote then (s, .nothing .unchanged)
  else
    let changes := ChangeSet.diff shown snapshot
    -- Even a release known from the cache is shown anew: from now on it counts as delivered.
    let s := { s with view := s.view.replace snapshot }
    if known ∧ changes.isEmpty then (s, .nothing .unchanged) else (s, .saving snapshot changes)

/-- The server confirms the known release, which counts as delivered by it from now on. -/
def upgrade (flight : Flight) (s : Sync L) : Sync L :=
  if flight.previous.source ≠ .remote ∧ flight.previous.release.isSome then
    { s with view := s.view.replace (flight.previous.withSource .remote) }
  else s

/-- The server knows no such namespace. -/
def notFound (now : Instant) (s : Sync L) : Sync L :=
  { s with health := s.health.recordSuccess now, failureLog := s.failureLog.reset }

@[simp] theorem view_notFound (now : Instant) (s : Sync L) : (s.notFound now).view = s.view := rfl

/-- Count a failure, and report it unless one was reported a short while ago. -/
def failed (setting : SyncSetting) (now : Instant) (e : FetchError) (s : Sync L) :
    Sync L × List (SyncEvent L) :=
  let health := s.health.recordFailure e.message
  let (failureLog, loud) := s.failureLog.record setting.failureLogInterval now
  ({ s with health, failureLog },
    [.observed (.refreshError s.ns e)]
      ++ (loud.map fun suppressed => SyncEvent.logged
        (SyncEvent.failureLine s.ns e health.failures suppressed s.view.snapshot.source)).toList)

/-- **Stop serving** what the server has not confirmed for too long. -/
def expire (setting : SyncSetting) (now : Instant) (s : Sync L) :
    Sync L × List (SyncEvent L) × Remaining :=
  match setting.policy with
  | .serveStale => (s, [], .nothing .failed)
  | .expireAfter ttl =>
    let shown := s.view.snapshot
    if shown.source = .none ∨ now - s.lastConfirmed < ttl.nanos then (s, [], .nothing .failed)
    else
      ({ s with view := s.view.replace (.empty s.ns) },
        [.logged (SyncEvent.expiryLine s.ns (Duration.between s.lastConfirmed now)),
          .observed (.fallbackExpired s.ns)],
        .delivering (ChangeSet.diff shown (.empty s.ns)) .failed)

/-- **Take in the result of a fetch**: the namespace afterwards, what it shows, and what remains. -/
def answered (setting : SyncSetting) (now : Instant) (flight : Flight) (result : FetchResult)
    (s : Sync L) : Sync L × List (SyncEvent L) × Remaining :=
  match result with
  | .ok (.updated snapshot) =>
    let (s, remaining) := (s.confirmed now).commit snapshot
    (s, match remaining with
      | .nothing _ => [.observed (.refreshSuccess s.ns 0)]
      | _ => [], remaining)
  | .ok .notModified =>
    ((s.confirmed now).upgrade flight, [.observed (.refreshSuccess s.ns 0)], .nothing .unchanged)
  | .ok .notFound => (s.notFound now, [.observed (.notFound s.ns)], .nothing .notFound)
  | .error e =>
    -- What was announced has not been fetched, so the next fetch carries it again.
    let (s, events) := (s.queueMessages flight.messages).failed setting now e
    let (s, more, remaining) := s.expire setting now
    (s, events ++ more, remaining)

/-! ## §4 Saving and delivery -/

/-- Save a committed snapshot, stopped by a fault if one is given. -/
def save (setting : SyncSetting) (fault : Option CacheStore.Fault) (snapshot : Snapshot) (f : Files)
    (s : Sync L) : Files × List (SyncEvent L) :=
  match setting.cache with
  | none => (f, [])
  | some c =>
    match c.saveWith fault f s.ns snapshot with
    | (f, .failed) => (f, [.logged (SyncEvent.unsavedLine s.ns)])
    | (f, _) => (f, [])

/-- Call one listener. -/
def deliver (react : L → ChangeSet → Listeners.Reaction L) (changes : ChangeSet)
    (recipient : Registration L) (s : Sync L) : Sync L × List (SyncEvent L) :=
  let (listeners, failure) := s.view.listeners.call react changes recipient
  ({ s with view := { s.view with listeners } },
    SyncEvent.called recipient changes s.view.snapshot failure
      :: match failure with
        | none => []
        | some text =>
          [.logged (SyncEvent.panicLine s.view.ns recipient.id text),
            .observed (.listenerPanic s.view.ns)])

/-- What is shown when a refresh ends after a delivery. -/
def concluded (outcome : RefreshOutcome) (s : Sync L) : List (SyncEvent L) :=
  match outcome with
  | .updated n => [.observed (.refreshSuccess s.ns n)]
  | _ => []

/-! ## §5 Status -/

/-- The report on a namespace, with the name under which it is asked for and the latest notification
that the long poll has seen. -/
def status (name : String) (notificationId : Option Int) (now : Instant) (s : Sync L) :
    NamespaceStatus where
  ns := name
  release := s.view.snapshot.release
  source := s.view.snapshot.source
  entries := s.view.snapshot.entries.size
  listeners := s.view.listeners.size
  notificationId := notificationId
  failures := s.health.failures
  lastError := s.health.lastError
  lastSuccessAge := s.health.age? now

end Sync

end LiveConfig
