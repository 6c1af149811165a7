import LiveConfig.Config.Basic
import LiveConfig.Fetch.Rotation
import LiveConfig.Health
import LiveConfig.Log
import LiveConfig.Telemetry
import LiveConfig.View.Basic

/-!
# Events of a namespace

What the synchronisation of a namespace shows to the outside: events for observers, lines of the
log, and calls of listeners.
-/

namespace LiveConfig

/-- An event of the synchronisation, with the errors of this program. -/
abbrev Observed := TelemetryEvent FetchError Http.CallError

/-- How a refresh ended. -/
inductive RefreshOutcome
  /-- A release was committed, with so many changed keys. -/
  | updated (changedKeys : Nat)
  /-- The server confirmed what is known. -/
  | unchanged
  /-- The server knows no such namespace. -/
  | notFound
  /-- Every attempt failed. -/
  | failed
deriving DecidableEq, Repr

/-- What a namespace shows. -/
inductive SyncEvent (L : Type)
  | observed (e : Observed)
  | logged (line : LogLine)
  /-- A listener was called while the view showed a snapshot. -/
  | called (recipient : Registration L) (changes : ChangeSet) (shown : Snapshot)
      (failure : Option String)
  /-- A refresh of a caller has ended. -/
  | ended (caller : Nat) (outcome : RefreshOutcome)

namespace SyncEvent

/-- The report of a failure. -/
def failureLine (ns : String) (error : FetchError) (failures suppressed : Nat)
    (source : Provenance) : LogLine :=
  .warning "config-sync refresh failed; serving last known configuration"
    [("namespace", ns), ("kind", error.family), ("failures", Number.decimalText failures),
     ("suppressed", Number.decimalText suppressed), ("source", source.label)]

/-- The report of an expiry. -/
def expiryLine (ns : String) (unconfirmed : Duration) : LogLine :=
  .warning "config-sync fallback configuration expired; serving empty configuration"
    [("namespace", ns), ("unconfirmed_for_secs", Number.decimalText unconfirmed.secs)]

/-- The report of a cache file that could not be written. -/
def unsavedLine (ns : String) : LogLine :=
  .warning "config-sync failed to write local cache" [("namespace", ns)]

/-- The report of a cache file that could not be read. -/
def unreadableLine (ns : String) : LogLine :=
  .warning "config-sync ignoring unreadable local cache file" [("namespace", ns)]

/-- The report of a value that could not be read as the type it was asked for. -/
def unparsedLine (ns key raw : String) : LogLine :=
  .warning "config-sync could not parse configuration value"
    [("namespace", ns), ("key", key), ("value", raw)]

/-- The report of a listener that failed. -/
def panicLine (ns : String) (id : Nat) (text : String) : LogLine :=
  ⟨.error, "config-sync change listener panicked",
    [("namespace", ns), ("listener_id", Number.decimalText id), ("panic", text)]⟩

end SyncEvent

end LiveConfig
