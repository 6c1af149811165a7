import LiveConfig.Number.Integer

/-!
# Telemetry

The events that an observer of the synchronisation sees, and counters over them.

## Main statements

- `countAll_append`: counting two runs of events one after the other counts both.
-/

namespace LiveConfig

/-- An event of the synchronisation. `F` is what a failed refresh reports, `P` what a failed poll
reports. -/
inductive TelemetryEvent (F P : Type)
  | refreshSuccess (ns : String) (changedKeys : Nat)
  | refreshError (ns : String) (error : F)
  | notFound (ns : String)
  | localFallback (ns : String)
  | fallbackExpired (ns : String)
  | notification (ns : String) (id : Int)
  | staleNotification (ns : String) (id : Int)
  | longPollError (error : P)
  | listenerPanic (ns : String)
deriving Repr

/-- How often each event has happened, and how many keys have changed.

An event counts one, so that 64 bits are enough for 2 ^ 64 events, which no client lives to see. The
keys of a refresh count together, and they are added up modulo 2 ^ 64. -/
structure Counters where
  refreshSuccess : Nat := 0
  refreshChangedKeys : Nat := 0
  refreshError : Nat := 0
  notFound : Nat := 0
  localFallback : Nat := 0
  fallbackExpired : Nat := 0
  notifications : Nat := 0
  staleNotifications : Nat := 0
  longPollError : Nat := 0
  listenerPanics : Nat := 0
deriving DecidableEq, Repr, Inhabited

namespace Counters

variable {F P : Type}

/-- Count one event. Changed keys are added up in 64 bits. -/
def count (c : Counters) : TelemetryEvent F P → Counters
  | .refreshSuccess _ n =>
    { c with
      refreshSuccess := c.refreshSuccess + 1
      refreshChangedKeys := (c.refreshChangedKeys + n) % UInt64.size }
  | .refreshError .. => { c with refreshError := c.refreshError + 1 }
  | .notFound _ => { c with notFound := c.notFound + 1 }
  | .localFallback _ => { c with localFallback := c.localFallback + 1 }
  | .fallbackExpired _ => { c with fallbackExpired := c.fallbackExpired + 1 }
  | .notification .. => { c with notifications := c.notifications + 1 }
  | .staleNotification .. => { c with staleNotifications := c.staleNotifications + 1 }
  | .longPollError _ => { c with longPollError := c.longPollError + 1 }
  | .listenerPanic _ => { c with listenerPanics := c.listenerPanics + 1 }

/-- Count a run of events. -/
def countAll (c : Counters) (events : List (TelemetryEvent F P)) : Counters := events.foldl count c

theorem countAll_append (c : Counters) (a b : List (TelemetryEvent F P)) :
    c.countAll (a ++ b) = (c.countAll a).countAll b := List.foldl_append

/-- The counters with their names. -/
def toList (c : Counters) : List (String × Nat) :=
  [("refresh_success", c.refreshSuccess), ("refresh_changed_keys", c.refreshChangedKeys),
   ("refresh_error", c.refreshError), ("not_found", c.notFound),
   ("local_fallback", c.localFallback), ("fallback_expired", c.fallbackExpired),
   ("notifications", c.notifications), ("stale_notifications", c.staleNotifications),
   ("long_poll_error", c.longPollError), ("listener_panics", c.listenerPanics)]

/-- The counters on one line. -/
def text (c : Counters) : String :=
  ", ".intercalate (c.toList.map fun p => p.1 ++ "=" ++ Number.decimalText p.2)

end Counters

end LiveConfig
