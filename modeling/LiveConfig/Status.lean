import LiveConfig.Health
import LiveConfig.Json.Value
import LiveConfig.Snapshot
import LiveConfig.Sorted

/-!
# Status reports

What an operator is told about each namespace, as one JSON document.
-/

namespace LiveConfig

/-- The state of one namespace at one moment. -/
structure NamespaceStatus where
  ns : String
  release : Option String
  source : Provenance
  /-- The number of entries. -/
  entries : Nat
  /-- The number of registered listeners. -/
  listeners : Nat
  /-- The latest notification that the long poll has seen. -/
  notificationId : Option Int
  failures : Nat
  lastError : Option String
  lastSuccessAge : Option Duration
deriving DecidableEq

namespace NamespaceStatus

/-- The report on one namespace. -/
def toJson (s : NamespaceStatus) : Json :=
  .object (Sorted.ofList
    [("releaseKey", .ofText? s.release),
     ("sourceType", .text s.source.label),
     ("entries", .ofNat s.entries),
     ("listeners", .ofNat s.listeners),
     ("notificationId", (s.notificationId.map Json.ofInt).getD .null),
     ("consecutiveFailures", .ofNat s.failures),
     ("lastError", .ofText? s.lastError),
     ("lastSuccessAgeSecs", (s.lastSuccessAge.map fun d => Json.ofNat d.secs).getD .null)])

/-- The report on all namespaces of an application. -/
def report (appId cluster : String) (statuses : List NamespaceStatus) : Json :=
  .object (Sorted.ofList
    [("appId", .text appId),
     ("cluster", .text cluster),
     ("namespaces", .object (Sorted.ofList (statuses.map fun s => (s.ns, s.toJson))))])

end NamespaceStatus

end LiveConfig
