import LiveConfig.Entries

/-!
# Snapshots

What a namespace holds at one moment: its entries, the release they belong to, and where they came
from.
-/

namespace LiveConfig

/-- Where the content of a snapshot came from. -/
inductive Provenance
  /-- Delivered or confirmed by the configuration service. -/
  | remote
  /-- Read from the local cache and not confirmed since. -/
  | localFallback
  /-- Nothing is known yet, or what was known has expired. -/
  | none
deriving DecidableEq, Repr, Inhabited

namespace Provenance

/-- The word used in reports. -/
def label : Provenance → String
  | remote => "remote"
  | localFallback => "local-fallback"
  | none => "none"

end Provenance

/-- The content of a namespace at one moment. -/
structure Snapshot where
  /-- The namespace. -/
  ns : String
  /-- The release the entries belong to, if any is known. -/
  release : Option String
  /-- Where the entries came from. -/
  source : Provenance
  /-- The entries, in order. -/
  entries : Entries
deriving DecidableEq, Inhabited

namespace Snapshot

/-- A namespace about which nothing is known. -/
def empty (ns : String) : Snapshot := ⟨ns, none, .none, .empty⟩

/-- The same content with another provenance. -/
def withSource (s : Snapshot) (source : Provenance) : Snapshot := { s with source }

/-- The value of a key. -/
def get? (s : Snapshot) (k : String) : Option String := s.entries.get? k

@[simp] theorem get?_empty (ns k : String) : (empty ns).get? k = none := rfl

@[simp] theorem get?_withSource (s : Snapshot) (p : Provenance) (k : String) :
    (s.withSource p).get? k = s.get? k := rfl

end Snapshot

end LiveConfig
