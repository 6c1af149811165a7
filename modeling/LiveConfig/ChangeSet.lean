import LiveConfig.Snapshot

/-!
# Change sets

The difference between two successive snapshots of a namespace, key by key, and its replay on a
map of entries.

## Order

Changed and new keys come in the order of the new snapshot, then the deleted keys in the order of
the old one.
-/

namespace LiveConfig

/-! ## §1 The change of one key -/

/-- What happened to one key between two snapshots. -/
inductive Change
  | added (new : String)
  | modified (old new : String)
  | deleted (old : String)
deriving DecidableEq, Repr

namespace Change

/-- The value before the change. -/
def old? : Change → Option String
  | added _ => none
  | modified old _ => some old
  | deleted old => some old

/-- The value after the change. -/
def new? : Change → Option String
  | added new => some new
  | modified _ new => some new
  | deleted _ => none

/-- The name of the kind of change. -/
def kindName : Change → String
  | added _ => "Added"
  | modified .. => "Modified"
  | deleted _ => "Deleted"

/-- The change that leads from one optional value to another, if they differ. -/
def between? : Option String → Option String → Option Change
  | none, none => none
  | none, some new => some (added new)
  | some old, none => some (deleted old)
  | some old, some new => if old = new then none else some (modified old new)

theorem old?_of_between? {a b : Option String} {c : Change} (h : between? a b = some c) :
    c.old? = a := by
  cases a <;> cases b <;> simp only [between?] at h <;> try cases h <;> rfl
  · split at h
    · cases h
    · cases h; rfl

theorem new?_of_between? {a b : Option String} {c : Change} (h : between? a b = some c) :
    c.new? = b := by
  cases a <;> cases b <;> simp only [between?] at h <;> try cases h <;> rfl
  · split at h
    · cases h
    · cases h; rfl

/-- There is a change exactly when the two values differ. -/
theorem between?_eq_none_iff (a b : Option String) : between? a b = none ↔ a = b := by
  cases a <;> cases b <;> simp [between?]

end Change

/-! ## §2 The change set -/

/-- The difference between two successive snapshots of one namespace. -/
structure ChangeSet where
  /-- The namespace of the new snapshot. -/
  ns : String
  /-- The release that the change leads to. -/
  release : Option String
  /-- What happened to each key that changed. -/
  changes : List (String × Change)
deriving DecidableEq

namespace ChangeSet

/-- The change of `key` between two maps, paired with the key. -/
def changeOf? (old new : Entries) (key : String) : Option (String × Change) :=
  (Change.between? (old.get? key) (new.get? key)).map (key, ·)

/-- **The difference of two snapshots**: first the keys of the new one that are new or have another
value, then the keys that only the old one has. -/
def diff (old new : Snapshot) : ChangeSet where
  ns := new.ns
  release := new.release
  changes :=
    new.entries.keys.filterMap (changeOf? old.entries new.entries)
      ++ (old.entries.keys.filter (fun k => (new.entries.get? k).isNone)).filterMap
          (changeOf? old.entries new.entries)

/-- Whether nothing changed. -/
def isEmpty (c : ChangeSet) : Bool := c.changes.isEmpty

/-- How many keys changed. -/
def size (c : ChangeSet) : Nat := c.changes.length

/-- The keys that changed, in order. -/
def keys (c : ChangeSet) : List String := c.changes.map Prod.fst

/-- The change of a key. -/
def get? (c : ChangeSet) (key : String) : Option Change := c.changes.lookup key

/-- Whether a key changed. -/
def changed (c : ChangeSet) (key : String) : Bool := (c.get? key).isSome

/-- Replay one change on a map: set the new value, or remove the key. -/
def applyOne (e : Entries) (p : String × Change) : Entries :=
  match p.2.new? with
  | some v => e.insert p.1 v
  | none => e.erase p.1

/-- Replay a change set on a map of entries. -/
def apply (c : ChangeSet) (e : Entries) : Entries := c.changes.foldl applyOne e

end ChangeSet

end LiveConfig
