import LiveConfig.Format
import LiveConfig.Text.Blank
import LiveConfig.View.Listeners
import LiveConfig.View.Parsed

/-!
# Views

What the users of a namespace hold: its current snapshot, questions about it, and the listeners to
its changes.

## Main statements

- `snapshot_replace`: after a replacement the view shows what it was given.
-/

namespace LiveConfig

/-- The view of a namespace. -/
structure View (L : Type) where
  ns : String
  /-- What is shown now. -/
  snapshot : Snapshot
  listeners : Listeners L := {}
deriving DecidableEq

namespace View

variable {L : Type}

/-- The view of a first snapshot, which names the namespace. -/
def ofSnapshot (s : Snapshot) : View L := { ns := s.ns, snapshot := s }

/-- The format of the namespace. -/
def format (v : View L) : Format := Format.ofNamespace v.ns

/-- Show another snapshot. -/
def replace (s : Snapshot) (v : View L) : View L := { v with snapshot := s }

@[simp] theorem snapshot_replace (s : Snapshot) (v : View L) : (v.replace s).snapshot = s := rfl

@[simp] theorem ns_replace (s : Snapshot) (v : View L) : (v.replace s).ns = v.ns := rfl

@[simp] theorem listeners_replace (s : Snapshot) (v : View L) :
    (v.replace s).listeners = v.listeners := rfl

/-! ## §1 Questions -/

/-- The value of a key. -/
def get? (v : View L) (key : String) : Option String := v.snapshot.get? key

/-- The value of a key, or another text. -/
def getOr (v : View L) (key default : String) : String := (v.get? key).getD default

/-- What came of reading a value. -/
inductive Reading
  /-- There is no such key. -/
  | missing
  /-- The value is not of the type. -/
  | unreadable (raw : String)
  | read (value : ParsedValue)

/-- The value of a key as a value of a type; blanks around it do not count. -/
def getParsed (v : View L) (key : String) (t : ValueType) : Reading :=
  match v.get? key with
  | none => .missing
  | some raw =>
    match t.read? (Text.trim raw.toList) with
    | some value => .read value
    | none => .unreadable raw

/-- What a text begins with and the rest, cut at the first separator; no rest without one. -/
def cutAt (sep : List Char) : List Char → List Char × Option (List Char)
  | [] => ([], none)
  | c :: s =>
    if sep.isPrefixOf (c :: s) then ([], some ((c :: s).drop sep.length))
    else
      let (front, rest) := cutAt sep s
      (c :: front, rest)

/-- The pieces between the separators; `fuel` bounds their number. -/
def splitFuel (sep : List Char) : Nat → List Char → List (List Char)
  | 0, s => [s]
  | fuel + 1, s =>
    match cutAt sep s with
    | (front, none) => [front]
    | (front, some rest) => front :: splitFuel sep fuel rest

/-- The pieces of a text between separators; the empty separator stands between all characters. -/
def splitOn (sep s : List Char) : List (List Char) :=
  if sep.isEmpty then s.map ([·]) else splitFuel sep (s.length + 1) s

/-- The items of a list value, without blanks around them and without empty ones. -/
def getList (v : View L) (key delimiter : String) : List String :=
  match v.get? key with
  | none => []
  | some raw =>
    (splitOn delimiter.toList raw.toList).filterMap fun item => Text.nonBlank? (String.ofList item)

/-- The keys, in the order of the snapshot. -/
def keys (v : View L) : List String := v.snapshot.entries.keys

/-- The namespace as one text. -/
def content? (v : View L) : Option String := v.format.content? v.snapshot.entries

/-- The namespace as flat entries. -/
def properties (v : View L) : Except Format.ViewError Entries := v.format.view v.snapshot.entries

/-! ## §2 Listeners -/

/-- Register a listener. -/
def subscribe (listener : L) (filter : ListenerFilter) (v : View L) : Nat × View L :=
  let (id, listeners) := v.listeners.subscribe listener filter
  (id, { v with listeners })

/-- Remove a listener. -/
def unsubscribe (id : Nat) (v : View L) : Bool × View L :=
  let (found, listeners) := v.listeners.unsubscribe id
  (found, { v with listeners })

end View

end LiveConfig
