import LiveConfig.Http.Error
import LiveConfig.Json.Record
import LiveConfig.Notify.Messages
import LiveConfig.Snapshot

/-!
# Fetching a namespace

The address that is asked for a release of a namespace, and the release in its answer.

## Main statements

- `release_snapshotOf`: a fetched snapshot has the release of the body and is remote.
-/

namespace LiveConfig

/-- The parameters of fetches. -/
structure FetchConfig where
  appId : String
  cluster : String
  dataCenter : Option String := none
  label : Option String := none
  clientIp : Option String := none
  timeout : Duration := .ofSecs 5
  maxAttempts : Nat := 3
  /-- Whether entries keep the order in which the server sends them. -/
  keepOrder : Bool := false
deriving DecidableEq

/-- What a server that answered says about a namespace. -/
inductive FetchOutcome
  /-- A release; it may be the one that is known. -/
  | updated (s : Snapshot)
  /-- The known release is current. -/
  | notModified
  /-- There is no such namespace. -/
  | notFound
deriving DecidableEq

namespace FetchConfig

/-- The query of a fetch: the known release, what is known of the client, and the messages that
announced a newer release. -/
def pairs (c : FetchConfig) (release : Option String) (messages : Option Messages) :
    List (String × String) :=
  let given (name : String) (value : Option String) := (value.map fun v => (name, v)).toList
  given "releaseKey" release ++ given "ip" c.clientIp ++ given "dataCenter" c.dataCenter
    ++ given "label" c.label
    ++ given "messages" ((messages.filter fun m => !m.isEmpty).map Messages.text)

/-- **The address of a fetch** at an instance. -/
def address (c : FetchConfig) (base ns : String) (release : Option String)
    (messages : Option Messages) : Except Http.CallError Url := do
  let u ← Http.address base ["configs", c.appId, c.cluster, ns]
  pure (u.withPairs (c.pairs release messages))

/-- A release as the server sends it. -/
structure Body where
  entries : Entries
  release : String

/-- The release in a body; entries may be left out. -/
def Body.ofTree? (t : Json.Tree) : Option Body :=
  match t.fields? [["configurations"], ["releaseKey"]] with
  | some [entries, release] => do
    pure {
      entries := ← Json.Tree.defaulted? .empty Json.Tree.entries? entries
      release := ← Json.Tree.required? Json.Tree.text? release }
  | _ => none

/-- The release in the text of a body. -/
def Body.read? (s : String) : Option Body := Json.readRecord? ofTree? s

/-- The snapshot of a body. -/
def snapshotOf (c : FetchConfig) (ns : String) (b : Body) : Snapshot :=
  ⟨ns, some b.release, .remote, if c.keepOrder then b.entries else b.entries.sortKeys⟩

/-- A fetched snapshot has the release of the body. -/
theorem release_snapshotOf (c : FetchConfig) (ns : String) (b : Body) :
    (c.snapshotOf ns b).release = some b.release ∧ (c.snapshotOf ns b).source = .remote :=
  ⟨rfl, rfl⟩

/-- What an answer says about a namespace. -/
def outcomeOf (c : FetchConfig) (ns : String) : Http.Outcome Body → FetchOutcome
  | .body b => .updated (c.snapshotOf ns b)
  | .notModified => .notModified
  | .notFound => .notFound

end FetchConfig

end LiveConfig
