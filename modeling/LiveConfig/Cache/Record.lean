import LiveConfig.Json.Printer
import LiveConfig.Json.Record
import LiveConfig.Snapshot

/-!
# Cache records

What a cache file says: the release of a namespace with its entries, and for which application and
cluster it was fetched.
-/

namespace LiveConfig

/-- The content of a cache file. -/
structure CacheRecord where
  appId : String
  cluster : String
  ns : String
  release : String
  entries : Entries
deriving DecidableEq

namespace CacheRecord

/-- The record of a release, if the snapshot has one. -/
def ofSnapshot? (appId cluster ns : String) (s : Snapshot) : Option CacheRecord :=
  s.release.map fun release => ⟨appId, cluster, ns, release, s.entries⟩

/-- The snapshot that a record holds. -/
def toSnapshot (r : CacheRecord) : Snapshot := ⟨r.ns, some r.release, .localFallback, r.entries⟩

/-- Whether two records say the same; the order of the entries does not count. -/
def agrees (a b : CacheRecord) : Bool :=
  a.appId = b.appId && a.cluster = b.cluster && a.ns = b.ns && a.release = b.release
    && a.entries.agrees b.entries

/-- The record as a document. -/
def toJson (r : CacheRecord) : Json :=
  .object
    [("appId", .text r.appId),
     ("cluster", .text r.cluster),
     ("namespace", .text r.ns),
     ("releaseKey", .text r.release),
     ("configurations", .object (r.entries.toList.map fun p => (p.1, .text p.2)))]

/-- The text of a cache file. -/
def text (r : CacheRecord) : String := Json.indentedText r.toJson

/-- The record of a document. -/
def ofTree? (t : Json.Tree) : Option CacheRecord :=
  match t.fields? [["appId"], ["cluster"], ["namespace"], ["releaseKey"], ["configurations"]] with
  | some [appId, cluster, ns, release, entries] => do
    pure {
      appId := ← Json.Tree.required? Json.Tree.text? appId
      cluster := ← Json.Tree.required? Json.Tree.text? cluster
      ns := ← Json.Tree.required? Json.Tree.text? ns
      release := ← Json.Tree.required? Json.Tree.text? release
      entries := ← Json.Tree.required? Json.Tree.entries? entries }
  | _ => none

/-- The record that a text holds. -/
def read? (s : String) : Option CacheRecord := Json.readRecord? ofTree? s

end CacheRecord

end LiveConfig
