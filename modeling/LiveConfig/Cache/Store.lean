import LiveConfig.Cache.Files
import LiveConfig.Cache.Record

/-!
# The local cache

One file per namespace keeps the last accepted release, so that a restart without the service has
something to serve. A file is replaced by writing a new one beside it and renaming that.

## Steps of a replacement

A replacement creates the new file, writes it, syncs it, and renames it. A `Fault` says at which
`Stage` it is stopped, and whether the step fails or the whole program dies.

## Main statements

- `load_eq_of_read`: loading depends on the text at the path of the namespace alone.
-/

namespace LiveConfig

/-- The cache of one application in one cluster, below a root directory. -/
structure CacheStore where
  /-- The root directory. -/
  base : Place
  /-- The directory of the cache files, as a path from the root. -/
  dir : String
  appId : String
  cluster : String
deriving DecidableEq, Repr

namespace CacheStore

/-! ## §1 Paths -/

/-- The directory of an application. -/
def dirOf (appId : String) : String := Files.join (Files.join "" appId) "config-cache"

/-- Open the cache, making its directory. -/
def openAt (f : Files) (base : Place) (appId cluster : String) :
    Files × Except FileError CacheStore :=
  let (f, made) := f.makeDirectory base (dirOf appId)
  (f, made.map fun _ => ⟨base, dirOf appId, appId, cluster⟩)

/-- The path of the file of a namespace. -/
def path (s : CacheStore) (ns : String) : String :=
  Files.join s.dir (s.appId ++ "+" ++ s.cluster ++ "+" ++ ns ++ ".json")

/-! ## §2 Reading -/

/-- What is found in the cache. -/
inductive Loaded
  | absent
  | unreadable
  | found (r : CacheRecord)
deriving DecidableEq

/-- What the file of a namespace holds. -/
def lookUp (s : CacheStore) (f : Files) (ns : String) : Loaded :=
  match f.read s.base (s.path ns) with
  | .error .notFound => .absent
  | .error _ => .unreadable
  | .ok text =>
    match CacheRecord.read? text with
    | some r => .found r
    | none => .unreadable

/-- The snapshot in a record that has been found. -/
def Loaded.snapshot? : Loaded → Option Snapshot
  | .found r => some r.toSnapshot
  | .absent | .unreadable => none

/-- **The snapshot of a namespace in the cache**, if there is a readable one. -/
def load (s : CacheStore) (f : Files) (ns : String) : Option Snapshot :=
  (s.lookUp f ns).snapshot?

/-- Loading depends on the text at the path of the namespace alone. -/
theorem load_eq_of_read (s : CacheStore) (f g : Files) (ns : String)
    (h : f.read s.base (s.path ns) = g.read s.base (s.path ns)) : s.load f ns = s.load g ns := by
  simp [load, lookUp, h]

/-! ## §3 Replacing a file -/

/-- Where a replacement is stopped. -/
inductive Stage
  | creating
  /-- After so many bytes. -/
  | writing (written : Nat)
  | syncing
  | renaming
deriving DecidableEq, Repr

/-- How a replacement is stopped. -/
structure Fault where
  stage : Stage
  /-- The program dies, so that nothing is cleaned up; otherwise the step reports an error. -/
  crash : Bool
  /-- Removing the new file fails too. -/
  cleanupFails : Bool := false
deriving DecidableEq, Repr

/-- How a replacement ends. -/
inductive Ending
  | done
  | failed
  | crashed
deriving DecidableEq, Repr

/-- The tree and the end of a replacement that is stopped after the new file was created. -/
def stopped (fault : Fault) (temporary : Place) (f : Files) : Files × Ending :=
  if fault.crash then (f, .crashed)
  else if fault.cleanupFails then (f, .failed)
  else (f.remove temporary, .failed)

/-- **Replace a file** through a new one beside it. -/
def replaceFile (fault : Option Fault) (f : Files) (temporary target : Place) (text : String) :
    Files × Ending :=
  match fault with
  | none =>
    -- No file can be renamed onto a directory.
    if f.get? target = some .directory then (f.remove temporary, .failed)
    else ((f.remove temporary).put target (.file (.text text)), .done)
  | some fault =>
    match fault.stage with
    | .creating => (f, if fault.crash then .crashed else .failed)
    | .writing n =>
      let held := FileContents.ofBytes (text.toUTF8.data.toList.take n)
      stopped fault temporary (f.put temporary (.file held))
    | .syncing | .renaming => stopped fault temporary (f.put temporary (.file (.text text)))

/-- The name of the new file: hidden, with a number of its own. -/
def temporaryName (name suffix : String) : String := "." ++ name ++ "." ++ suffix ++ ".tmp"

/-- A number for a new file, as long as those that the program uses. -/
def temporarySuffix : String := "100.00000000"

/-! ## §4 Saving -/

/-- Whether a file was written. -/
inductive Saved
  /-- Nothing to write: the snapshot has no release, or the file says the same already. -/
  | skipped
  | written
  | failed
  | crashed
deriving DecidableEq, Repr

/-- Write a record, stopped by a fault if one is given. -/
def writeRecord (fault : Option Fault) (s : CacheStore) (f : Files) (ns : String)
    (r : CacheRecord) : Files × Saved :=
  let path := s.path ns
  let temporary := Files.withFileName path (temporaryName (Files.fileName path) temporarySuffix)
  match f.writable s.base temporary, f.locate s.base path with
  | .ok new, .ok target =>
    match replaceFile fault f new target r.text with
    | (f, .done) => (f, .written)
    | (f, .failed) => (f, .failed)
    | (f, .crashed) => (f, .crashed)
  | _, _ => (f, .failed)

/-- Save a snapshot under a namespace, stopped by a fault if one is given. -/
def saveWith (fault : Option Fault) (s : CacheStore) (f : Files) (ns : String) (snap : Snapshot) :
    Files × Saved :=
  match CacheRecord.ofSnapshot? s.appId s.cluster ns snap with
  | none => (f, .skipped)
  | some r =>
    match s.lookUp f ns with
    | .found old => if old.agrees r then (f, .skipped) else s.writeRecord fault f ns r
    | .absent | .unreadable => s.writeRecord fault f ns r

/-- **Save a snapshot** under a namespace. -/
def save (s : CacheStore) (f : Files) (ns : String) (snap : Snapshot) : Files × Saved :=
  s.saveWith none f ns snap

end CacheStore

end LiveConfig
