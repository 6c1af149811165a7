import LiveConfig.Cache.Store

/-!
# Scenarios of the cache

Someone opens the cache below a directory, saves and loads snapshots, and changes the files behind
its back.
-/

namespace LiveConfig.Scenario

/-! ## §1 The beginning -/

/-- The place of the root directory. -/
def cacheRoot : Place := ["cache"]

/-- The files at the beginning: an empty root directory, or a file in its place. -/
def firstFiles (blocked : Bool) : Files :=
  Files.put cacheRoot (if blocked then .file (.text "") else .directory) {}

/-! ## §2 Steps -/

/-- A step of the scenario; paths start at the root. -/
inductive DiskStep
  | directory
  | path (ns : String)
  | save (ns : String) (s : Snapshot)
  | load (ns : String)
  | write (path text : String)
  | makeDirectory (path : String)
  | remove (path : String)
  /-- Open the cache of another application in place of the open one. -/
  | reopen (appId cluster : String)
  | files

/-- What a step gives. -/
inductive DiskResult
  | nothing
  | failed
  | text (s : String)
  | saved (written : Bool)
  | loaded (s : Option Snapshot)
  | files (list : List (String × Option String))

/-- The tree after an operation, or before it if the operation failed. -/
def orKeep (f : Files) : Except FileError Files → Files
  | .ok f => f
  | .error _ => f

/-- One step: the result, the open cache, and the tree. -/
def DiskStep.run (s : CacheStore) (f : Files) : DiskStep → DiskResult × CacheStore × Files
  | .directory => (.text (Files.trimStart s.dir), s, f)
  | .path ns => (.text (Files.trimStart (s.path ns)), s, f)
  | .save ns snapshot =>
    match s.save f ns snapshot with
    | (f, .written) => (.saved true, s, f)
    | (f, .skipped) => (.saved false, s, f)
    | (f, .failed) | (f, .crashed) => (.failed, s, f)
  | .load ns => (.loaded (s.load f ns), s, f)
  | .write name text => (.nothing, s, orKeep f (f.write cacheRoot name text))
  | .makeDirectory name => (.nothing, s, (f.makeDirectory cacheRoot name).1)
  | .remove name => (.nothing, s, f.removePath cacheRoot name)
  | .reopen appId cluster =>
    match CacheStore.openAt f cacheRoot appId cluster with
    | (f, .ok s) => (.nothing, s, f)
    | (f, .error _) => (.failed, s, f)
  | .files => (.files (f.listing cacheRoot), s, f)

/-- The results of steps one after the other. -/
def diskResults : List DiskStep → CacheStore → Files → List DiskResult
  | [], _, _ => []
  | step :: rest, s, f =>
    let (result, s, f) := step.run s f
    result :: diskResults rest s f

/-- **Open the cache and work with it.** -/
def disk (blocked : Bool) (appId cluster : String) (steps : List DiskStep) :
    Except FileError (List DiskResult) := do
  let (f, opened) := CacheStore.openAt (firstFiles blocked) cacheRoot appId cluster
  pure (diskResults steps (← opened) f)

end LiveConfig.Scenario
