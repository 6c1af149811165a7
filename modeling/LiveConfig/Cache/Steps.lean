import LiveConfig.Cache.Store

/-!
# The steps of a save

What a save does to the tree of files, one step after the other. A program that dies leaves the tree
as it is at that moment, so whatever can be found after a crash is the tree of some moment.

## What is left open

While the new file is being written, the disk may hold any part of its text, and after a crash even
something else. Only when it has been synced it is known to hold the whole text.
-/

namespace LiveConfig.CacheStore

/-- How far a save has come. -/
inductive Progress
  /-- There is nothing to write. -/
  | skipped
  /-- There is no new file yet. -/
  | begun
  | writing
  | synced
  /-- The new file has taken the place of the old one. -/
  | replaced
  /-- A step has failed, and nothing has been cleaned up yet. -/
  | failing
  /-- A step has failed, and the new file has been removed. -/
  | removed
  /-- A step has failed, and no new file could be removed. -/
  | left
deriving DecidableEq, Repr

/-- What a save is answered with; one that does not come further has crashed. -/
def Progress.outcome : Progress → Saved
  | skipped => .skipped
  | replaced => .written
  | removed | left => .failed
  | begun | writing | synced | failing => .crashed

/-- What a save is answered with when the replacement ends so. -/
def Ending.saved : Ending → Saved
  | done => .written
  | failed => .failed
  | crashed => .crashed

/-- One step of replacing a file. -/
inductive ReplaceStep (new target : Place) (text : String) :
    Files → Progress → Files → Progress → Prop
  | create {f : Files} :
      ReplaceStep new target text f .begun (f.put new (.file (.text ""))) .writing
  | write {f : Files} (held : FileContents) :
      ReplaceStep new target text f .writing (f.put new (.file held)) .writing
  | sync {f : Files} (hheld : f.get? new = some (.file (.text text))) :
      ReplaceStep new target text f .writing f .synced
  /-- No file can be renamed onto a directory. -/
  | rename {f : Files} {held : FileContents} (hheld : f.get? new = some (.file held))
      (htarget : f.get? target ≠ some .directory) :
      ReplaceStep new target text f .synced ((f.remove new).put target (.file held)) .replaced
  | fail {f : Files} {p : Progress} (hbusy : p ∈ [.begun, .writing, .synced]) :
      ReplaceStep new target text f p f .failing
  | remove {f : Files} : ReplaceStep new target text f .failing (f.remove new) .removed
  | leave {f : Files} : ReplaceStep new target text f .failing f .left

/-- **The moments of replacing a file**: the trees that its steps lead to. -/
inductive Replacing (new target : Place) (text : String) (f : Files) : Files → Progress → Prop
  | begun : Replacing new target text f f .begun
  | step {g g' : Files} {p p' : Progress} :
      Replacing new target text f g p → ReplaceStep new target text g p g' p' →
      Replacing new target text f g' p'

/-- The path of the new file for a namespace, with a number of its own. -/
def newPath (s : CacheStore) (number ns : String) : String :=
  Files.withFileName (s.path ns) (temporaryName (Files.fileName (s.path ns)) number)

/-- **The moments of a save**: there is nothing to write, there is no place to write to, or the file
of the namespace is being replaced. -/
inductive Saving (s : CacheStore) (number : String) (f : Files) (ns : String) (snap : Snapshot) :
    Files → Progress → Prop
  | unreleased (hnone : CacheRecord.ofSnapshot? s.appId s.cluster ns snap = none) :
      Saving s number f ns snap f .skipped
  | same {r old : CacheRecord}
      (hrecord : CacheRecord.ofSnapshot? s.appId s.cluster ns snap = some r)
      (hold : s.lookUp f ns = .found old) (hagrees : old.agrees r = true) :
      Saving s number f ns snap f .skipped
  | astray {r : CacheRecord}
      (hrecord : CacheRecord.ofSnapshot? s.appId s.cluster ns snap = some r)
      (hdiffers : ∀ old, s.lookUp f ns = .found old → old.agrees r = false)
      (hnowhere : ∀ new target, f.writable s.base (s.newPath number ns) = .ok new →
        f.locate s.base (s.path ns) ≠ .ok target) :
      Saving s number f ns snap f .left
  | replacing {r : CacheRecord} {new target : Place} {g : Files} {p : Progress}
      (hrecord : CacheRecord.ofSnapshot? s.appId s.cluster ns snap = some r)
      (hdiffers : ∀ old, s.lookUp f ns = .found old → old.agrees r = false)
      (hnew : f.writable s.base (s.newPath number ns) = .ok new)
      (htarget : f.locate s.base (s.path ns) = .ok target)
      (hsteps : Replacing new target r.text f g p) : Saving s number f ns snap g p

end LiveConfig.CacheStore
