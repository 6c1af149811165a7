import LiveConfig.Cache.Store
import LiveConfig.Proofs.Entries
import LiveConfig.Proofs.Json.Records

/-!
# Saving and loading

A release that has been saved is the one that the cache gives back: a record reads as it was
written, and the file that replaces another one is found at the same path.

## Why the path still leads there

A path is walked from the top through directories only. The new file and the one it replaces are no
directories, so nothing that a walk passes is removed or written over.

## Main statements

- `CacheRecord.read?_text`: what a record is written as reads as the record.
- `Files.read_replaced`: what replaces a file is read at its path.
- `CacheStore.holds_saveWith`: what has been saved is held.
-/

namespace LiveConfig

open Json (Tree)

/-! ## §1 Records -/

namespace CacheRecord

theorem integral_toJson (r : CacheRecord) : r.toJson.integral = true := by
  have hentries : (Json.object (r.entries.toList.map fun p => (p.1, .text p.2))).integral = true :=
    Json.integral_object fun _ _ => rfl
  simp [toJson, Json.integral, Json.integralMembers] at hentries ⊢
  exact hentries

theorem entries?_texts (e : Entries) :
    (Json.tree (.object (e.toList.map fun p => (p.1, .text p.2)))).entries? = some e := by
  have hpairs : Tree.pairs? Tree.text?
      (Json.tree (.object (e.toList.map fun p => (p.1, .text p.2)))) = some e.toList :=
    Tree.pairs?_treeMembers fun _ _ => rfl
  rw [Tree.entries?, hpairs, Option.map_some, Entries.ofList_toList]

/-- **What a record is written as reads as the record.** -/
theorem read?_text (r : CacheRecord) : read? r.text = some r := by
  have htree : Json.readTree? r.text.toList = some r.toJson.tree := by
    rw [text, Json.indentedText, String.toList_ofList]
    exact Json.readTree?_indented r.integral_toJson
  have hfields : r.toJson.tree.fields? [["appId"], ["cluster"], ["namespace"], ["releaseKey"],
        ["configurations"]]
      = some [some (.text r.appId), some (.text r.cluster), some (.text r.ns),
          some (.text r.release),
          some (Json.tree (.object (r.entries.toList.map fun p => (p.1, .text p.2))))] := rfl
  rw [read?, Json.readRecord?, htree, Option.bind_some, ofTree?, hfields]
  simp [Tree.required?, Tree.text?, entries?_texts]

end CacheRecord

/-! ## §2 Files -/

namespace Files

variable {f g : Files} {p q target new : Place} {name text path : String} {base : Place}

/-- A place that can be walked through: it and every place above it are directories. -/
def Open (f : Files) (p : Place) : Prop := ∀ q, q <+: p → f.get? q = some .directory

theorem open_nil : f.Open [] := by
  intro q hq
  rw [List.prefix_nil.1 hq]
  rfl

theorem Open.enter (hp : f.Open p) (h : f.get? (enter p name) = some .directory) :
    f.Open (enter p name) := by
  intro q hq
  unfold Files.enter at h hq
  split at hq
  · exact hp q (hq.trans p.dropLast_prefix)
  · next hname =>
    rw [if_neg hname] at h
    rcases List.prefix_concat_iff.1 hq with rfl | hq
    · exact h
    · exact hp q hq

/-- A walk leads to the same place wherever the directories that it passes are kept. -/
theorem walk_of_kept (hkept : ∀ p, f.Open p → g.get? p = some .directory) (hp : f.Open p)
    {names : List String} (h : f.walk p names = .ok target) : g.walk p names = .ok target := by
  induction names generalizing p with
  | nil => exact h
  | cons name rest ih =>
    cases rest with
    -- The last name is not entered, so whatever stands there does not matter.
    | nil => exact h
    | cons next rest =>
      rw [walk] at h ⊢
      · split at h
        · next hname =>
          rw [if_pos hname]
          split at h
          · next hdir =>
            have hopen := hp.enter hdir
            rw [hkept _ hopen]
            exact ih hopen h
          · cases h
          · cases h
        · cases h
      · simp
      · simp

theorem locate_of_kept (hkept : ∀ p, f.Open p → g.get? p = some .directory)
    (h : f.locate base path = .ok target) : g.locate base path = .ok target := by
  unfold locate at h ⊢
  cases hroute : route base path with
  | error e =>
    rw [hroute] at h
    cases h
  | ok names =>
    rw [hroute] at h
    exact walk_of_kept hkept open_nil h

theorem get?_of_writable (h : f.writable base path = .ok new) : f.get? new ≠ some .directory := by
  unfold writable at h
  cases hlocate : f.locate base path with
  | error e =>
    rw [hlocate] at h
    cases h
  | ok place =>
    rw [hlocate] at h
    by_cases hrefused : ending path ≠ .name ∨ f.get? place = some .directory
    · simp only [bind, Except.bind, if_pos hrefused] at h
      cases h
    · simp only [bind, Except.bind, if_neg hrefused] at h
      cases h
      exact fun hdir => hrefused (.inr hdir)

/-- **What replaces a file is read at its path.** -/
theorem read_replaced (hnew : f.get? new ≠ some .directory)
    (htarget : f.get? target ≠ some .directory) (hlocate : f.locate base path = .ok target) :
    ((f.remove new).put target (.file (.text text))).read base path = .ok text := by
  have hkept (p : Place) (hp : f.Open p) :
      ((f.remove new).put target (.file (.text text))).get? p = some .directory := by
    have hdir := hp p List.prefix_rfl
    -- Above an open place there are directories only, and the new file is none.
    have hbelow : new.isPrefixOf p = false := by
      rw [Bool.eq_false_iff]
      intro hprefix
      exact hnew (hp new (List.isPrefixOf_iff_prefix.1 hprefix))
    by_cases hroot : p = []
    · rw [hroot]
      rfl
    · have hother : p ≠ target := by
        rintro rfl
        exact htarget hdir
      rw [get?_put _ _ _ _ hroot, if_neg hother, get?_remove_of_not_under _ _ _ hbelow, hdir]
  have hroot : target ≠ [] := by
    rintro rfl
    exact htarget rfl
  have hget : ((f.remove new).put target (.file (.text text))).get? target = some (.file (.text text)) := by
    rw [get?_put _ _ _ _ hroot, if_pos rfl]
  rw [read, locate_of_kept hkept hlocate]
  simp only [bind, Except.bind, hget]
  rfl

end Files

/-! ## §3 Saving and loading -/

namespace CacheStore

variable {c : CacheStore} {f g : Files} {ns : String} {fault : Option Fault} {snapshot : Snapshot}

theorem replaceFile_done {new target : Place} {text : String}
    (h : replaceFile fault f new target text = (g, .done)) :
    f.get? target ≠ some .directory ∧ g = (f.remove new).put target (.file (.text text)) := by
  have hstopped (fault : Fault) (f : Files) : stopped fault new f ≠ (g, .done) := by
    unfold stopped
    split
    · simp
    · split <;> simp
  unfold replaceFile at h
  split at h
  · split at h
    · cases h
    · next hfile =>
      cases h
      exact ⟨hfile, rfl⟩
  · -- A replacement that is stopped is not done, wherever it is stopped.
    split at h
    · split at h <;> cases h
    · exact absurd h (hstopped _ _)
    · exact absurd h (hstopped _ _)
    · exact absurd h (hstopped _ _)

theorem read_of_written {r : CacheRecord} (h : c.writeRecord fault f ns r = (g, .written)) :
    g.read c.base (c.path ns) = .ok r.text := by
  unfold writeRecord at h
  dsimp only at h
  split at h
  · next new target hnew htarget =>
    split at h
    · next hdone =>
      cases h
      obtain ⟨hfile, rfl⟩ := replaceFile_done hdone
      exact Files.read_replaced (Files.get?_of_writable hnew) hfile htarget
    · cases h
    · cases h
  · cases h

/-- A record is never left unwritten without a failure. -/
theorem writeRecord_ne_skipped (fault : Option Fault) (c : CacheStore) (f : Files) (ns : String)
    (r : CacheRecord) : (c.writeRecord fault f ns r).2 ≠ .skipped := by
  unfold writeRecord
  dsimp only
  split
  · split <;> simp
  · simp

/-- The cache holds what a snapshot shows: its release, with the same value for every key. -/
def Holds (c : CacheStore) (f : Files) (ns : String) (s : Snapshot) : Prop :=
  ∃ cached, c.load f ns = some cached ∧ cached.release = s.release
    ∧ ∀ k, cached.get? k = s.get? k

theorem load_of_lookUp {r : CacheRecord} (h : c.lookUp f ns = .found r) :
    c.load f ns = some r.toSnapshot := by
  rw [load, h]
  rfl

theorem holds_of_lookUp {r : CacheRecord} (h : c.lookUp f ns = .found r)
    (hrelease : snapshot.release = some r.release)
    (hentries : ∀ k, r.entries.get? k = snapshot.get? k) : c.Holds f ns snapshot := by
  refine ⟨r.toSnapshot, ?_, hrelease.symm, hentries⟩
  rw [load, h]
  rfl

theorem lookUp_of_written {r : CacheRecord} (h : (c.writeRecord fault f ns r).2 = .written) :
    c.lookUp (c.writeRecord fault f ns r).1 ns = .found r := by
  rw [lookUp, read_of_written (Prod.ext rfl h)]
  simp only [CacheRecord.read?_text]

/-- The record of a snapshot that has a release. -/
theorem ofSnapshot?_of_release (c : CacheStore) (ns : String) {release : String}
    (h : snapshot.release = some release) :
    CacheRecord.ofSnapshot? c.appId c.cluster ns snapshot
      = some ⟨c.appId, c.cluster, ns, release, snapshot.entries⟩ := by
  rw [CacheRecord.ofSnapshot?, h]
  rfl

/-- What saving a record does: nothing if the file that is there says the same. -/
theorem saveWith_cases (fault : Option Fault) (f : Files) {r : CacheRecord}
    (hrecord : CacheRecord.ofSnapshot? c.appId c.cluster ns snapshot = some r) :
    (∃ old, c.lookUp f ns = .found old ∧ old.agrees r = true
        ∧ c.saveWith fault f ns snapshot = (f, .skipped))
      ∨ c.saveWith fault f ns snapshot = c.writeRecord fault f ns r := by
  simp only [saveWith, hrecord]
  cases hfound : c.lookUp f ns with
  | absent => exact .inr rfl
  | unreadable => exact .inr rfl
  | found old =>
    by_cases hagrees : old.agrees r = true
    · exact .inl ⟨old, rfl, hagrees, if_pos hagrees⟩
    · exact .inr (if_neg hagrees)

theorem lookUp_of_saveWith (h : (c.saveWith fault f ns snapshot).2 = .written) :
    ∃ r, CacheRecord.ofSnapshot? c.appId c.cluster ns snapshot = some r
      ∧ c.lookUp (c.saveWith fault f ns snapshot).1 ns = .found r := by
  cases hrecord : CacheRecord.ofSnapshot? c.appId c.cluster ns snapshot with
  | none =>
    rw [saveWith, hrecord] at h
    cases h
  | some r =>
    rcases saveWith_cases fault f hrecord with ⟨old, -, -, hsave⟩ | hsave
    · rw [hsave] at h
      cases h
    · rw [hsave] at h ⊢
      exact ⟨r, rfl, lookUp_of_written h⟩

/-- **What has been saved is held**: a snapshot of a release whose saving did not fail, because it
was written or because the file said the same already, is what the cache gives back. -/
theorem holds_saveWith (hrelease : snapshot.release.isSome = true)
    (hsaved : (c.saveWith fault f ns snapshot).2 = .written
      ∨ (c.saveWith fault f ns snapshot).2 = .skipped) :
    c.Holds (c.saveWith fault f ns snapshot).1 ns snapshot := by
  obtain ⟨release, hrelease⟩ := Option.isSome_iff_exists.1 hrelease
  have hrecord := ofSnapshot?_of_release c ns hrelease
  rcases saveWith_cases fault f hrecord with ⟨old, hfound, hagrees, hsave⟩ | hsave
  · -- The old file says the same, but may list its entries in another order.
    rw [hsave]
    simp only [CacheRecord.agrees, Bool.and_eq_true, decide_eq_true_eq] at hagrees
    obtain ⟨⟨-, hsame⟩, hentries⟩ := hagrees
    have holdRelease : snapshot.release = some old.release := by rw [hrelease, hsame]
    exact holds_of_lookUp hfound holdRelease (Entries.get?_of_agrees hentries)
  · rw [hsave] at hsaved ⊢
    have hwritten := hsaved.resolve_right (writeRecord_ne_skipped fault c f ns _)
    exact holds_of_lookUp (lookUp_of_written hwritten) hrelease fun _ => rfl

end CacheStore

end LiveConfig
