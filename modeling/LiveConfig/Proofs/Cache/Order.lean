import LiveConfig.Proofs.Cache.Saving

/-!
# The order of what is loaded

A snapshot that has been saved is loaded again with its release and all its values. Their order is
another matter: a file that says the same in another order is not written again.

## Main statements

- `CacheStore.load_saved`: what is loaded after a save, and when its order is the saved one.
-/

namespace LiveConfig.CacheStore

variable {c : CacheStore} {f : Files} {ns : String} {fault : Option Fault} {snapshot : Snapshot}

/-- **What is loaded after a save that did not fail**: the release that was saved, with a
rearrangement of its entries. The order is the one that was saved exactly if the file was written,
or listed its entries in this order before. -/
theorem load_saved (hrelease : snapshot.release.isSome = true)
    (hsaved : (c.saveWith fault f ns snapshot).2 = .written
      ∨ (c.saveWith fault f ns snapshot).2 = .skipped) :
    ∃ cached, c.load (c.saveWith fault f ns snapshot).1 ns = some cached
      ∧ cached.ns = ns ∧ cached.source = .localFallback ∧ cached.release = snapshot.release
      ∧ cached.entries.toList.Perm snapshot.entries.toList
      ∧ (cached.entries = snapshot.entries ↔
        (c.saveWith fault f ns snapshot).2 = .written
          ∨ ∃ old, c.load f ns = some old ∧ old.entries = snapshot.entries) := by
  obtain ⟨release, hrelease⟩ := Option.isSome_iff_exists.1 hrelease
  have hrecord := ofSnapshot?_of_release c ns hrelease
  rcases saveWith_cases fault f hrecord with ⟨old, hfound, hagrees, hsave⟩ | hsave
  · -- The old file stays, and with it the order that it has.
    rw [hsave]
    have hold := load_of_lookUp hfound
    simp only [CacheRecord.agrees, Bool.and_eq_true, decide_eq_true_eq] at hagrees
    obtain ⟨⟨⟨-, hns⟩, hsame⟩, hentries⟩ := hagrees
    refine ⟨old.toSnapshot, hold, hns, rfl, ?_, Entries.agrees_iff.1 hentries, ?_⟩
    · rw [hrelease, ← hsame]
      rfl
    · constructor
      · intro horder
        exact .inr ⟨old.toSnapshot, hold, horder⟩
      · rintro (hwritten | ⟨before, hbefore, horder⟩)
        · cases hwritten
        · rw [hold] at hbefore
          obtain rfl := Option.some.inj hbefore
          exact horder
  · rw [hsave] at hsaved ⊢
    have hwritten := hsaved.resolve_right (writeRecord_ne_skipped fault c f ns _)
    refine ⟨_, load_of_lookUp (lookUp_of_written hwritten), rfl, rfl, hrelease.symm, .refl _, ?_⟩
    constructor
    · intro
      exact .inl hwritten
    · intro
      rfl

/-- The cache of the first save below an empty directory. -/
theorem load_saved_first_save :
    ∃ (c : CacheStore) (f : Files) (snapshot cached : Snapshot),
      CacheStore.openAt ⟨[(["cache"], .directory)]⟩ ["cache"] "demo" "default" = (f, .ok c)
        ∧ snapshot.entries.toList = [("b", "2"), ("a", "1")]
        ∧ (c.save f "application" snapshot).2 = .written
        ∧ c.load (c.save f "application" snapshot).1 "application" = some cached
        ∧ cached.entries = snapshot.entries := by
  let c : CacheStore := ⟨["cache"], "demo/config-cache", "demo", "default"⟩
  let f : Files :=
    (openAt ⟨[(["cache"], .directory)]⟩ ["cache"] "demo" "default").1
  let snapshot : Snapshot := ⟨"application", some "r1", .remote, .ofList [("b", "2"), ("a", "1")]⟩
  have hwritten : (c.saveWith none f "application" snapshot).2 = .written := by decide +kernel
  obtain ⟨cached, hload, -, -, -, -, horder⟩ := load_saved rfl (.inl hwritten)
  exact ⟨c, f, snapshot, cached, by decide +kernel, rfl, hwritten, hload, horder.2 (.inl hwritten)⟩

/-- What says the same as the snapshot that was written last is not written again. -/
theorem save_of_agrees {first second : Snapshot} (hwritten : (c.save f ns first).2 = .written)
    (hrelease : second.release = first.release)
    (hagrees : first.entries.agrees second.entries = true) :
    c.save (c.save f ns first).1 ns second = ((c.save f ns first).1, .skipped)
      ∧ c.load (c.save f ns first).1 ns = some { first with ns, source := .localFallback } := by
  obtain ⟨r, hrecord, hfound⟩ := lookUp_of_saveWith hwritten
  change c.lookUp (c.save f ns first).1 ns = .found r at hfound
  obtain ⟨release, hfirst, rfl⟩ := Option.map_eq_some_iff.1 hrecord
  constructor
  · rw [save, saveWith, CacheRecord.ofSnapshot?, hrelease, hfirst, Option.map_some]
    simp [hfound, CacheRecord.agrees, hagrees]
  · rw [load_of_lookUp hfound, CacheRecord.toSnapshot, hfirst]

/-- **A new order is not saved**: the release is saved with its entries in one order, then in the
other one, and what is loaded is in the first. -/
theorem first_order_kept :
    ∃ (c : CacheStore) (empty f : Files) (first second cached : Snapshot),
      openAt ⟨[(["cache"], .directory)]⟩ ["cache"] "demo" "default" = (empty, .ok c)
        ∧ first.release = some "r1" ∧ first.entries.toList = [("a", "1"), ("b", "2")]
        ∧ second.release = some "r1" ∧ second.entries.toList = [("b", "2"), ("a", "1")]
        ∧ (c.save empty "application" first).1 = f
        ∧ (c.save empty "application" first).2 = .written
        ∧ c.save f "application" second = (f, .skipped)
        ∧ c.load f "application" = some cached
        ∧ cached.entries.toList = [("a", "1"), ("b", "2")] := by
  let c : CacheStore := ⟨["cache"], "demo/config-cache", "demo", "default"⟩
  let empty : Files := ⟨[(["cache", "demo", "config-cache"], .directory),
    (["cache", "demo"], .directory), (["cache"], .directory)]⟩
  let first : Snapshot := ⟨"application", some "r1", .remote, .ofList [("a", "1"), ("b", "2")]⟩
  let second : Snapshot := ⟨"application", some "r1", .remote, .ofList [("b", "2"), ("a", "1")]⟩
  have hwritten : (c.save empty "application" first).2 = .written := by decide +kernel
  have hrelease : second.release = first.release := rfl
  have hagrees : first.entries.agrees second.entries = true := by decide +kernel
  obtain ⟨hskipped, hload⟩ := save_of_agrees hwritten hrelease hagrees
  exact ⟨c, empty, _, first, second, _, by decide +kernel, rfl, rfl, rfl, rfl, rfl, hwritten,
    hskipped, hload, rfl⟩

end LiveConfig.CacheStore
