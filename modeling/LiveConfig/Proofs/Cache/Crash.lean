import LiveConfig.Cache.Steps
import LiveConfig.Proofs.Cache.Paths
import LiveConfig.Proofs.Namespace

/-!
# Saves that are stopped

A save can fail at each of its steps, and the program can die after each of them. Whatever happens,
the old file or the new one is loaded, and no other file is touched.

## Layers

- **One place**: a change at one place leaves what is read elsewhere (`Files.ChangedAt`).
- **One file**: the trees that replacing a file leads to (`CacheStore.Standing`), by one lemma for a
  step and one for all of them.
- **One save**: what is loaded then, for the namespace that is saved and for the others.

## Main statements

- `Files.ChangedAt.read_iff`: what is read elsewhere stays.
- `CacheStore.standing_of_replacing`: the trees that replacing a file leads to.
- `CacheStore.crash_safe`: what is loaded after a save that was stopped anywhere.
-/

namespace LiveConfig

namespace Files

variable {f g : Files} {base p q x : Place} {path text : String}

/-! ## §1 A change at one place -/

/-- A tree in which something has changed at a place that was no directory. There may be another
file, or nothing any more, but no new directory. -/
structure ChangedAt (x : Place) (f g : Files) : Prop where
  was : f.get? x ≠ some .directory
  apart : ∀ q, ¬x <+: q → g.get? q = f.get? q
  below : ∀ q, x <+: q → g.get? q = some .directory → f.get? q = some .directory

theorem changedAt_refl (h : f.get? x ≠ some .directory) : ChangedAt x f f where
  was := h
  apart _ _ := rfl
  below _ _ hdir := hdir

theorem ne_nil_of_get? (h : f.get? x ≠ some .directory) : x ≠ [] := by
  rintro rfl
  exact h rfl

theorem changedAt_put (h : f.get? x ≠ some .directory) (held : FileContents) :
    ChangedAt x f (f.put x (.file held)) := by
  refine ⟨h, ?apart, ?below⟩
  case apart =>
    intro q hq
    by_cases hroot : q = []
    · rw [hroot]
      rfl
    · have hne : q ≠ x := by
        rintro rfl
        exact hq List.prefix_rfl
      rw [get?_put _ _ _ _ hroot, if_neg hne]
  case below =>
    intro q hq hdir
    have hroot : q ≠ [] := by
      rintro rfl
      exact ne_nil_of_get? h (List.prefix_nil.1 hq)
    rw [get?_put _ _ _ _ hroot] at hdir
    split at hdir
    · cases hdir
    · exact hdir

theorem changedAt_remove (h : f.get? x ≠ some .directory) : ChangedAt x f (f.remove x) := by
  refine ⟨h, ?apart, ?below⟩
  case apart =>
    intro q hq
    apply get?_remove_of_not_under
    rw [Bool.eq_false_iff]
    intro hprefix
    exact hq (List.isPrefixOf_iff_prefix.1 hprefix)
  case below =>
    intro q hq hdir
    have hroot : q ≠ [] := by
      rintro rfl
      exact ne_nil_of_get? h (List.prefix_nil.1 hq)
    rw [get?_remove_of_under _ _ _ hroot (List.isPrefixOf_iff_prefix.2 hq)] at hdir
    cases hdir

namespace ChangedAt

/-- Nothing that can be walked through was changed. -/
theorem kept (h : ChangedAt x f g) (hp : f.Open p) : g.get? p = some .directory := by
  have hapart : ¬x <+: p := by
    intro hx
    exact h.was (hp x hx)
  rw [h.apart p hapart]
  exact hp p List.prefix_rfl

theorem was_directory (h : ChangedAt x f g) (hp : g.get? p = some .directory) :
    f.get? p = some .directory := by
  by_cases hx : x <+: p
  · exact h.below p hx hp
  · rw [← h.apart p hx]
    exact hp

/-- A path leads where it led. -/
theorem locate_iff (h : ChangedAt x f g) :
    g.locate base path = .ok q ↔ f.locate base path = .ok q := by
  constructor
  · intro hlocate
    apply locate_of_kept _ hlocate
    intro p hp
    exact h.was_directory (hp p List.prefix_rfl)
  · intro hlocate
    exact locate_of_kept (fun _ hp => h.kept hp) hlocate

theorem get?_of_locate (h : ChangedAt x f g) (hlocate : f.locate base path = .ok q) (hq : q ≠ x) :
    g.get? q = f.get? q := by
  apply h.apart
  intro hx
  -- What changed was no directory, so it is not above the place of a path.
  exact h.was (get?_of_above hlocate hx hq.symm)

theorem read_eq (h : ChangedAt x f g) (hlocate : f.locate base path = .ok q) (hq : q ≠ x) :
    g.read base path = f.read base path := by
  rw [read, read, h.locate_iff.2 hlocate, hlocate]
  simp only [bind, Except.bind, h.get?_of_locate hlocate hq]

/-- **What is read elsewhere stays.** -/
theorem read_iff (h : ChangedAt x f g) (hq : ∀ q, f.locate base path = .ok q → q ≠ x) :
    g.read base path = .ok text ↔ f.read base path = .ok text := by
  have hlocated (g : Files) (hread : g.read base path = .ok text) :
      ∃ q, g.locate base path = .ok q := by
    unfold read at hread
    cases hlocate : g.locate base path with
    | error e =>
      rw [hlocate] at hread
      cases hread
    | ok q => exact ⟨q, rfl⟩
  constructor
  · intro hread
    obtain ⟨q, hlocate⟩ := hlocated g hread
    rw [h.locate_iff] at hlocate
    rw [← h.read_eq hlocate (hq q hlocate)]
    exact hread
  · intro hread
    obtain ⟨q, hlocate⟩ := hlocated f hread
    rw [h.read_eq hlocate (hq q hlocate)]
    exact hread

end ChangedAt

end Files

namespace CacheStore

variable {c : CacheStore} {f g g' : Files} {new target q : Place} {p p' : Progress}
  {number ns other text : String} {snapshot : Snapshot}

/-! ## §2 Replacing a file -/

/-- The trees at each moment of replacing a file. -/
def Standing (new target : Place) (text : String) (f g : Files) : Progress → Prop
  | .skipped => False
  | .begun => g = f
  | .writing => ∃ held, g = f.put new (.file held)
  | .synced => g = f.put new (.file (.text text))
  | .replaced =>
    f.get? target ≠ some .directory ∧ g = (f.remove new).put target (.file (.text text))
  | .failing | .left => g = f ∨ ∃ held, g = f.put new (.file held)
  | .removed => g = f.remove new

theorem get?_put_self (hnew : f.get? new ≠ some .directory) (held : FileContents) :
    (f.put new (.file held)).get? new = some (.file held) := by
  rw [Files.get?_put _ _ _ _ (Files.ne_nil_of_get? hnew), if_pos rfl]

/-- What a step leads to is foreseen. -/
theorem standing_of_step (hnew : f.get? new ≠ some .directory) (hne : target ≠ new)
    (h : Standing new target text f g p) (hstep : ReplaceStep new target text g p g' p') :
    Standing new target text f g' p' := by
  cases hstep with
  | create =>
    obtain rfl : g = f := h
    exact ⟨.text "", rfl⟩
  | write held =>
    obtain ⟨before, rfl⟩ := h
    exact ⟨held, Files.put_put ..⟩
  | sync hheld =>
    obtain ⟨held, rfl⟩ := h
    -- What has been synced is the whole text.
    rw [get?_put_self hnew] at hheld
    obtain rfl : held = .text text := by simpa using hheld
    rfl
  | rename hheld htarget =>
    obtain rfl : g = f.put new (.file (.text text)) := h
    rw [get?_put_self hnew] at hheld
    obtain rfl := by simpa using hheld
    refine ⟨?_, by rw [Files.remove_put]⟩
    by_cases hroot : target = []
    · rw [hroot] at htarget
      exact absurd rfl htarget
    · rwa [Files.get?_put _ _ _ _ hroot, if_neg hne] at htarget
  | fail hbusy =>
    cases p with
    | begun => exact .inl h
    | writing => exact .inr h
    | synced => exact .inr ⟨.text text, h⟩
    | skipped | replaced | failing | removed | left => simp at hbusy
  | remove =>
    rcases h with rfl | ⟨held, rfl⟩
    · rfl
    · exact Files.remove_put ..
  | leave => exact h

/-- **The trees that replacing a file leads to.** -/
theorem standing_of_replacing (hnew : f.get? new ≠ some .directory) (hne : target ≠ new)
    (h : Replacing new target text f g p) : Standing new target text f g p := by
  induction h with
  | begun => rfl
  | step _ hstep ih => exact standing_of_step hnew hne ih hstep

/-- As long as the old file is not replaced, only the new one is touched. -/
theorem changedAt_of_standing (hnew : f.get? new ≠ some .directory)
    (h : Standing new target text f g p) (hp : p ≠ .replaced) : Files.ChangedAt new f g := by
  have hput (held : FileContents) := Files.changedAt_put hnew held
  have hfailed (h : g = f ∨ ∃ held, g = f.put new (.file held)) : Files.ChangedAt new f g := by
    rcases h with rfl | ⟨held, rfl⟩
    · exact Files.changedAt_refl hnew
    · exact hput held
  cases p with
  | skipped => exact h.elim
  | begun => exact hfailed (.inl h)
  | writing => exact hfailed (.inr h)
  | synced => exact hfailed (.inr ⟨.text text, h⟩)
  | replaced => exact absurd rfl hp
  | failing => exact hfailed h
  | left => exact hfailed h
  | removed =>
    obtain rfl : g = f.remove new := h
    exact Files.changedAt_remove hnew

/-! ## §3 Saving -/

/-- Two namespaces whose paths lead to one place. -/
def Shares (c : CacheStore) (f : Files) (ns other : String) : Prop :=
  ∃ q, f.locate c.base (c.path ns) = .ok q ∧ f.locate c.base (c.path other) = .ok q

theorem not_shares_of_no_slash (hns : '/' ∉ ns.toList) (hother : '/' ∉ other.toList)
    (hne : ns ≠ other) : ¬c.Shares f ns other := by
  rintro ⟨q, hq, hq'⟩
  exact locate_ne_of_no_slash hns hother hne hq hq' rfl

/-- Namespaces never share a file, as their names hold no slashes. -/
theorem not_shares_of_normalize {given given' : String}
    (hns : Namespace.normalize given = .ok ns) (hother : Namespace.normalize given' = .ok other)
    (hne : ns ≠ other) : ¬c.Shares f ns other :=
  not_shares_of_no_slash (Namespace.no_slash_of_normalize hns)
    (Namespace.no_slash_of_normalize hother) hne

theorem locate_of_writable {path : String} {base : Place} (h : f.writable base path = .ok new) :
    f.locate base path = .ok new := by
  unfold Files.writable at h
  cases hlocate : f.locate base path with
  | error e =>
    rw [hlocate] at h
    cases h
  | ok q =>
    rw [hlocate] at h
    simp only [bind, Except.bind] at h
    split at h
    · cases h
    · exact h

theorem toSnapshot_of_ofSnapshot? {r : CacheRecord}
    (h : CacheRecord.ofSnapshot? c.appId c.cluster ns snapshot = some r) :
    r.toSnapshot = { snapshot with ns, source := .localFallback } := by
  obtain ⟨release, hrelease, rfl⟩ := Option.map_eq_some_iff.1 h
  rw [CacheRecord.toSnapshot, ← hrelease]

/-- What a save leaves behind at each moment: an untouched tree, or one of those that replacing the
file of the namespace leads to. -/
theorem standing_of_saving (h : c.Saving number f ns snapshot g p) :
    (g = f ∧ p ≠ .replaced ∧ p ≠ .removed)
      ∨ ∃ r new target, CacheRecord.ofSnapshot? c.appId c.cluster ns snapshot = some r
        ∧ f.get? new ≠ some .directory ∧ f.locate c.base (c.newPath number ns) = .ok new
        ∧ f.locate c.base (c.path ns) = .ok target ∧ target ≠ new
        ∧ Standing new target r.text f g p := by
  cases h with
  | unreleased | same | astray => exact .inl ⟨rfl, by simp, by simp⟩
  | replacing hrecord _ hnew htarget hsteps =>
    have hdirectory := Files.get?_of_writable hnew
    have hlocate := locate_of_writable hnew
    have hne := locate_ne_new hlocate htarget
    exact .inr ⟨_, _, _, hrecord, hdirectory, hlocate, htarget, hne,
      standing_of_replacing hdirectory hne hsteps⟩

theorem lookUp_of_saving (h : c.Saving number f ns snapshot g p) (hp : p ≠ .replaced) :
    c.lookUp g ns = c.lookUp f ns := by
  rcases standing_of_saving h with ⟨rfl, -, -⟩
    | ⟨r, new, target, -, hnew, -, htarget, hne, hstanding⟩
  · rfl
  · rw [lookUp, lookUp, (changedAt_of_standing hnew hstanding hp).read_eq htarget hne]

theorem lookUp_of_replaced (h : c.Saving number f ns snapshot g .replaced) :
    ∃ r, CacheRecord.ofSnapshot? c.appId c.cluster ns snapshot = some r
      ∧ c.lookUp g ns = .found r := by
  rcases standing_of_saving h with ⟨-, hp, -⟩
    | ⟨r, new, target, hrecord, hnew, -, htarget, -, hfile, rfl⟩
  · exact absurd rfl hp
  · refine ⟨r, hrecord, ?_⟩
    rw [lookUp, Files.read_replaced hnew hfile htarget]
    simp only [CacheRecord.read?_text]

/-- The files of the other namespaces stay. -/
theorem read_other_of_saving (h : c.Saving number f ns snapshot g p)
    (hother : ¬c.Shares f ns other) :
    g.read c.base (c.path other) = .ok text ↔ f.read c.base (c.path other) = .ok text := by
  rcases standing_of_saving h with ⟨rfl, -, -⟩
    | ⟨r, new, target, -, hnew, hlocate, htarget, hne, hstanding⟩
  · rfl
  · have hapart (q : Place) (hq : f.locate c.base (c.path other) = .ok q) : q ≠ new :=
      locate_ne_new hlocate hq
    by_cases hp : p = .replaced
    · subst hp
      obtain ⟨hfile, rfl⟩ := hstanding
      -- First the new file goes, then it comes back in the place of the old one.
      have hgone := Files.changedAt_remove hnew
      have hback : Files.ChangedAt target (f.remove new)
          ((f.remove new).put target (.file (.text r.text))) := by
        apply Files.changedAt_put
        rwa [hgone.get?_of_locate htarget hne]
      rw [hback.read_iff, hgone.read_iff hapart]
      rintro q hq rfl
      rw [hgone.locate_iff] at hq
      exact hother ⟨q, htarget, hq⟩
    · exact (changedAt_of_standing hnew hstanding hp).read_iff hapart

/-- When the new file has been removed, it is gone, and everything else is as it was. -/
theorem tree_of_removed (h : c.Saving number f ns snapshot g .removed) :
    g.read c.base (c.newPath number ns) = .error .notFound
      ∧ ∀ new, f.locate c.base (c.newPath number ns) = .ok new →
        ∀ q, ¬new <+: q → g.get? q = f.get? q := by
  rcases standing_of_saving h with ⟨-, -, hp⟩
    | ⟨r, new, target, -, hnew, hlocate, -, -, hstanding⟩
  · exact absurd rfl hp
  · obtain rfl : g = f.remove new := hstanding
    have hgone := Files.changedAt_remove hnew
    constructor
    · have hself : new.isPrefixOf new = true := List.isPrefixOf_iff_prefix.2 List.prefix_rfl
      rw [Files.read, hgone.locate_iff.2 hlocate]
      simp only [bind, Except.bind,
        Files.get?_remove_of_under _ _ _ (Files.ne_nil_of_get? hnew) hself]
      rfl
    · intro new' hlocate'
      obtain rfl := Except.ok.inj (hlocate.symm.trans hlocate')
      exact hgone.apart

/-! ## §4 The saves that are run -/

/-- A replacement that is run takes the steps of one. -/
theorem replacing_replaceFile (fault : Option Fault) (hnew : f.get? new ≠ some .directory)
    (hne : target ≠ new) (text : String) :
    ∃ p, Replacing new target text f (replaceFile fault f new target text).1 p
      ∧ p.outcome = (replaceFile fault f new target text).2.saved := by
  have hbegun : Replacing new target text f f .begun := .begun
  have hwrite (held : FileContents) :
      Replacing new target text f (f.put new (.file held)) .writing := by
    have hsteps := (hbegun.step .create).step (.write held)
    rwa [Files.put_put] at hsteps
  have hstopped (fault : Fault) {g : Files} (h : Replacing new target text f g .writing) :
      ∃ p, Replacing new target text f (stopped fault new g).1 p
        ∧ p.outcome = (stopped fault new g).2.saved := by
    have hfailing := h.step (.fail (by simp))
    unfold stopped
    split
    · exact ⟨.writing, h, rfl⟩
    · split
      · exact ⟨.left, hfailing.step .leave, rfl⟩
      · exact ⟨.removed, hfailing.step .remove, rfl⟩
  unfold replaceFile
  split
  · -- Nothing stops it, so the new file is written and synced.
    have hheld := get?_put_self hnew (.text text)
    have hsynced := (hwrite (.text text)).step (.sync hheld)
    split
    · have hremoved := (hsynced.step (.fail (by simp))).step .remove
      rw [Files.remove_put] at hremoved
      exact ⟨.removed, hremoved, rfl⟩
    · next hfile =>
      have htarget : (f.put new (.file (.text text))).get? target ≠ some .directory := by
        rwa [Files.get?_put _ _ _ _ (Files.ne_nil_of_get? hfile), if_neg hne]
      have hrenamed := hsynced.step (.rename hheld htarget)
      rw [Files.remove_put] at hrenamed
      exact ⟨.replaced, hrenamed, rfl⟩
  · next fault =>
    split
    · split
      · exact ⟨.begun, hbegun, rfl⟩
      · exact ⟨.left, (hbegun.step (.fail (by simp))).step .leave, rfl⟩
    · exact hstopped fault (hwrite _)
    · exact hstopped fault (hwrite _)
    · exact hstopped fault (hwrite _)

theorem writeRecord_eq (fault : Option Fault) {r : CacheRecord}
    (hnew : f.writable c.base (c.newPath temporarySuffix ns) = .ok new)
    (htarget : f.locate c.base (c.path ns) = .ok target) :
    c.writeRecord fault f ns r = ((replaceFile fault f new target r.text).1,
      (replaceFile fault f new target r.text).2.saved) := by
  unfold newPath at hnew
  simp only [writeRecord, hnew, htarget]
  generalize replaceFile fault f new target r.text = ended
  obtain ⟨g, ending⟩ := ended
  cases ending <;> rfl

theorem writeRecord_of_nowhere (fault : Option Fault) (r : CacheRecord)
    (hnowhere : ∀ new target, f.writable c.base (c.newPath temporarySuffix ns) = .ok new →
      f.locate c.base (c.path ns) ≠ .ok target) :
    c.writeRecord fault f ns r = (f, .failed) := by
  unfold newPath at hnowhere
  unfold writeRecord
  dsimp only
  split
  · next new target hnew htarget => exact absurd htarget (hnowhere new target hnew)
  · rfl

/-- Either a record has a place to go to, or there is none and nothing is written. -/
theorem writeRecord_cases (fault : Option Fault) (c : CacheStore) (f : Files) (ns : String)
    (r : CacheRecord) :
    (∃ new target, f.writable c.base (c.newPath temporarySuffix ns) = .ok new
        ∧ f.locate c.base (c.path ns) = .ok target
        ∧ c.writeRecord fault f ns r = ((replaceFile fault f new target r.text).1,
          (replaceFile fault f new target r.text).2.saved))
      ∨ (∀ new target, f.writable c.base (c.newPath temporarySuffix ns) = .ok new →
          f.locate c.base (c.path ns) ≠ .ok target)
        ∧ c.writeRecord fault f ns r = (f, .failed) := by
  by_cases hplace : ∃ new target, f.writable c.base (c.newPath temporarySuffix ns) = .ok new
      ∧ f.locate c.base (c.path ns) = .ok target
  · obtain ⟨new, target, hnew, htarget⟩ := hplace
    exact .inl ⟨new, target, hnew, htarget, writeRecord_eq fault hnew htarget⟩
  · have hnowhere (new target : Place)
        (hnew : f.writable c.base (c.newPath temporarySuffix ns) = .ok new) :
        f.locate c.base (c.path ns) ≠ .ok target := by
      intro htarget
      exact hplace ⟨new, target, hnew, htarget⟩
    exact .inr ⟨hnowhere, writeRecord_of_nowhere fault r hnowhere⟩

/-- **Every save that is run takes the steps of one**, whatever stops it. -/
theorem saving_saveWith (fault : Option Fault) (c : CacheStore) (f : Files) (ns : String)
    (snapshot : Snapshot) :
    ∃ p, c.Saving temporarySuffix f ns snapshot (c.saveWith fault f ns snapshot).1 p
      ∧ p.outcome = (c.saveWith fault f ns snapshot).2 := by
  cases hrecord : CacheRecord.ofSnapshot? c.appId c.cluster ns snapshot with
  | none =>
    have hsave : c.saveWith fault f ns snapshot = (f, .skipped) := by rw [saveWith, hrecord]
    rw [hsave]
    exact ⟨.skipped, .unreleased hrecord, rfl⟩
  | some r =>
    by_cases hsame : ∃ old, c.lookUp f ns = .found old ∧ old.agrees r = true
    · obtain ⟨old, hold, hagrees⟩ := hsame
      have hsave : c.saveWith fault f ns snapshot = (f, .skipped) := by
        simp only [saveWith, hrecord, hold, if_pos hagrees]
      rw [hsave]
      exact ⟨.skipped, .same hrecord hold hagrees, rfl⟩
    · have hdiffers (old : CacheRecord) (hold : c.lookUp f ns = .found old) :
          old.agrees r = false := by
        rw [Bool.eq_false_iff]
        intro hagrees
        exact hsame ⟨old, hold, hagrees⟩
      have hsave : c.saveWith fault f ns snapshot = c.writeRecord fault f ns r := by
        rcases saveWith_cases fault f hrecord with ⟨old, hold, hagrees, -⟩ | hsave
        · exact absurd ⟨old, hold, hagrees⟩ hsame
        · exact hsave
      rw [hsave]
      rcases writeRecord_cases fault c f ns r with
        ⟨new, target, hnew, htarget, hwrite⟩ | ⟨hnowhere, hwrite⟩
      · have hne := locate_ne_new (locate_of_writable hnew) htarget
        obtain ⟨p, hsteps, hend⟩ :=
          replacing_replaceFile fault (Files.get?_of_writable hnew) hne r.text
        rw [hwrite]
        exact ⟨p, .replacing hrecord hdiffers hnew htarget hsteps, hend⟩
      · rw [hwrite]
        exact ⟨.left, .astray hrecord hdiffers hnowhere, rfl⟩

/-- A replacement that fails and can clean up has not begun, or its new file is removed. -/
theorem replaceFile_failed {fault : Option Fault}
    (hcleanup : ∀ d ∈ fault, d.cleanupFails = false)
    (hend : (replaceFile fault f new target text).2 = .failed) :
    (replaceFile fault f new target text).1 = f
      ∨ (replaceFile fault f new target text).1 = f.remove new := by
  cases fault with
  | none =>
    by_cases hdirectory : f.get? target = some .directory
    · simp only [replaceFile, if_pos hdirectory, or_true]
    · simp only [replaceFile, if_neg hdirectory] at hend
      cases hend
  | some d =>
    have hworks := hcleanup d rfl
    have hstopped (held : FileContents) (h : (stopped d new (f.put new (.file held))).2 = .failed) :
        (stopped d new (f.put new (.file held))).1 = f.remove new := by
      unfold stopped at h ⊢
      split at h
      · cases h
      · next hcrash => rw [if_neg hcrash, hworks, if_neg (by simp), Files.remove_put]
    unfold replaceFile at hend ⊢
    dsimp only at hend ⊢
    -- Nothing has been made when the new file cannot be created; later the clean-up removes it.
    split at hend
    · exact .inl rfl
    · exact .inr (hstopped _ hend)
    · exact .inr (hstopped _ hend)
    · exact .inr (hstopped _ hend)

/-- **A save that fails and can clean up leaves no new file behind**: the tree is the one before,
or that without the new file. -/
theorem tree_of_failed {fault : Option Fault}
    (hfailed : (c.saveWith fault f ns snapshot).2 = .failed)
    (hcleanup : ∀ d ∈ fault, d.cleanupFails = false) :
    (c.saveWith fault f ns snapshot).1 = f
      ∨ ∃ new, f.writable c.base (c.newPath temporarySuffix ns) = .ok new
        ∧ (c.saveWith fault f ns snapshot).1 = f.remove new := by
  cases hrecord : CacheRecord.ofSnapshot? c.appId c.cluster ns snapshot with
  | none =>
    rw [saveWith, hrecord] at hfailed
    cases hfailed
  | some r =>
    rcases saveWith_cases fault f hrecord with ⟨old, -, -, hsave⟩ | hsave
    · rw [hsave] at hfailed
      cases hfailed
    · rw [hsave] at hfailed ⊢
      rcases writeRecord_cases fault c f ns r with ⟨new, target, hnew, -, hwrite⟩ | ⟨-, hwrite⟩
      · rw [hwrite] at hfailed ⊢
        have hend : (replaceFile fault f new target r.text).2 = .failed := by
          revert hfailed
          cases (replaceFile fault f new target r.text).2 <;> simp [Ending.saved]
        rcases replaceFile_failed hcleanup hend with htree | htree
        · exact .inl htree
        · exact .inr ⟨new, hnew, htree⟩
      · exact .inl (by rw [hwrite])

/-- If nothing was at the place of the new file, nothing is there after a save that fails and can
clean up, and everything else is as it was. -/
theorem clean_of_failed {fault : Option Fault}
    (hfailed : (c.saveWith fault f ns snapshot).2 = .failed)
    (hcleanup : ∀ d ∈ fault, d.cleanupFails = false)
    (hnew : f.locate c.base (c.newPath temporarySuffix ns) = .ok new)
    (hunused : f.get? new = none) :
    (c.saveWith fault f ns snapshot).1.get? new = none
      ∧ ∀ q, ¬new <+: q → (c.saveWith fault f ns snapshot).1.get? q = f.get? q := by
  rcases tree_of_failed hfailed hcleanup with htree | ⟨new', hnew', htree⟩
  · rw [htree]
    exact ⟨hunused, fun _ _ => rfl⟩
  · obtain rfl := Except.ok.inj ((locate_of_writable hnew').symm.trans hnew)
    have hfile : f.get? new' ≠ some .directory := by simp [hunused]
    have hself : new'.isPrefixOf new' = true := List.isPrefixOf_iff_prefix.2 List.prefix_rfl
    rw [htree]
    exact ⟨Files.get?_remove_of_under _ _ _ (Files.ne_nil_of_get? hfile) hself,
      (Files.changedAt_remove hfile).apart⟩

/-- **What cannot be read never blocks a save**: an old file that is missing, or holds no record, is
replaced wherever a new file can be written beside it. -/
theorem written_of_unread (hunread : ∀ r, c.lookUp f ns ≠ .found r)
    (hrelease : snapshot.release.isSome = true)
    (hnew : f.writable c.base (c.newPath temporarySuffix ns) = .ok new)
    (htarget : f.locate c.base (c.path ns) = .ok target)
    (hfile : f.get? target ≠ some .directory) :
    (c.save f ns snapshot).2 = .written := by
  obtain ⟨release, hrelease⟩ := Option.isSome_iff_exists.1 hrelease
  have hrecord := ofSnapshot?_of_release c ns hrelease
  rcases saveWith_cases none f hrecord with ⟨old, hold, -⟩ | hsave
  · exact absurd hold (hunread old)
  · rw [save, hsave, writeRecord_eq none hnew htarget]
    simp only [replaceFile, if_neg hfile, Ending.saved]

/-! ## §5 The whole -/

/-- **A save can be stopped anywhere.** At every moment of a save of any snapshot, whatever the tree
was, loading the namespace gives what it gave before or the snapshot that is being saved, and a
file that could be read can still be read. A save that has failed has changed nothing of it, and
once the new file has been removed, everything is as it was. The files of the other namespaces
stay; plain names never share a file. The saves that are run pass through these moments, whatever
fault stops them, and one that fails with a clean-up that works leaves no new file, where none was
before. An old file that is missing or cannot be read counts as none and never blocks the new
one. -/
theorem crash_safe (c : CacheStore) (number : String) (f : Files) (ns : String)
    (snapshot : Snapshot) :
    (∀ g p, c.Saving number f ns snapshot g p →
      (c.load g ns = c.load f ns
          ∨ c.load g ns = some { snapshot with ns, source := .localFallback })
        ∧ (c.lookUp g ns = .unreadable → c.lookUp f ns = .unreadable)
        ∧ (p.outcome = .failed → c.load g ns = c.load f ns)
        ∧ (p = .removed → g.read c.base (c.newPath number ns) = .error .notFound
          ∧ ∀ new, f.locate c.base (c.newPath number ns) = .ok new →
            ∀ q, ¬new <+: q → g.get? q = f.get? q)
        ∧ ∀ other, ¬c.Shares f ns other → ∀ text,
          g.read c.base (c.path other) = .ok text ↔ f.read c.base (c.path other) = .ok text)
      ∧ (∀ other, '/' ∉ ns.toList → '/' ∉ other.toList → ns ≠ other → ¬c.Shares f ns other)
      ∧ (∀ fault,
        (∃ p, c.Saving temporarySuffix f ns snapshot (c.saveWith fault f ns snapshot).1 p
          ∧ p.outcome = (c.saveWith fault f ns snapshot).2)
          ∧ ((c.saveWith fault f ns snapshot).2 = .failed →
            (∀ d ∈ fault, d.cleanupFails = false) → ∀ new,
            f.locate c.base (c.newPath temporarySuffix ns) = .ok new → f.get? new = none →
              (c.saveWith fault f ns snapshot).1.get? new = none
                ∧ ∀ q, ¬new <+: q → (c.saveWith fault f ns snapshot).1.get? q = f.get? q))
      ∧ ((∀ r, c.lookUp f ns ≠ .found r) → c.load f ns = none
        ∧ (snapshot.release.isSome = true → ∀ new target,
          f.writable c.base (c.newPath temporarySuffix ns) = .ok new →
          f.locate c.base (c.path ns) = .ok target → f.get? target ≠ some .directory →
            (c.save f ns snapshot).2 = .written
              ∧ c.load (c.save f ns snapshot).1 ns
                = some { snapshot with ns, source := .localFallback })) := by
  refine ⟨?stopped, fun _ => not_shares_of_no_slash,
    ?run, ?unread⟩
  case stopped =>
    intro g p hsaving
    have hfailed (hp : p ≠ .replaced) : c.load g ns = c.load f ns := by
      rw [load, load, lookUp_of_saving hsaving hp]
    refine ⟨?_, ?_, ?_, ?_, fun other hother text => read_other_of_saving hsaving hother⟩
    · by_cases hp : p = .replaced
      · subst hp
        obtain ⟨r, hrecord, hfound⟩ := lookUp_of_replaced hsaving
        right
        rw [load_of_lookUp hfound, toSnapshot_of_ofSnapshot? hrecord]
      · exact .inl (hfailed hp)
    · intro hunreadable
      by_cases hp : p = .replaced
      · subst hp
        obtain ⟨r, -, hfound⟩ := lookUp_of_replaced hsaving
        rw [hfound] at hunreadable
        cases hunreadable
      · rw [← lookUp_of_saving hsaving hp]
        exact hunreadable
    · intro houtcome
      apply hfailed
      rintro rfl
      cases houtcome
    · rintro rfl
      exact tree_of_removed hsaving
  case run =>
    intro fault
    refine ⟨saving_saveWith fault c f ns snapshot, ?_⟩
    intro hfailed hcleanup new hnew hunused
    exact clean_of_failed hfailed hcleanup hnew hunused
  case unread =>
    intro hunread
    constructor
    · unfold load
      cases hfound : c.lookUp f ns with
      | absent | unreadable => rfl
      | found r => exact absurd hfound (hunread r)
    · intro hrelease new target hnew htarget hfile
      have hwritten := written_of_unread hunread hrelease hnew htarget hfile
      obtain ⟨r, hrecord, hfound⟩ := lookUp_of_saveWith hwritten
      refine ⟨hwritten, ?_⟩
      rw [save, load_of_lookUp hfound, toSnapshot_of_ofSnapshot? hrecord]

/-- A program replaces a file that cannot be read, dies while it does, or fails to sync the new
one. -/
theorem crash_safe_unreadable_file :
    ∃ (c : CacheStore) (f g : Files) (snapshot : Snapshot) (new target : Place),
      f.get? target = some (.file (.text "no record")) ∧ snapshot.release.isSome = true
        ∧ f.locate c.base (c.path "application") = .ok target
        ∧ f.writable c.base (c.newPath temporarySuffix "application") = .ok new
        ∧ c.load f "application" = none
        ∧ c.load (c.save f "application" snapshot).1 "application"
          = some { snapshot with ns := "application", source := .localFallback }
        ∧ g.get? new = some (.file (.text ""))
        ∧ (c.load g "application" = c.load f "application"
          ∨ c.load g "application"
            = some { snapshot with ns := "application", source := .localFallback })
        ∧ (∀ text, g.read c.base (c.path "other") = .ok text
          ↔ f.read c.base (c.path "other") = .ok text)
        ∧ ∃ fault, (c.saveWith (some fault) f "application" snapshot).2 = .failed
          ∧ (c.saveWith (some fault) f "application" snapshot).1.get? new = none
          ∧ (c.saveWith (some fault) f "application" snapshot).1.get? target
            = some (.file (.text "no record")) := by
  let c : CacheStore := ⟨["cache"], "demo/config-cache", "demo", "default"⟩
  let dir : Place := ["cache", "demo", "config-cache"]
  let target : Place := dir ++ ["demo+default+application.json"]
  let new : Place := dir ++ [".demo+default+application.json.100.00000000.tmp"]
  let f : Files := ⟨[(target, .file (.text "no record")), (dir, .directory),
    (["cache", "demo"], .directory), (["cache"], .directory)]⟩
  let snapshot : Snapshot := ⟨"application", some "r1", .remote, .ofList [("a", "1")]⟩
  let died : Fault := ⟨.writing 0, true, false⟩
  let failing : Fault := ⟨.syncing, false, false⟩
  have htarget : f.locate c.base (c.path "application") = .ok target := by decide +kernel
  have hnew : f.writable c.base (c.newPath temporarySuffix "application") = .ok new := by
    decide +kernel
  have hunread : c.lookUp f "application" = .unreadable := by decide +kernel
  have hheld : (c.saveWith (some died) f "application" snapshot).1.get? new
      = some (.file (.text "")) := by decide +kernel
  obtain ⟨hstopped, hapart, hrun, hnone⟩ := crash_safe c temporarySuffix f "application" snapshot
  obtain ⟨⟨p, hsaving, -⟩, -⟩ := hrun (some died)
  obtain ⟨hload, -, -, -, hothers⟩ := hstopped _ p hsaving
  obtain ⟨hold, hsave⟩ := hnone (by simp [hunread])
  obtain ⟨-, hsaved⟩ := hsave rfl new target hnew htarget (by decide +kernel)
  have hother := hothers "other" (hapart "other" (by decide) (by decide) (by decide))
  have hfailed : (c.saveWith (some failing) f "application" snapshot).2 = .failed := by
    decide +kernel
  obtain ⟨hgone, hkept⟩ := (hrun (some failing)).2 hfailed (by decide) new
    (locate_of_writable hnew) (by decide +kernel)
  have hfile : f.get? target = some (.file (.text "no record")) := by decide +kernel
  exact ⟨c, f, _, snapshot, new, target, hfile, rfl, htarget, hnew, hold, hsaved, hheld,
    hload, hother, failing, hfailed, hgone, (hkept target (by decide +kernel)).trans hfile⟩

end CacheStore

end LiveConfig
