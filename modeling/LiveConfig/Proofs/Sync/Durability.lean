import LiveConfig.Proofs.Sync.Commit
import LiveConfig.Proofs.Sync.Provenance

/-!
# What the cache holds of what was confirmed

A release is saved when it is committed, and never again: an answer is compared with what is shown,
not with what is on disk. So the cache holds the confirmed release as long as the last write has
worked, and a write that has failed is not made good before the next release, however often the
server confirms this one.

## The invariant

Outside of a commit the cache holds what is shown if the disk did what it was last asked for. It is
asked during commits only, as long as nobody gives up a refresh that waits for the disk.

## Main statements

- `SyncMachine.durable_of_step`: a move keeps the invariant.
- `SyncRun.holds_of_confirmed`: what the cache holds when a refresh has ended.
- `SyncRun.unheld_after_confirmation`: a confirmation does not make a failed write good.
-/

namespace LiveConfig

variable {L : Type}

/-! ## §1 Writes -/

/-- How a step writes what is shown, if it does and `f` was on disk before. -/
def SyncStep.write? (store : CacheStore) (ns : String) (f : Files) (s : SyncStep L) :
    Option CacheStore.Saved :=
  match s.move with
  | .saved fault => some (store.saveWith fault f ns s.after.shown).2
  | _ => none

/-- How the last write of a history ended. -/
def lastWrite? (store : CacheStore) (ns : String) : Files → List (SyncStep L) →
    Option CacheStore.Saved
  | _, [] => none
  | f, s :: rest => (lastWrite? store ns s.files rest).or (s.write? store ns f)

/-- The disk did what it was last asked for, or was not asked for anything. -/
def LastWriteDone (store : CacheStore) (ns : String) (f : Files) (h : List (SyncStep L)) : Prop :=
  ∀ result, lastWrite? store ns f h = some result → result = .written ∨ result = .skipped

section Writes

variable {store : CacheStore} {ns : String} {f : Files} {h : List (SyncStep L)} {s : SyncStep L}

theorem lastWrite?_concat (f : Files) (h : List (SyncStep L)) (s : SyncStep L) :
    lastWrite? store ns f (h ++ [s])
      = (s.write? store ns (filesAfter f h)).or (lastWrite? store ns f h) := by
  induction h generalizing f with
  | nil => simp [lastWrite?, filesAfter]
  | cons t rest ih =>
    rw [List.cons_append, lastWrite?, ih, Option.or_assoc]
    rfl

/-- A step that writes nothing leaves the last write where it was. -/
theorem LastWriteDone.of_concat (hdone : LastWriteDone store ns f (h ++ [s]))
    (hmove : ∀ fault, s.move ≠ .saved fault) : LastWriteDone store ns f h := by
  have hnone : s.write? store ns (filesAfter f h) = none := by
    unfold SyncStep.write?
    split
    · next fault hsaved => exact absurd hsaved (hmove fault)
    · rfl
  intro result hresult
  refine hdone result ?_
  rw [lastWrite?_concat, hnone]
  exact hresult

theorem LastWriteDone.of_saved {fault : Option CacheStore.Fault}
    (hdone : LastWriteDone store ns f (h ++ [s])) (hmove : s.move = .saved fault) :
    (store.saveWith fault (filesAfter f h) ns s.after.shown).2 = .written
      ∨ (store.saveWith fault (filesAfter f h) ns s.after.shown).2 = .skipped := by
  refine hdone _ ?_
  rw [lastWrite?_concat, SyncStep.write?, hmove]
  rfl

end Writes

/-- What the cache holds depends on the release and the entries alone. -/
theorem CacheStore.holds_congr {c : CacheStore} {f : Files} {ns : String} {s t : Snapshot}
    (hrelease : s.release = t.release) (hentries : ∀ k, s.get? k = t.get? k) :
    c.Holds f ns s ↔ c.Holds f ns t := by
  constructor
  · rintro ⟨cached, hload, hsame, hget⟩
    exact ⟨cached, hload, hsame.trans hrelease, fun k => (hget k).trans (hentries k)⟩
  · rintro ⟨cached, hload, hsame, hget⟩
    exact ⟨cached, hload, hsame.trans hrelease.symm, fun k => (hget k).trans (hentries k).symm⟩

/-! ## §2 What a move does to the files -/

namespace SyncMachine

variable {frame : SyncFrame L} {now : Instant} {m m' : SyncMachine L} {f f' : Files}
  {move : SyncMove L} {events : List (SyncEvent L)}

/-- Only the disk writes. -/
theorem files_of_step (step : m.Step frame now f move m' f' events)
    (hsaved : ∀ fault, move ≠ .saved fault) (hsettled : ∀ fault, move ≠ .settled fault) :
    f' = f := by
  cases step with
  | saved => exact absurd rfl (hsaved _)
  | settled => exact absurd rfl (hsettled _)
  | _ => rfl

/-- A refresh waits for the disk. -/
def Saves (m : SyncMachine L) : Prop :=
  ∃ caller snapshot changes, m.active = some ⟨caller, .saving snapshot changes⟩

/-- A refresh that waits for the disk waits until the disk has done its work, unless it is given
up, which leaves the disk with something to finish. -/
theorem saves_of_step (step : m.Step frame now f move m' f' events)
    (hmove : ∀ fault, move ≠ .saved fault) (hdetached : m'.detached = []) (hsaves : m.Saves) :
    m'.Saves := by
  obtain ⟨holder, snapshot, changes, hsaving⟩ := hsaves
  cases step with
  | saved => exact absurd rfl (hmove _)
  | enter _ hfree =>
    rw [hsaving] at hfree
    cases hfree
  | permit hactive | answer hactive | gather hactive | deliver hactive =>
    rw [hsaving] at hactive
    cases hactive
  | @abandon caller =>
    by_cases hown : holder = caller
    · -- Whoever gives up here leaves his write to the disk.
      simp [abandon, hsaving, hown, Option.filter, detach] at hdetached
    · exact ⟨holder, snapshot, changes, by simp [abandon, hsaving, hown]⟩
  | _ => exact ⟨holder, snapshot, changes, hsaving⟩

theorem active_of_ended (step : m.Step frame now f move m' f' events) {caller : Nat}
    {outcome : RefreshOutcome} (hended : .ended caller outcome ∈ events) : m'.active = none := by
  have htell {n : SyncMachine L} {c : Nat} {changes : ChangeSet} {left : List (Registration L)}
      {o : RefreshOutcome} (h : .ended caller outcome ∈ (n.tell c changes left o).2) :
      (n.tell c changes left o).1.active = none := by
    cases left with
    | nil => exact active_letGo ..
    | cons => cases h
  cases step with
  | @answer _ _ _ _ _ _ remaining _ hanswer =>
    have hover := (List.mem_append.1 hended).resolve_left hanswer.not_ended
    cases remaining with
    | nothing => exact active_letGo ..
    | saving | delivering => cases hover
  | saved => exact absurd hended Sync.not_ended_save
  | gather => exact htell hended
  | deliver => exact htell ((List.mem_append.1 hended).resolve_left Sync.not_ended_deliver)
  | _ => cases hended

theorem files_of_ended (step : m.Step frame now f move m' f' events) {caller : Nat}
    {outcome : RefreshOutcome} (hended : .ended caller outcome ∈ events) : f' = f := by
  cases step with
  | saved => exact absurd hended Sync.not_ended_save
  | settled => cases hended
  | _ => rfl

/-- An answer ends no refresh that has something new to tell. -/
theorem not_updated_of_answer {result : FetchResult} {backoff : Backoff} {caller n : Nat}
    (step : m.Step frame now f (.answer result backoff) m' f' events) :
    .ended caller (.updated n) ∉ events := by
  intro hended
  cases step with
  | answer _ hanswer =>
    have hover := (List.mem_append.1 hended).resolve_left hanswer.not_ended
    have hends := outcome_of_ended_proceed hover
    cases hanswer <;> cases hends

/-- An answer that finds nothing changed keeps the release and the entries. -/
theorem same_of_unchanged {result : FetchResult} {backoff : Backoff} {caller : Nat} (hm : m.Fits)
    (step : m.Step frame now f (.answer result backoff) m' f' events)
    (hended : .ended caller .unchanged ∈ events) :
    m'.shown.release = m.shown.release ∧ ∀ k, m'.shown.get? k = m.shown.get? k := by
  cases step with
  | answer hactive hanswer =>
    have hover := (List.mem_append.1 hended).resolve_left hanswer.not_ended
    have hends := outcome_of_ended_proceed hover
    have hprevious := hm _ hactive
    rw [shown_proceed]
    cases hanswer with
    | current | unmodified => exact ⟨rfl, fun _ => rfl⟩
    | recognised hknown _ hsame =>
      exact ⟨hknown.symm, fun k => (ChangeSet.isEmpty_diff_iff.1 hsame k).symm⟩
    | upgraded =>
      rw [← hprevious]
      exact ⟨rfl, fun _ => rfl⟩
    | released | missing | failed | expired => cases hends

/-! ## §3 The invariant -/

/-- Outside of a commit the cache holds the release that is shown. -/
def Durable (store : CacheStore) (f : Files) (m : SyncMachine L) : Prop :=
  m.shown.release.isSome = true → ¬m.Saves → store.Holds f m.sync.ns m.shown

variable {store : CacheStore} {f₀ : Files} {h : List (SyncStep L)}

/-- An answer leaves the cache with what is shown, unless it brings something new to save. -/
theorem durable_of_answer {result : FetchResult} {backoff : Backoff} (hm : m.Durable store f)
    (hfits : m.Fits) (step : m.Step frame now f (.answer result backoff) m' f' events) :
    m'.Durable store f' := by
  intro hrelease hidle
  have hns := ns_of_step step
  cases step with
  | answer hactive hanswer =>
    have hprevious := hfits _ hactive
    -- The refresh under way is at its fetch, so none waits for the disk.
    have hbefore : ¬m.Saves := by
      rintro ⟨holder, snapshot, changes, hsaving⟩
      rw [hsaving] at hactive
      cases hactive
    rw [hns]
    rw [shown_proceed] at hrelease ⊢
    cases hanswer with
    | current | unmodified | missing => exact hm hrelease hbefore
    | recognised hknown _ hsame =>
      have hheld := hm (hknown ▸ hrelease) hbefore
      exact (CacheStore.holds_congr hknown (ChangeSet.isEmpty_diff_iff.1 hsame)).1 hheld
    | upgraded =>
      have hheld := hm (hprevious ▸ hrelease) hbefore
      exact (CacheStore.holds_congr (congrArg Snapshot.release hprevious)
        fun k => congrArg (·.get? k) hprevious).2 hheld
    | failed =>
      rw [shown, Sync.view_failed, Sync.view_queueMessages] at hrelease ⊢
      exact hm hrelease hbefore
    | released =>
      -- The new release is saved next, and until then nothing is promised.
      exact absurd ⟨_, _, _, rfl⟩ hidle
    | expired => cases hrelease

/-- **A move keeps the cache in step** with what is shown, as long as the disk does what it is asked
for and is left with nothing to finish. -/
theorem durable_of_step (hstore : frame.setting.cache = some store)
    (hm : LastWriteDone store m.sync.ns f₀ h → m.Durable store f) (hfits : m.Fits)
    (hsaving : ∀ caller snapshot changes, m.active = some ⟨caller, .saving snapshot changes⟩ →
      snapshot = m.shown)
    (hfiles : filesAfter f₀ h = f) (hbefore : m.detached = []) (hafter : m'.detached = [])
    (step : m.Step frame now f move m' f' events)
    (hdone : LastWriteDone store m.sync.ns f₀ (h ++ [⟨now, move, m, m', f', events⟩])) :
    m'.Durable store f' := by
  by_cases hsaves : ∃ fault, move = .saved fault
  · -- The disk has just saved what is shown.
    obtain ⟨fault, rfl⟩ := hsaves
    intro hrelease _
    have hwritten := hdone.of_saved rfl
    rw [hfiles] at hwritten
    cases step with
    | saved hactive =>
      obtain rfl := hsaving _ _ _ hactive
      have hsaved := CacheStore.holds_saveWith hrelease hwritten
      rw [Sync.files_save, SyncSetting.filesSaved, hstore]
      exact hsaved
  · have hmove : ∀ fault, move ≠ .saved fault := fun fault heq => hsaves ⟨fault, heq⟩
    have hheld := hm (hdone.of_concat hmove)
    by_cases hanswer : ∃ result backoff, move = .answer result backoff
    · obtain ⟨result, backoff, rfl⟩ := hanswer
      exact durable_of_answer hheld hfits step
    · -- Nothing is replaced, neither in the view nor on disk.
      have hsettled : ∀ fault, move ≠ .settled fault := by
        rintro fault rfl
        cases step with
        | settled hleft =>
          rw [hbefore] at hleft
          cases hleft
      have hshown := shown_of_step step fun result backoff heq => hanswer ⟨result, backoff, heq⟩
      intro hrelease hidle
      rw [hshown, ns_of_step step, files_of_step step hmove hsettled]
      exact hheld (hshown ▸ hrelease) fun hs => hidle (saves_of_step step hmove hafter hs)

/-- A namespace starts with what the cache holds. -/
theorem durable_start (hstore : frame.setting.cache = some store) (ns : String) :
    (SyncMachine.start (L := L) frame.setting f ns now).1.Durable store f := by
  intro hrelease _
  rw [ns_start]
  have horigin := origin_start (L := L) frame.setting f ns now
  generalize (SyncMachine.start (L := L) frame.setting f ns now).1.shown = shown
    at horigin hrelease ⊢
  cases horigin with
  | nothing => cases hrelease
  | loaded hcached =>
    rw [SyncSetting.cached, hstore] at hcached
    exact ⟨shown, hcached, rfl, fun _ => rfl⟩
  | committed ht | confirmed _ ht | recognised _ ht => cases ht

end SyncMachine

/-! ## §4 Runs -/

/-- A release that was stored while the disk had nothing else to do is on disk if its write was
done. -/
theorem Stored.exists_write {setting : SyncSetting} {store : CacheStore} {ns : String} {f : Files}
    {snapshot : Snapshot} {h : List (SyncStep L)} (hs : Stored setting ns f snapshot h)
    (hstore : setting.cache = some store) (hsettled : ∀ s ∈ h, ∀ fault, s.move ≠ .settled fault) :
    ∃ (u v : List (SyncStep L)) (d : SyncStep L) (fault : Option CacheStore.Fault),
      h = u ++ d :: v ∧ Delivered snapshot u ∧ d.move = .saved fault
        ∧ filesAfter f h = (store.saveWith fault f ns snapshot).1 := by
  obtain ⟨u, d, v, fault, rfl, hdelivered, hbefore, hmove, hsaved, hafter⟩ := hs
  have hfirst : filesAfter f u = f :=
    filesAfter_of_untouched hbefore fun t ht => hsettled t (by simp [ht])
  have hlast : filesAfter d.files v = d.files :=
    filesAfter_of_untouched hafter fun t ht => hsettled t (by simp [ht])
  have hthrough : filesAfter f (u ++ d :: v) = filesAfter d.files v := by simp [filesAfter]
  refine ⟨u, v, d, fault, rfl, hdelivered, hmove, ?_⟩
  rw [hthrough, hlast, hsaved, hfirst, SyncSetting.filesSaved, hstore]

namespace SyncRun

variable {frame : SyncFrame L} {m₀ m : SyncMachine L} {f₀ f : Files} {h : List (SyncStep L)}
  {store : CacheStore}

/-- A disk that is never left with something to finish finishes nothing. -/
theorem not_settled_of_detached (run : SyncRun frame m₀ f₀ h m f) (h₀ : m₀.detached = [])
    (hdetached : ∀ s ∈ h, s.after.detached = []) :
    m.detached = [] ∧ ∀ s ∈ h, ∀ fault, s.move ≠ .settled fault := by
  induction run with
  | nil => exact ⟨h₀, fun _ hs => absurd hs List.not_mem_nil⟩
  | snoc run hstep ih =>
    obtain ⟨hbefore, hnone⟩ := ih fun s hs => hdetached s (List.mem_append_left _ hs)
    refine ⟨hdetached _ List.mem_concat_self, fun s hs fault hmove => ?_⟩
    rcases List.mem_append.1 hs with hs | hs
    · exact hnone s hs fault hmove
    · obtain rfl := List.mem_singleton.1 hs
      cases hmove
      cases SyncMachine.step_of_step? hstep with
      | settled hleft =>
        rw [hbefore] at hleft
        cases hleft

/-- The cache keeps in step with what is shown. -/
theorem durable (run : SyncRun frame m₀ f₀ h m f) (hstore : frame.setting.cache = some store)
    (hidle : m₀.active = none) (h₀ : m₀.Durable store f₀) (hnone : m₀.detached = [])
    (hdetached : ∀ s ∈ h, s.after.detached = []) :
    LastWriteDone store m₀.sync.ns f₀ h → m.Durable store f := by
  induction run with
  | nil => exact fun _ => h₀
  | @snoc history m m' f f' now move events run hstep ih =>
    have hearlier (s : SyncStep L) (hs : s ∈ history) := hdetached s (List.mem_append_left _ hs)
    have hm := ih hearlier
    -- What the disk is asked to save is what is shown, by the course that the refresh has taken.
    have hsaving (caller : Nat) (snapshot : Snapshot) (changes : ChangeSet)
        (hactive : m.active = some ⟨caller, .saving snapshot changes⟩) : snapshot = m.shown := by
      obtain ⟨_, _, _, -, -, -, hcourse⟩ := run.exists_course hidle hactive
      exact (hcourse _ hactive).1
    rw [← run.ns_eq] at hm ⊢
    exact SyncMachine.durable_of_step hstore hm (run.fits (SyncMachine.fits_of_none hidle)) hsaving
      run.filesAfter_eq (run.not_settled_of_detached hnone hearlier).1
      (hdetached _ List.mem_concat_self) (SyncMachine.step_of_step? hstep)

section Ended

variable {fetch : FetchConfig} {ns : String} {h₁ since h₂ : List (SyncStep L)} {e t : SyncStep L}
  {caller c n : Nat}

/-- A refresh that ends with something new has written what is shown. -/
theorem exists_write_of_updated (run : SyncRun frame m₀ f₀ (h₁ ++ e :: since ++ t :: h₂) m f)
    (hns : m₀.sync.ns = ns) (hfetched : Fetched fetch ns (h₁ ++ e :: since ++ t :: h₂))
    (hstore : frame.setting.cache = some store)
    (hsettled : ∀ s ∈ h₁ ++ e :: since ++ t :: h₂, ∀ fault, s.move ≠ .settled fault)
    (henter : e.move = .enter caller) (hnone : NoEnter since)
    (hended : .ended c (.updated n) ∈ t.events) :
    ∃ (u v : List (SyncStep L)) (d : SyncStep L) (fault : Option CacheStore.Fault),
      since = u ++ d :: v ∧ Delivered t.after.shown u ∧ d.move = .saved fault
        ∧ ((store.saveWith fault e.files ns t.after.shown).2 = .written
            ∨ (store.saveWith fault e.files ns t.after.shown).2 = .skipped →
          store.Holds t.files ns t.after.shown) := by
  have hends := run.course_of_ended henter hnone hended
  obtain ⟨g, run₁, last⟩ := run.exists_before
  rcases hends with ⟨result, backoff, hmove, -⟩ | ⟨hmove, -, changes, -, hcame⟩
  · -- Whoever ends with his answer has nothing new to tell.
    rw [hmove] at last
    exact absurd hended (SyncMachine.not_updated_of_answer last)
  obtain ⟨-, hstored⟩ := hcame.resolve_right fun hfailed => nomatch hfailed.1
  rw [hns] at hstored
  obtain ⟨u, v, d, fault, rfl, hdelivered, hsaved, hwritten⟩ :=
    hstored.exists_write hstore fun s hs => hsettled s (by simp [hs])
  -- The last step of the refresh shows nothing new and writes nothing.
  have hshown : t.after.shown = t.before.shown := SyncMachine.shown_of_step last hmove
  have hdisk : t.files = (store.saveWith fault e.files ns t.before.shown).1 := by
    rw [SyncMachine.files_of_ended last hended, ← run₁.cut.2.filesAfter_eq, hwritten]
  obtain ⟨a, ha, backoff, hanswer⟩ := hdelivered
  have hrelease := (hfetched a (by simp [ha]) _ backoff hanswer).release_isSome
  rw [hshown, hdisk]
  exact ⟨u, v, d, fault, rfl, ⟨a, ha, backoff, hanswer⟩, hsaved, CacheStore.holds_saveWith hrelease⟩

/-- A refresh that ends with nothing new neither writes nor changes what would be written. -/
theorem holds_iff_of_unchanged (run : SyncRun frame m₀ f₀ (h₁ ++ e :: since ++ t :: h₂) m f)
    (hfits : m₀.Fits)
    (hsettled : ∀ s ∈ h₁ ++ e :: since ++ t :: h₂, ∀ fault, s.move ≠ .settled fault)
    (henter : e.move = .enter caller) (hnone : NoEnter since)
    (hended : .ended c .unchanged ∈ t.events) :
    store.Holds t.files ns t.after.shown ↔ store.Holds e.files ns e.before.shown := by
  have hends := run.course_of_ended henter hnone hended
  obtain ⟨g, run₁, last⟩ := run.exists_before
  rcases hends with ⟨result, backoff, hmove, hfirst, -, huntouched⟩ | ⟨-, -, changes, -, hcame⟩
  · -- From its beginning to its answer the refresh has left the disk alone.
    rw [hmove] at last
    obtain ⟨hrelease, hentries⟩ := SyncMachine.same_of_unchanged (run₁.fits hfits) last hended
    have hwritten := SyncMachine.files_of_ended last hended
    have hkept := filesAfter_of_untouched huntouched fun s hs => hsettled s (by simp [hs])
    have hfiles : t.files = e.files := by rw [hwritten, ← run₁.cut.2.filesAfter_eq, hkept]
    rw [hfiles, CacheStore.holds_congr hrelease hentries, hfirst]
  · -- Whoever has replaced something ends otherwise.
    rcases hcame with ⟨⟨n, hn⟩, -⟩ | ⟨hfailed, -⟩
    · cases hn
    · cases hfailed

end Ended

/-- **What the cache holds when a refresh has ended** and what is shown came from the server, if
nobody gave up a refresh while the disk was busy with it. A refresh that ends with something new has
fetched and written what is shown, and the cache holds it if that write was done. A refresh that
ends with nothing new leaves the cache as it was: it holds what is shown afterwards if and only if
it held what was shown before, and it does hold it if the last write was done. -/
theorem holds_of_confirmed {fetch : FetchConfig} {ns : String} {now : Instant}
    {h₁ since h₂ : List (SyncStep L)} {e t : SyncStep L} {caller c : Nat} {outcome : RefreshOutcome}
    (run : SyncRun frame (SyncMachine.start frame.setting f₀ ns now).1 f₀
      (h₁ ++ e :: since ++ t :: h₂) m f)
    (hfetched : Fetched fetch ns (h₁ ++ e :: since ++ t :: h₂))
    (hstore : frame.setting.cache = some store)
    (hdetached : ∀ s ∈ h₁ ++ e :: since ++ t :: h₂, s.after.detached = [])
    (henter : e.move = .enter caller) (hnone : NoEnter since)
    (hended : .ended c outcome ∈ t.events) (hremote : t.after.shown.source = .remote) :
    (∀ n, outcome = .updated n →
        ∃ (u v : List (SyncStep L)) (d : SyncStep L) (fault : Option CacheStore.Fault),
          since = u ++ d :: v ∧ Delivered t.after.shown u ∧ d.move = .saved fault
          ∧ ((store.saveWith fault e.files ns t.after.shown).2 = .written
              ∨ (store.saveWith fault e.files ns t.after.shown).2 = .skipped →
            store.Holds t.files ns t.after.shown))
      ∧ (outcome = .unchanged →
        (store.Holds t.files ns t.after.shown ↔ store.Holds e.files ns e.before.shown)
          ∧ (LastWriteDone store ns f₀ (h₁ ++ e :: since ++ [t]) →
            store.Holds t.files ns t.after.shown)) := by
  have hns := SyncMachine.ns_start (L := L) frame.setting f₀ ns now
  obtain ⟨-, hsettled⟩ := run.not_settled_of_detached rfl hdetached
  refine ⟨?_, ?_⟩
  · rintro n rfl
    exact run.exists_write_of_updated hns hfetched hstore hsettled henter hnone hended
  · rintro rfl
    have hfits := SyncMachine.fits_of_none
      (rfl : (SyncMachine.start (L := L) frame.setting f₀ ns now).1.active = none)
    refine ⟨run.holds_iff_of_unchanged hfits hsettled henter hnone hended, fun hdone => ?_⟩
    obtain ⟨g, -, last⟩ := run.exists_before
    have hthrough {s : SyncStep L} (hs : s ∈ h₁ ++ e :: since ++ [t]) :
        s ∈ h₁ ++ e :: since ++ t :: h₂ := by
      simp only [List.mem_append, List.mem_cons, List.not_mem_nil, or_false] at hs ⊢
      tauto
    have horigin := run.cut.1.origin fun s hs => hfetched s (hthrough hs)
    -- What came from the server has a release, so the invariant speaks about it.
    have hrelease : t.after.shown.release.isSome = true := by
      refine (horigin.release_isSome_iff (fun s hs => hfetched s (hthrough hs))
        SyncSetting.source_of_cached).2 ?_
      simp [hremote]
    have hidle : ¬t.after.Saves := by
      rintro ⟨_, _, _, hsaving⟩
      rw [SyncMachine.active_of_ended last hended] at hsaving
      cases hsaving
    have hheld := run.cut.1.durable hstore rfl (SyncMachine.durable_start hstore ns) rfl
      (fun s hs => hdetached s (hthrough hs)) (hns.symm ▸ hdone) hrelease hidle
    rwa [run.cut.1.ns_eq, hns] at hheld

/-- The first write fails, the next release is written, and then confirmed. -/
theorem holds_of_confirmed_second_release :
    ∃ (h₁ since : List (SyncStep Unit)) (e t : SyncStep Unit) (m : SyncMachine Unit) (f : Files)
      (store : CacheStore), SyncFrame.stored.setting.cache = some store
        ∧ SyncRun .stored (SyncMachine.start SyncFrame.stored.setting {} "app" 0).1 {}
          (h₁ ++ e :: since ++ [t]) m f
        ∧ Fetched .demo "app" (h₁ ++ e :: since ++ [t])
        ∧ (∀ s ∈ h₁ ++ e :: since ++ [t], s.after.detached = [])
        ∧ e.move = .enter 1 ∧ .ended 1 .unchanged ∈ t.events ∧ t.after.shown.source = .remote
        ∧ LastWriteDone store "app" {} (h₁ ++ e :: since ++ [t])
        ∧ t.after.shown.get? "a" = some "y" ∧ store.Holds t.files "app" t.after.shown := by
  let store : CacheStore := ⟨[], "", "demo", "default"⟩
  let fetched (release value : String) : FetchResult :=
    .ok (FetchConfig.demo.outcomeOf "app" (.body ⟨.ofList [("a", value)], release⟩))
  have hplayed := exists_refresh_of_play? .stored
    (SyncMachine.start SyncFrame.stored.setting {} "app" 0).1 {}
    [(0, .launch), (0, .enter workerId), (0, .permit), (0, .answer (fetched "1" "x") {}),
      (0, .saved (some ⟨.creating, false, false⟩)), (0, .gather), (0, .call 1), (0, .enter 1),
      (0, .permit), (0, .answer (fetched "2" "y") {}), (0, .saved none), (0, .gather), (0, .call 1)]
    [(0, .permit)] (0, .enter 1)
    (0, .answer (.ok (FetchConfig.demo.outcomeOf "app" .notModified)) {})
    (fun seen => (seen.1.getLast?.any fun t =>
        (t.events.any (·.outcome? == some (1, .unchanged)) && t.after.shown.source == .remote)
          && t.after.shown.get? "a" == some "y")
      && (lastWrite? store "app" {} seen.1 == some .written
        && seen.1.all fun s => s.after.detached == []))
    (by decide +kernel)
  obtain ⟨h₁, since, e, t, m, f, run, hfront, henter, hsince, hlast, hseen⟩ := hplayed
  have hfetched : Fetched .demo "app" (h₁ ++ e :: since ++ [t]) := by
    simp [fetched_iff_moves, hfront, henter, hsince, hlast, fetched, FetchConfig.yields_outcomeOf]
  have hnone : NoEnter since := by simp [noEnter_iff_moves, hsince]
  simp only [List.getLast?_concat, Option.any_some, Bool.and_eq_true, List.any_eq_true, beq_iff_eq,
    List.all_eq_true] at hseen
  obtain ⟨⟨⟨⟨ended, hended, houtcome⟩, hremote⟩, hshown⟩, hwritten, hdetached⟩ := hseen
  obtain rfl := SyncEvent.outcome?_eq_some_iff.1 houtcome
  have hdone : LastWriteDone store "app" {} (h₁ ++ e :: since ++ [t]) := by
    intro result hresult
    rw [hwritten] at hresult
    cases hresult
    exact .inl rfl
  obtain ⟨-, hunchanged⟩ :=
    run.holds_of_confirmed hfetched rfl hdetached henter hnone hended hremote
  exact ⟨h₁, since, e, t, m, f, store, rfl, run, hfetched, hdetached, henter, hended, hremote,
    hdone, hshown, (hunchanged rfl).2 hdone⟩

/-- **A confirmation does not make a failed write good**: the first release could not be written,
and while the server confirms it a write would succeed, but none is made, so that whoever starts
anew from what is on disk finds nothing. -/
theorem unheld_after_confirmation :
    ∃ (h₁ since : List (SyncStep Unit)) (e t : SyncStep Unit) (m : SyncMachine Unit) (f : Files)
      (store : CacheStore), SyncFrame.stored.setting.cache = some store
        ∧ SyncRun .stored (SyncMachine.start SyncFrame.stored.setting {} "app" 0).1 {}
          (h₁ ++ e :: since ++ [t]) m f
        ∧ Fetched .demo "app" (h₁ ++ e :: since ++ [t]) ∧ Completed (h₁ ++ e :: since ++ [t])
        ∧ e.move = .enter 1 ∧ NoEnter since ∧ .ended 1 .unchanged ∈ t.events
        ∧ t.after.shown.source = .remote
        ∧ (∀ s ∈ e :: since ++ [t],
          (store.saveWith none s.files "app" t.after.shown).2 = .written)
        ∧ ¬store.Holds t.files "app" t.after.shown
        ∧ (SyncMachine.start (L := Unit) SyncFrame.stored.setting t.files "app" 0).1.shown
          = .empty "app" := by
  let store : CacheStore := ⟨[], "", "demo", "default"⟩
  have hplayed := exists_refresh_of_play? .stored
    (SyncMachine.start SyncFrame.stored.setting {} "app" 0).1 {}
    [(0, .launch), (0, .enter workerId), (0, .permit),
      (0, .answer (.ok (FetchConfig.demo.outcomeOf "app" (.body ⟨.ofList [("a", "x")], "1"⟩))) {}),
      (0, .saved (some ⟨.creating, false, false⟩)), (0, .gather), (0, .call 1)]
    [(0, .permit)] (0, .enter 1)
    (0, .answer (.ok (FetchConfig.demo.outcomeOf "app" .notModified)) {})
    (fun seen => seen.1.getLast?.any fun t =>
      (t.events.any (·.outcome? == some (1, .unchanged)) && t.after.shown.source == .remote)
        && ((seen.1.drop 7).all fun s =>
            (store.saveWith none s.files "app" t.after.shown).2 == .written)
          && (store.load t.files "app" == none
            && (SyncMachine.start (L := Unit) SyncFrame.stored.setting t.files "app" 0).1.shown
              == .empty "app"))
    (by decide +kernel)
  obtain ⟨h₁, since, e, t, m, f, run, hfront, henter, hsince, hlast, hseen⟩ := hplayed
  have hfetched : Fetched .demo "app" (h₁ ++ e :: since ++ [t]) := by
    simp [fetched_iff_moves, hfront, henter, hsince, hlast, FetchConfig.yields_outcomeOf]
  have hcompleted : Completed (h₁ ++ e :: since ++ [t]) := by
    simp [completed_iff_moves, hfront, henter, hsince, hlast]
  have hnone : NoEnter since := by simp [noEnter_iff_moves, hsince]
  -- The refresh begins behind the first seven moves.
  have hlength : h₁.length = 7 := by simpa using congrArg List.length hfront
  have hrefresh : (h₁ ++ e :: since ++ [t]).drop 7 = e :: since ++ [t] := by
    rw [List.append_assoc, ← hlength, List.drop_left]
  simp only [hrefresh, List.getLast?_concat, Option.any_some, Bool.and_eq_true, List.any_eq_true,
    beq_iff_eq, List.all_eq_true] at hseen
  obtain ⟨⟨⟨⟨ended, hended, houtcome⟩, hremote⟩, hwritable⟩, hload, hrestart⟩ := hseen
  obtain rfl := SyncEvent.outcome?_eq_some_iff.1 houtcome
  have hunheld : ¬store.Holds t.files "app" t.after.shown := by
    rintro ⟨cached, hcached, -⟩
    rw [hload] at hcached
    cases hcached
  exact ⟨h₁, since, e, t, m, f, store, rfl, run, hfetched, hcompleted, henter, hnone, hended,
    hremote, hwritable, hunheld, hrestart⟩

end SyncRun

end LiveConfig
