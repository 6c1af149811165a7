import LiveConfig.Proofs.Cache.Saving
import LiveConfig.Proofs.Sync.Course

/-!
# What a listener finds

A listener is called only after what it is told about has been shown and, if it was fetched, saved.
So whoever asks the view or opens the cache from within a listener finds the new state, whoever else
asks for a refresh, comes, goes or fails meanwhile.

## Main statements

- `SyncMachine.delivering_of_called`: listeners are called by the refresh that delivers.
- `SyncRun.called_after_commit`: what every call finds, in the view and on disk.
-/

namespace LiveConfig

variable {L : Type}

/-! ## §1 Who calls -/

theorem mem_calls_iff {events : List (SyncEvent L)} {id : Nat} {changes : ChangeSet} :
    changes ∈ calls id events
      ↔ ∃ r shown failure, .called r changes shown failure ∈ events ∧ r.id = id := by
  rw [calls, List.mem_filterMap]
  constructor
  · rintro ⟨e, he, hreceived⟩
    cases e with
    | called r c shown failure =>
      simp only [SyncEvent.received?, Option.ite_none_right_eq_some, Option.some.injEq] at hreceived
      obtain ⟨hid, rfl⟩ := hreceived
      exact ⟨r, shown, failure, he, hid⟩
    | observed | logged | ended => cases hreceived
  · rintro ⟨r, shown, failure, he, hid⟩
    exact ⟨_, he, if_pos hid⟩

theorem Sync.called_of_deliver {react : L → ChangeSet → Listeners.Reaction L}
    {changes delivered : ChangeSet} {next r : Registration L} {s : Sync L} {shown : Snapshot}
    {failure : Option String}
    (h : SyncEvent.called r changes shown failure ∈ (s.deliver react delivered next).2) :
    r = next ∧ changes = delivered ∧ shown = s.view.snapshot := by
  unfold Sync.deliver at h
  cases hfailure : (s.view.listeners.call react delivered next).2 with
  | none =>
    simp [hfailure] at h
    simp [h]
  | some text =>
    simp [hfailure] at h
    simp [h]

namespace SyncMachine

variable {frame : SyncFrame L} {now : Instant} {m m' : SyncMachine L} {f f' : Files}
  {move : SyncMove L} {events : List (SyncEvent L)}

/-- **Listeners are called by the refresh that delivers**, which changes neither the view nor the
files. -/
theorem delivering_of_called (step : m.Step frame now f move m' f' events) {r : Registration L}
    {changes : ChangeSet} {shown : Snapshot} {failure : Option String}
    (hcall : .called r changes shown failure ∈ events) :
    (∃ caller left outcome, m.active = some ⟨caller, .delivering changes (r :: left) outcome⟩)
      ∧ shown = m.shown ∧ m'.shown = m.shown ∧ f' = f := by
  have hcalls := mem_calls_iff.2 ⟨_, _, _, hcall, rfl⟩
  cases step with
  | answer hactive hanswer =>
    rw [calls_append, hanswer.calls_eq_nil, calls_proceed] at hcalls
    cases hcalls
  | saved =>
    rw [Sync.calls_save] at hcalls
    cases hcalls
  | gather =>
    rw [calls_tell] at hcalls
    cases hcalls
  | @deliver caller delivered next left outcome hactive =>
    rcases List.mem_append.1 hcall with hcall | hcall
    · obtain ⟨rfl, rfl, rfl⟩ := Sync.called_of_deliver hcall
      exact ⟨⟨caller, left, outcome, hactive⟩, rfl, by rw [shown_tell]; rfl, rfl⟩
    · -- Who goes on to the next listener calls nobody yet.
      have hcalls := mem_calls_iff.2 ⟨_, _, _, hcall, rfl⟩
      rw [calls_tell] at hcalls
      cases hcalls
  | _ => cases hcall

@[simp] theorem detached_letGo (caller : Nat) (m : SyncMachine L) :
    (m.letGo caller).detached = m.detached := by
  unfold letGo workerAfter
  split <;> rfl

@[simp] theorem detached_proceed (caller : Nat) (remaining : Remaining) (m : SyncMachine L) :
    (m.proceed caller remaining).1.detached = m.detached := by
  cases remaining <;> simp [proceed]

@[simp] theorem detached_tell (caller : Nat) (changes : ChangeSet) (left : List (Registration L))
    (outcome : RefreshOutcome) (m : SyncMachine L) :
    (m.tell caller changes left outcome).1.detached = m.detached := by
  cases left <;> simp [tell]

/-- Where nobody gives up, the disk is never left with something to finish. -/
theorem detached_of_step (hm : m.detached = []) (step : m.Step frame now f move m' f' events)
    (hmove : ∀ caller, move ≠ .abandon caller) : m'.detached = [] := by
  cases step with
  | answer =>
    rw [detached_proceed]
    exact hm
  | gather | deliver =>
    rw [detached_tell]
    exact hm
  | abandon => exact absurd rfl (hmove _)
  | settled hdetached =>
    rw [hm] at hdetached
    cases hdetached
  | _ => exact hm

end SyncMachine

/-! ## §2 Runs -/

namespace SyncRun

variable {frame : SyncFrame L} {m₀ m : SyncMachine L} {f₀ f : Files} {h : List (SyncStep L)}

theorem not_settled (run : SyncRun frame m₀ f₀ h m f) (hc : Completed h)
    (h₀ : m₀.detached = []) : m.detached = [] ∧ ∀ s ∈ h, ∀ fault, s.move ≠ .settled fault := by
  induction run with
  | nil => exact ⟨h₀, fun _ hs => absurd hs List.not_mem_nil⟩
  | snoc run hstep ih =>
    obtain ⟨hc, hlast⟩ := completed_append.1 hc
    obtain ⟨hdetached, hbefore⟩ := ih hc
    have step := SyncMachine.step_of_step? hstep
    have hkept := SyncMachine.detached_of_step hdetached step (hlast _ (List.mem_singleton_self _))
    refine ⟨hkept, fun s hs fault hmove => ?_⟩
    rcases List.mem_append.1 hs with hs | hs
    · exact hbefore s hs fault hmove
    · -- There was nothing to finish before this step.
      obtain rfl := List.mem_singleton.1 hs
      cases hmove
      cases step with
      | settled hleft =>
        rw [hdetached] at hleft
        cases hleft

/-- **Listeners are called after the commit.** In every run in which nobody gives up, whoever moves
in between: when a listener is called, the view shows the release that it is told about, and every
key that it is told about has the new value there. What is shown was delivered by a fetch of the
refresh that calls, and the disk has been asked to save it, so that the cache holds it if that
worked; or the fetch of this refresh has failed, what is shown is empty, and nothing was written. -/
theorem called_after_commit {c : FetchConfig} {ns : String} {now : Instant}
    (run : SyncRun frame (SyncMachine.start frame.setting f₀ ns now).1 f₀ h m f)
    (hc : Completed h) (hfetched : Fetched c ns h) {h₁ h₂ : List (SyncStep L)} {s : SyncStep L}
    (hsplit : h = h₁ ++ s :: h₂) {r : Registration L} {changes : ChangeSet} {shown : Snapshot}
    {failure : Option String} (hcall : .called r changes shown failure ∈ s.events) :
    shown = s.before.shown ∧ shown = s.after.shown ∧ shown.release = changes.release
      ∧ (∀ p ∈ changes.changes, s.before.sync.view.get? p.1 = p.2.new?)
      ∧ ∃ (before since : List (SyncStep L)) (e : SyncStep L) (caller : Nat),
        h₁ = before ++ e :: since ∧ e.move = .enter caller ∧ NoEnter since
        ∧ changes = ChangeSet.diff e.before.shown shown
        ∧ ((∃ (u v : List (SyncStep L)) (d : SyncStep L) (fault : Option CacheStore.Fault),
              since = u ++ d :: v ∧ Delivered shown u ∧ d.move = .saved fault
              ∧ ∀ store, frame.setting.cache = some store →
                s.files = (store.saveWith fault e.files ns shown).1
                ∧ ((store.saveWith fault e.files ns shown).2 = .written
                    ∨ (store.saveWith fault e.files ns shown).2 = .skipped →
                  store.Holds s.files ns shown))
          ∨ shown = .empty ns ∧ s.files = e.files
            ∧ ∃ a ∈ since, (∃ error backoff, a.move = .answer (.error error) backoff)
              ∧ .observed (.fallbackExpired ns) ∈ a.events) := by
  subst hsplit
  have hidle : (SyncMachine.start (L := L) frame.setting f₀ ns now).1.active = none := rfl
  obtain ⟨-, hsettled⟩ := run.not_settled hc rfl
  obtain ⟨g, run₁, step⟩ := run.exists_before
  obtain ⟨⟨caller, left, outcome, hactive⟩, rfl, hkept, hfiles⟩ :=
    SyncMachine.delivering_of_called step hcall
  -- The refresh that delivers has a beginning, and has come to deliver in one of two ways.
  obtain ⟨before, since, e, rfl, henter, hnone, hcourse⟩ := run₁.exists_course hidle hactive
  have hend : filesAfter e.files since = s.files := run₁.cut.2.filesAfter_eq.trans hfiles.symm
  rw [SyncMachine.ns_start] at hcourse
  obtain ⟨hchanges, hcame⟩ : Replaced .. := hcourse _ hactive
  have hview (p : String × Change) (hp : p ∈ changes.changes) :
      s.before.sync.view.get? p.1 = p.2.new? :=
    (ChangeSet.new?_of_mem_diff (hchanges ▸ hp)).symm
  refine ⟨rfl, hkept.symm, by rw [hchanges]; rfl, hview, before, since, e, caller, rfl, henter,
    hnone, hchanges, ?_⟩
  rcases hcame with ⟨-, u, d, v, fault, rfl, hdelivered, hbefore, hmove, hsaved, hafter⟩
    | ⟨-, hempty, huntouched, hfailed⟩
  · left
    refine ⟨u, v, d, fault, rfl, hdelivered, hmove, fun store hstore => ?_⟩
    -- Nothing was written before the disk did its work, and nothing after it.
    have hfirst : filesAfter e.files u = e.files :=
      filesAfter_of_untouched hbefore fun t ht => hsettled t (by simp [ht])
    have hlast : filesAfter d.files v = d.files :=
      filesAfter_of_untouched hafter fun t ht => hsettled t (by simp [ht])
    have hthrough : filesAfter e.files (u ++ d :: v) = filesAfter d.files v := by
      simp [filesAfter]
    have hsame : s.files = (store.saveWith fault e.files ns s.before.shown).1 := by
      rw [← hend, hthrough, hlast, hsaved, hfirst, SyncSetting.filesSaved, hstore]
    obtain ⟨t, ht, backoff, hanswer⟩ := hdelivered
    have hrelease := (hfetched t (by simp [ht]) _ backoff hanswer).release_isSome
    rw [hsame]
    exact ⟨rfl, CacheStore.holds_saveWith hrelease⟩
  · right
    have hsame := filesAfter_of_untouched huntouched fun t ht => hsettled t (by simp [ht])
    exact ⟨hempty, hend.symm.trans hsame, hfailed⟩

/-- A fetched release is saved and then told to the one who listens, who finds it in the cache. -/
theorem called_after_commit_first_release :
    ∃ (h₁ h₂ : List (SyncStep Unit)) (s : SyncStep Unit) (m : SyncMachine Unit) (f : Files)
      (r : Registration Unit) (changes : ChangeSet) (shown : Snapshot) (failure : Option String),
      SyncRun .stored (SyncMachine.start SyncFrame.stored.setting {} "app" 0).1 {} (h₁ ++ s :: h₂)
          m f
        ∧ Completed (h₁ ++ s :: h₂) ∧ Fetched .demo "app" (h₁ ++ s :: h₂)
        ∧ .called r changes shown failure ∈ s.events ∧ changes.keys = ["a"]
        ∧ shown = s.before.shown ∧ shown.release = some "1"
        ∧ (∀ p ∈ changes.changes, s.before.sync.view.get? p.1 = p.2.new?)
        ∧ (∃ d ∈ h₁, ∃ fault, d.move = .saved fault)
        ∧ ∃ store, SyncFrame.stored.setting.cache = some store
          ∧ store.Holds s.files "app" shown := by
  have hplayed := SyncRun.exists_of_play? .stored
    (SyncMachine.start SyncFrame.stored.setting {} "app" 0).1 {}
    [(0, .subscribe () {}), (0, .launch), (0, .enter workerId), (0, .permit),
      (0, .answer (.ok (FetchConfig.demo.outcomeOf "app" (.body ⟨.ofList [("a", "x")], "1"⟩))) {}),
      (0, .saved none), (0, .gather), (0, .deliver)]
    (fun seen => (seen.1[7]?.any fun s =>
        s.before.shown == ⟨"app", some "1", .remote, .ofList [("a", "x")]⟩
          && (calls 1 s.events).any fun c => c.keys == ["a"] && c.release == some "1")
      && seen.1.all fun t => match t.move with
        | .enter _ => t.files == {}
        | _ => true)
    (by decide +kernel)
  obtain ⟨h, m, f, run, hmoves, hseen⟩ := hplayed
  simp only [Option.any_eq_true, List.any_eq_true, List.all_eq_true, Bool.and_eq_true,
    beq_iff_eq] at hseen
  obtain ⟨⟨s, hs, hcommitted, changes, hchanges, hkeys, hrelease⟩, huntouched⟩ := hseen
  obtain ⟨r, shown, failure, hcall, -⟩ := mem_calls_iff.1 hchanges
  have hcompleted : Completed h := by simp [completed_iff_moves, hmoves]
  have hfetched : Fetched .demo "app" h := by
    simp [fetched_iff_moves, hmoves, FetchConfig.yields_outcomeOf]
  obtain ⟨hlt, rfl⟩ := List.getElem?_eq_some_iff.1 hs
  have hsplit : h = h.take 7 ++ h[7] :: h.drop 8 := by simp
  obtain ⟨hshown, -, hsame, hview, before, since, e, caller, hbefore, henter, -, -, hcame⟩ :=
    run.called_after_commit hcompleted hfetched hsplit hcall
  refine ⟨h.take 7, h.drop 8, h[7], m, f, r, changes, shown, failure, hsplit ▸ run,
    hsplit ▸ hcompleted, hsplit ▸ hfetched, hcall, hkeys, hshown, hsame.trans hrelease, hview, ?_⟩
  rcases hcame with ⟨u, v, d, fault, rfl, -, hmove, hcached⟩ | ⟨hempty, -⟩
  · have hd : d ∈ h.take 7 := by simp [hbefore]
    have he : e ∈ h.take 7 := by simp [hbefore]
    -- The disk was asked once, had nothing before, and did not fail.
    obtain rfl : fault = none := by
      have hasked : SyncMove.saved fault ∈ h.map SyncStep.move :=
        List.mem_map.2 ⟨d, List.mem_of_mem_take hd, hmove⟩
      simpa [hmoves] using hasked
    have hnothing : e.files = {} := by
      simpa [henter] using huntouched e (List.mem_of_mem_take he)
    refine ⟨⟨d, hd, none, hmove⟩, _, rfl, (hcached _ rfl).2 (.inl ?_)⟩
    rw [hnothing, hshown, hcommitted]
    decide +kernel
  · -- An empty snapshot has no release.
    rw [hrelease, hempty] at hsame
    cases hsame

end SyncRun

end LiveConfig
