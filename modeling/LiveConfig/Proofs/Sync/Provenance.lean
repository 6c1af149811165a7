import LiveConfig.Proofs.Sync.Course

/-!
# Where what is shown comes from

A snapshot says where it came from, and says the truth: it is empty and of no release, or the one
that the cache held at the start and that no answer has touched since, or one that the server has
delivered or confirmed.

## Main statements

- `SyncMachine.origin_of_step`: whatever moves, what is shown has an origin.
- `SyncRun.silent_of_uneventful`: a refresh that has nothing to change changes nothing.
- `SyncRun.provenance`: what the source of a snapshot says, and how it may change.
-/

namespace LiveConfig

variable {L : Type}

/-! ## §1 Confirmations -/

/-- Whether a move is an answer that delivers a release or confirms the known one. -/
def SyncMove.confirms : SyncMove L → Bool
  | .answer (.ok (.updated _)) _ | .answer (.ok .notModified) _ => true
  | _ => false

theorem SyncMove.confirms_eq_false {move : SyncMove L}
    (h : ∀ result backoff, move ≠ .answer result backoff) : move.confirms = false := by
  cases move with
  | answer result backoff => exact absurd rfl (h result backoff)
  | _ => rfl

/-- When the server last confirmed or delivered something, or else the start. -/
def lastConfirmation (start : Instant) (h : List (SyncStep L)) : Instant :=
  h.foldl (fun last s => if s.move.confirms then s.moment else last) start

theorem lastConfirmation_concat (start : Instant) (h : List (SyncStep L)) (s : SyncStep L) :
    lastConfirmation start (h ++ [s])
      = if s.move.confirms then s.moment else lastConfirmation start h := by
  simp [lastConfirmation]

namespace SyncMachine

variable {frame : SyncFrame L} {now : Instant} {m m' : SyncMachine L} {f f' : Files}
  {move : SyncMove L} {events : List (SyncEvent L)}

theorem lastConfirmed_of_step (step : m.Step frame now f move m' f' events) :
    m'.sync.lastConfirmed = if move.confirms then now else m.sync.lastConfirmed := by
  by_cases hrefreshes : move.refreshes = true
  · cases step with
    | answer _ hanswer =>
      rw [sync_proceed]
      cases hanswer <;> simp [Sync.confirmed, Sync.notFound, SyncMove.confirms]
    | gather =>
      rw [sync_tell]
      rfl
    | deliver =>
      rw [sync_tell]
      rfl
    | enter | permit | saved => rfl
    | _ => cases hrefreshes
  · rw [Bool.not_eq_true] at hrefreshes
    have hconfirms : move.confirms = false := by
      apply SyncMove.confirms_eq_false
      rintro result backoff rfl
      cases hrefreshes
    rw [(aside_of_step step hrefreshes).1.lastConfirmed_eq, hconfirms]
    rfl

/-- Only answers replace what is shown. -/
theorem shown_of_step (step : m.Step frame now f move m' f' events)
    (hmove : ∀ result backoff, move ≠ .answer result backoff) : m'.shown = m.shown := by
  by_cases hrefreshes : move.refreshes = true
  · cases step with
    | answer => exact absurd rfl (hmove _ _)
    | gather => rw [shown_tell]
    | deliver =>
      rw [shown_tell]
      rfl
    | enter | permit | saved => rfl
    | _ => cases hrefreshes
  · rw [Bool.not_eq_true] at hrefreshes
    exact (aside_of_step step hrefreshes).1.shown_eq

end SyncMachine

/-! ## §2 Origins -/

/-- Where a snapshot comes from, in a namespace that found `cached` in its cache and has the history
`h`. -/
inductive Origin (cached : Option Snapshot) (ns : String) (h : List (SyncStep L)) : Snapshot → Prop
  /-- Nothing is known, or nothing is known any more. -/
  | nothing : Origin cached ns h (.empty ns)
  | loaded {s : Snapshot} (hcached : cached = some s) (hnone : ∀ t ∈ h, t.move.confirms = false) :
      Origin cached ns h s
  | committed {s : Snapshot} {t : SyncStep L} {backoff : Backoff} {caller : Nat}
      {changes : ChangeSet} (ht : t ∈ h) (hmove : t.move = .answer (.ok (.updated s)) backoff)
      (hactive : t.after.active = some ⟨caller, .saving s changes⟩) : Origin cached ns h s
  | confirmed {s : Snapshot} {t : SyncStep L} {backoff : Backoff} (hcached : cached = some s)
      (ht : t ∈ h) (hmove : t.move = .answer (.ok .notModified) backoff)
      (hshown : t.before.shown = s) : Origin cached ns h (s.withSource .remote)
  /-- The release from the cache was delivered with the same entries. -/
  | recognised {old s : Snapshot} {t : SyncStep L} {backoff : Backoff} (hcached : cached = some old)
      (ht : t ∈ h) (hmove : t.move = .answer (.ok (.updated s)) backoff)
      (hshown : t.before.shown = old) (hrelease : s.release = old.release)
      (hentries : ∀ k, s.get? k = old.get? k) : Origin cached ns h s

/-- A release of a name was delivered and committed. -/
def CommittedRelease (key : String) (h : List (SyncStep L)) : Prop :=
  ∃ s ∈ h, ∃ snapshot backoff caller changes, s.move = .answer (.ok (.updated snapshot)) backoff
    ∧ s.after.active = some ⟨caller, .saving snapshot changes⟩ ∧ snapshot.release = some key

/-- The release from the cache has a name, and was confirmed or delivered with the same entries
while it was shown. -/
def ConfirmedRelease (cached : Option Snapshot) (key : String) (h : List (SyncStep L)) : Prop :=
  ∃ old, cached = some old ∧ old.release = some key ∧ ∃ s ∈ h, s.before.shown = old
    ∧ ((∃ backoff, s.move = .answer (.ok .notModified) backoff)
      ∨ ∃ snapshot backoff, s.move = .answer (.ok (.updated snapshot)) backoff
        ∧ snapshot.release = some key ∧ ∀ k, snapshot.get? k = old.get? k)

theorem CacheStore.source_of_load {c : CacheStore} {f : Files} {ns : String} {s : Snapshot}
    (h : c.load f ns = some s) : s.source = .localFallback ∧ s.release.isSome = true := by
  unfold load at h
  cases hfound : c.lookUp f ns with
  | absent =>
    rw [hfound] at h
    cases h
  | unreadable =>
    rw [hfound] at h
    cases h
  | found r =>
    rw [hfound] at h
    cases h
    exact ⟨rfl, rfl⟩

/-- What the cache holds for a namespace, if there is a cache. -/
def SyncSetting.cached (setting : SyncSetting) (f : Files) (ns : String) : Option Snapshot :=
  setting.cache.bind fun c => c.load f ns

theorem SyncSetting.source_of_cached {setting : SyncSetting} {f : Files} {ns : String}
    (s : Snapshot) (h : setting.cached f ns = some s) :
    s.source = .localFallback ∧ s.release.isSome = true := by
  obtain ⟨store, -, hload⟩ := Option.bind_eq_some_iff.1 h
  exact CacheStore.source_of_load hload

section Origins

variable {cached : Option Snapshot} {c : FetchConfig} {ns : String} {h : List (SyncStep L)}
  {s : Snapshot} {t : SyncStep L}

/-- An origin outlasts every step, but for a loaded snapshot, which an answer confirms or
replaces. -/
theorem Origin.concat (ho : Origin cached ns h s)
    (ht : t.move.confirms = false ∨ s.source ≠ .localFallback)
    (hcached : ∀ s, cached = some s → s.source = .localFallback) :
    Origin cached ns (h ++ [t]) s := by
  cases ho with
  | nothing => exact .nothing
  | loaded hload hnone =>
    have hconfirms := ht.resolve_right fun hne => hne (hcached s hload)
    refine .loaded hload fun u hu => ?_
    rcases List.mem_append.1 hu with hu | hu
    · exact hnone u hu
    · obtain rfl := List.mem_singleton.1 hu
      exact hconfirms
  | committed hmem hmove hactive => exact .committed (List.mem_append_left _ hmem) hmove hactive
  | confirmed hload hmem hmove hshown =>
    exact .confirmed hload (List.mem_append_left _ hmem) hmove hshown
  | recognised hload hmem hmove hshown hrelease hentries =>
    exact .recognised hload (List.mem_append_left _ hmem) hmove hshown hrelease hentries

/-- What is neither remote nor unknown was loaded. -/
theorem Origin.loaded_of_release (ho : Origin cached ns h s) (hfetched : Fetched c ns h)
    (hsource : s.source ≠ .remote) (hrelease : s.release.isSome = true) :
    cached = some s ∧ ∀ t ∈ h, t.move.confirms = false := by
  cases ho with
  | nothing => cases hrelease
  | loaded hload hnone => exact ⟨hload, hnone⟩
  | committed hmem hmove => exact absurd (hfetched _ hmem _ _ hmove).source_eq hsource
  | confirmed => exact absurd rfl hsource
  | recognised _ hmem hmove => exact absurd (hfetched _ hmem _ _ hmove).source_eq hsource

/-- Either nothing is known at all, or there is a release, and it is known from somewhere. -/
theorem Origin.eq_empty_or (ho : Origin cached ns h s) (hfetched : Fetched c ns h)
    (hcached : ∀ s, cached = some s → s.source = .localFallback ∧ s.release.isSome = true) :
    s = .empty ns ∨ s.source ≠ .none ∧ s.release.isSome = true := by
  cases ho with
  | nothing => exact .inl rfl
  | loaded hload =>
    obtain ⟨hsource, hrelease⟩ := hcached s hload
    exact .inr ⟨by simp [hsource], hrelease⟩
  | committed hmem hmove =>
    have hyields := hfetched _ hmem _ _ hmove
    exact .inr ⟨by simp [hyields.source_eq], hyields.release_isSome⟩
  | @confirmed old _ _ hload =>
    exact .inr ⟨nofun, (hcached old hload).2⟩
  | recognised _ hmem hmove =>
    have hyields := hfetched _ hmem _ _ hmove
    exact .inr ⟨by simp [hyields.source_eq], hyields.release_isSome⟩

theorem Origin.release_isSome_iff (ho : Origin cached ns h s) (hfetched : Fetched c ns h)
    (hcached : ∀ s, cached = some s → s.source = .localFallback ∧ s.release.isSome = true) :
    s.release.isSome = true ↔ s.source ≠ .none := by
  rcases ho.eq_empty_or hfetched hcached with rfl | ⟨hsource, hrelease⟩
  · simp [Snapshot.empty]
  · exact iff_of_true hrelease hsource

/-- What came from the server is of a release that was committed, or of one that was confirmed. -/
theorem Origin.exists_release (ho : Origin cached ns h s) (hfetched : Fetched c ns h)
    (hcached : ∀ s, cached = some s → s.source = .localFallback ∧ s.release.isSome = true)
    (hremote : s.source = .remote) :
    ∃ key, s.release = some key ∧ (CommittedRelease key h ∨ ConfirmedRelease cached key h) := by
  cases ho with
  | nothing => cases hremote
  | loaded hload =>
    have hlocal := (hcached s hload).1.symm.trans hremote
    cases hlocal
  | committed hmem hmove hactive =>
    have hrelease := (hfetched _ hmem _ _ hmove).release_isSome
    obtain ⟨key, hkey⟩ := Option.isSome_iff_exists.1 hrelease
    exact ⟨key, hkey, .inl ⟨_, hmem, s, _, _, _, hmove, hactive, hkey⟩⟩
  | @confirmed old _ backoff hload hmem hmove hshown =>
    obtain ⟨key, hkey⟩ := Option.isSome_iff_exists.1 (hcached old hload).2
    exact ⟨key, hkey, .inr ⟨old, hload, hkey, _, hmem, hshown, .inl ⟨backoff, hmove⟩⟩⟩
  | @recognised old _ _ backoff hload hmem hmove hshown hrelease hentries =>
    obtain ⟨key, hkey⟩ := Option.isSome_iff_exists.1 (hcached old hload).2
    have hkeyNow := hrelease.trans hkey
    exact ⟨key, hkeyNow, .inr ⟨old, hload, hkey, _, hmem, hshown,
      .inr ⟨s, backoff, hmove, hkeyNow, hentries⟩⟩⟩

end Origins

theorem fetched_append {c : FetchConfig} {ns : String} {h h' : List (SyncStep L)} :
    Fetched c ns (h ++ h') ↔ Fetched c ns h ∧ Fetched c ns h' := List.forall_mem_append

namespace SyncMachine

variable {frame : SyncFrame L} {now : Instant} {m m' : SyncMachine L} {f f' : Files}
  {move : SyncMove L} {events : List (SyncEvent L)} {cached : Option Snapshot} {c : FetchConfig}
  {h : List (SyncStep L)}

/-- **Whatever moves, what is shown has an origin.** -/
theorem origin_of_step {ns : String} (hns : m.sync.ns = ns) (hm : Origin cached ns h m.shown)
    (hfits : m.Fits) (hfetched : Fetched c ns h)
    (hlast : ∀ result backoff, move = .answer result backoff → c.Yields ns result)
    (hcached : ∀ s, cached = some s → s.source = .localFallback ∧ s.release.isSome = true)
    (step : m.Step frame now f move m' f' events) :
    Origin cached ns (h ++ [⟨now, move, m, m', f', events⟩]) m'.shown := by
  subst hns
  have hlocal (s : Snapshot) (hs : cached = some s) : s.source = .localFallback := (hcached s hs).1
  have hmem (s : SyncStep L) : s ∈ h ++ [s] := List.mem_concat_self
  by_cases hanswer : ∃ result backoff, move = .answer result backoff
  · obtain ⟨result, backoff, rfl⟩ := hanswer
    have hyields := hlast _ _ rfl
    cases step with
    | @answer caller flight _ _ _ _ _ hactive hanswer =>
      have hprevious : flight.previous = m.shown := hfits _ hactive
      rw [shown_proceed]
      cases hanswer with
      | current _ hremote =>
        have hremote : m.shown.source = .remote := hremote
        exact hm.concat (.inr (by simp [hremote])) hlocal
      | recognised hknown hnotRemote hsame =>
        -- What has a release but is not remote was loaded.
        have hrelease : m.shown.release.isSome = true := hknown ▸ hyields.release_isSome
        obtain ⟨hload, -⟩ := hm.loaded_of_release hfetched hnotRemote hrelease
        exact .recognised hload (hmem _) rfl rfl hknown.symm fun k =>
          (ChangeSet.isEmpty_diff_iff.1 hsame k).symm
      | released => exact .committed (hmem _) rfl rfl
      | upgraded hnotRemote hrelease =>
        rw [hprevious] at hnotRemote hrelease ⊢
        obtain ⟨hload, -⟩ := hm.loaded_of_release hfetched hnotRemote hrelease
        exact .confirmed hload (hmem _) rfl rfl
      | unmodified hkept =>
        rw [hprevious] at hkept
        -- What was loaded has a release, so it would have been confirmed.
        refine hm.concat (.inr fun hloaded => hkept ?_) hlocal
        rw [hm.release_isSome_iff hfetched hcached, hloaded]
        exact ⟨nofun, nofun⟩
      | missing => exact hm.concat (.inl rfl) hlocal
      | failed =>
        rw [shown, Sync.view_failed, Sync.view_queueMessages]
        exact hm.concat (.inl rfl) hlocal
      | expired => exact .nothing
  · -- Only answers show or confirm anything.
    have hshown := shown_of_step step fun result backoff hmove => hanswer ⟨result, backoff, hmove⟩
    rw [hshown]
    have hconfirms := SyncMove.confirms_eq_false fun result backoff hmove =>
      hanswer ⟨result, backoff, hmove⟩
    exact hm.concat (.inl hconfirms) hlocal

/-- A namespace begins with what the cache holds, or with nothing. -/
theorem origin_start (setting : SyncSetting) (f : Files) (ns : String) (now : Instant) :
    Origin (setting.cached f ns) ns ([] : List (SyncStep L))
      (SyncMachine.start (L := L) setting f ns now).1.shown := by
  unfold SyncMachine.start Sync.start SyncSetting.cached
  cases setting.cache with
  | none => exact .nothing
  | some c =>
    simp only [Option.map_some, Option.bind_some, CacheStore.load]
    cases c.lookUp f ns with
    | absent => exact .nothing
    | unreadable => exact .nothing
    | found r => exact .loaded rfl fun _ ht => absurd ht List.not_mem_nil

end SyncMachine

/-! ## §3 Refreshes without an effect -/

/-- Whether a move is an answer that calls current what is known, whatever entries come with it. -/
def SyncMove.CallsCurrent (known : Snapshot) (move : SyncMove L) : Prop :=
  (∃ backoff, move = .answer (.ok .notModified) backoff)
    ∨ ∃ snapshot backoff, move = .answer (.ok (.updated snapshot)) backoff
      ∧ snapshot.release = known.release

/-- A refresh that has nothing to change, if `first` was shown when it began: the server knows no
such namespace, or the fetch fails and nothing expires, or the server calls current what it has
delivered before. -/
def Uneventful (ns : String) (first : Snapshot) (outcome : RefreshOutcome)
    (h : List (SyncStep L)) : Prop :=
  outcome = .notFound
    ∨ outcome = .failed ∧ (∀ s ∈ h, .observed (.fallbackExpired ns) ∉ s.events)
    ∨ first.source = .remote ∧ ∃ s ∈ h, s.move.CallsCurrent first

namespace SyncMachine

variable {frame : SyncFrame L} {now : Instant} {m m' : SyncMachine L} {f f' : Files}
  {move : SyncMove L} {events : List (SyncEvent L)} {first : Snapshot} {h : List (SyncStep L)}

/-- What the server has delivered and calls current is kept, and the refresh ends. -/
theorem idle_of_current (step : m.Step frame now f move m' f' events)
    (hremote : m.shown.source = .remote) (hcurrent : move.CallsCurrent m.shown) :
    m'.active = none := by
  rcases hcurrent with ⟨backoff, rfl⟩ | ⟨snapshot, backoff, rfl, hrelease⟩
  · cases step with
    | answer _ hanswer => cases hanswer <;> exact active_letGo ..
  · cases step with
    | answer _ hanswer =>
      cases hanswer with
      | current => exact active_letGo ..
      | recognised => exact active_letGo ..
      | released hnew => exact absurd ⟨hrelease.symm, hremote⟩ hnew

/-- An answer that ends a refresh keeps what is shown, unless it confirms what came from the
cache. -/
theorem shown_of_ended {result : FetchResult} {backoff : Backoff} {caller : Nat}
    {outcome : RefreshOutcome} (hm : m.Fits)
    (step : m.Step frame now f (.answer result backoff) m' f' events)
    (hended : .ended caller outcome ∈ events)
    (houtcome : outcome ≠ .unchanged ∨ m.shown.source = .remote) : m'.shown = m.shown := by
  cases step with
  | answer hactive hanswer =>
    have hover := (List.mem_append.1 hended).resolve_left hanswer.not_ended
    have hends := outcome_of_ended_proceed hover
    have hprevious := hm _ hactive
    rw [shown_proceed]
    cases hanswer with
    | current | unmodified | missing => rfl
    | failed => simp [shown]
    -- The other two that end a refresh confirm what is not remote.
    | recognised _ hcached =>
      cases hends
      exact absurd (houtcome.resolve_left (absurd rfl)) hcached
    | upgraded hcached =>
      cases hends
      rw [hprevious] at hcached
      exact absurd (houtcome.resolve_left (absurd rfl)) hcached
    | released => cases hends
    | expired => exact absurd hover List.not_mem_nil

/-- A refresh ends with its answer, or when it has told everybody what has changed. -/
theorem phase_of_ended (step : m.Step frame now f move m' f' events) {caller : Nat}
    {outcome : RefreshOutcome} (hended : .ended caller outcome ∈ events) :
    (∃ a flight result backoff, m.active = some a ∧ a.phase = .fetching flight
        ∧ move = .answer result backoff)
      ∨ ∃ a changes, m.active = some a
        ∧ (a.phase = .committed changes outcome
          ∨ ∃ left, a.phase = .delivering changes left outcome)
        ∧ ∀ result backoff, move ≠ .answer result backoff := by
  cases step with
  | answer hactive => exact .inl ⟨_, _, _, _, hactive, rfl, rfl⟩
  | saved => exact absurd hended Sync.not_ended_save
  | gather hactive =>
    obtain rfl := outcome_of_ended_tell hended
    exact .inr ⟨_, _, hactive, .inl rfl, nofun⟩
  | deliver hactive =>
    have hended := (List.mem_append.1 hended).resolve_left Sync.not_ended_deliver
    obtain rfl := outcome_of_ended_tell hended
    exact .inr ⟨_, _, hactive, .inr ⟨_, rfl⟩, nofun⟩
  | _ => cases hended

theorem fetching_of_answer {result : FetchResult} {backoff : Backoff}
    (step : m.Step frame now f (.answer result backoff) m' f' events) :
    ∃ a flight, m.active = some a ∧ a.phase = .fetching flight := by
  cases step with
  | answer hactive => exact ⟨_, _, hactive, rfl⟩

theorem silent_of_enter {caller : Nat} (step : m.Step frame now f (.enter caller) m' f' events) :
    m'.shown = m.shown ∧ events = [] ∧ f' = f := by
  cases step
  exact ⟨rfl, rfl, rfl⟩

theorem calls_eq_nil_of_answer {result : FetchResult} {backoff : Backoff}
    (step : m.Step frame now f (.answer result backoff) m' f' events) (id : Nat) :
    calls id events = [] ∧ f' = f := by
  cases step with
  | answer _ hanswer =>
    rw [calls_append, hanswer.calls_eq_nil, calls_proceed]
    exact ⟨rfl, rfl⟩

end SyncMachine

namespace SyncRun

variable {frame : SyncFrame L} {m₀ m : SyncMachine L} {f₀ f : Files} {h : List (SyncStep L)}

/-- A refresh whose answer calls current what the server has delivered is over at once. -/
theorem idle_after_current {first : Snapshot} (run : SyncRun frame m₀ f₀ h m f)
    (h₀ : m₀.Course frame.setting m₀.sync.ns first f₀ []) (hnone : NoEnter h)
    (hremote : first.source = .remote) {s : SyncStep L} (hs : s ∈ h)
    (hcurrent : s.move.CallsCurrent first) : m.active = none := by
  obtain ⟨u, v, rfl⟩ := List.append_of_mem hs
  obtain ⟨hbefore, hafter⟩ := noEnter_append.1 hnone
  obtain ⟨g, run₁, step⟩ := run.exists_before
  have hcourse := run₁.course h₀ hbefore
  -- Until the answer nothing has happened.
  have hfirst : s.before.shown = first := by
    obtain ⟨result, backoff, hmove⟩ : ∃ result backoff, s.move = .answer result backoff := by
      rcases hcurrent with ⟨backoff, hmove⟩ | ⟨snapshot, backoff, hmove, -⟩
      · exact ⟨_, backoff, hmove⟩
      · exact ⟨_, backoff, hmove⟩
    obtain ⟨⟨caller, phase⟩, flight, hactive, rfl⟩ := SyncMachine.fetching_of_answer (hmove ▸ step)
    exact (hcourse _ hactive).2.1
  rw [← hfirst] at hremote hcurrent
  have hidle := SyncMachine.idle_of_current step hremote hcurrent
  exact run.cut.2.active_eq_none hidle fun t ht => hafter t (List.mem_cons_of_mem s ht)

/-- A refresh ends with an answer, before which it has done nothing, or when it has told everybody
what it has replaced. -/
theorem course_of_ended {h₁ since h₂ : List (SyncStep L)} {e t : SyncStep L} {caller c : Nat}
    {outcome : RefreshOutcome} (run : SyncRun frame m₀ f₀ (h₁ ++ e :: since ++ t :: h₂) m f)
    (henter : e.move = .enter caller) (hnone : NoEnter since)
    (hended : .ended c outcome ∈ t.events) :
    (∃ result backoff, t.move = .answer result backoff ∧ t.before.shown = e.before.shown
        ∧ Silent e.before.shown since ∧ Untouched e.files since)
      ∨ (∀ result backoff, t.move ≠ .answer result backoff) ∧ t.before.active.isSome = true
        ∧ ∃ changes, Replaced frame.setting m₀.sync.ns e.before.shown e.files since t.before.shown
          changes outcome := by
  obtain ⟨g, run₂, last⟩ := run.exists_before
  obtain ⟨g₁, run₁, begins⟩ := run₂.exists_before
  rw [henter] at begins
  have hns : e.after.sync.ns = e.before.sync.ns := SyncMachine.ns_of_step begins
  have hcourse := run₂.cut.2.course (hns ▸ SyncMachine.course_of_enter begins) hnone
  rw [hns, run₁.ns_eq] at hcourse
  rcases SyncMachine.phase_of_ended last hended with
    ⟨⟨_, _⟩, flight, result, backoff, hactive, rfl, hmove⟩ | ⟨a, changes, hactive, hphase, hmove⟩
  · obtain ⟨-, hfirst, hsilent, huntouched⟩ := hcourse _ hactive
    exact .inl ⟨result, backoff, hmove, hfirst, hsilent, huntouched⟩
  · refine .inr ⟨hmove, by simp [hactive], changes, ?_⟩
    have ha := hcourse a hactive
    rcases hphase with hphase | ⟨left, hphase⟩
    · rw [hphase] at ha
      exact ha
    · rw [hphase] at ha
      exact ha

/-- **A refresh that has nothing to change changes nothing**: from its beginning to its end the same
snapshot is shown, nobody is called, and nothing is written. -/
theorem silent_of_uneventful {h₁ since h₂ : List (SyncStep L)} {e t : SyncStep L} {caller c : Nat}
    {outcome : RefreshOutcome} (run : SyncRun frame m₀ f₀ (h₁ ++ e :: since ++ t :: h₂) m f)
    (h₀ : m₀.Fits) (henter : e.move = .enter caller) (hnone : NoEnter since)
    (hended : .ended c outcome ∈ t.events)
    (huneventful : Uneventful m₀.sync.ns e.before.shown outcome (since ++ [t])) :
    Silent e.before.shown (e :: since ++ [t])
      ∧ Untouched (filesAfter f₀ h₁) (e :: since ++ [t]) := by
  have hends := run.course_of_ended henter hnone hended
  obtain ⟨g, run₂, last⟩ := run.exists_before
  obtain ⟨g₁, run₁, begins⟩ := run₂.exists_before
  rw [henter] at begins
  rcases hends with ⟨result, backoff, hmove, hfirst, hsilent, huntouched⟩
    | ⟨hmove, hactive, changes, -, hcame⟩
  · -- The refresh ends with its answer, before which nothing has happened.
    obtain ⟨hshown, hevents, hfiles⟩ := SyncMachine.silent_of_enter begins
    rw [hmove] at last
    have houtcome : outcome ≠ .unchanged ∨ t.before.shown.source = .remote := by
      rcases huneventful with rfl | ⟨rfl, -⟩ | ⟨hremote, -⟩
      · exact .inl nofun
      · exact .inl nofun
      · exact .inr (hfirst ▸ hremote)
    have hkept := SyncMachine.shown_of_ended (run₂.fits h₀) last hended houtcome
    have hcalls (id : Nat) := (SyncMachine.calls_eq_nil_of_answer last id).1
    have hsame := (SyncMachine.calls_eq_nil_of_answer last 0).2
    have hend : t.files = filesAfter e.files since := hsame.trans run₂.cut.2.filesAfter_eq.symm
    refine ⟨?_, ?_, ?_⟩
    · refine silent_concat ?_ (hkept.trans hfirst) hcalls
      intro s hs
      rcases List.mem_cons.1 hs with rfl | hs
      · exact ⟨hshown, fun id => by rw [hevents]; rfl⟩
      · exact hsilent s hs
    · intro _
      rw [hfiles, run₁.filesAfter_eq]
    · exact untouched_concat.2 ⟨huntouched, fun _ => hend⟩
  · -- Only a refresh that has changed something has anything to tell.
    exfalso
    rcases huneventful with rfl | ⟨rfl, hnever⟩ | ⟨hremote, s, hs, hcurrent⟩
    · rcases hcame with ⟨⟨n, hn⟩, -⟩ | ⟨hn, -⟩ <;> cases hn
    · rcases hcame with ⟨⟨n, hn⟩, -⟩ | ⟨-, -, -, s, hs, -, hexpired⟩
      · cases hn
      · exact hnever s (List.mem_append_left _ hs) hexpired
    · rcases List.mem_append.1 hs with hs | hs
      · have hns : e.after.sync.ns = e.before.sync.ns := SyncMachine.ns_of_step begins
        have hbegun := hns ▸ SyncMachine.course_of_enter begins
        have hidle := run₂.cut.2.idle_after_current hbegun hnone hremote hs hcurrent
        rw [hidle] at hactive
        cases hactive
      · obtain rfl := List.mem_singleton.1 hs
        rcases hcurrent with ⟨backoff, hanswer⟩ | ⟨snapshot, backoff, hanswer, -⟩
        · exact hmove _ _ hanswer
        · exact hmove _ _ hanswer

end SyncRun

/-! ## §4 How content is lost -/

namespace SyncMachine

variable {frame : SyncFrame L} {now : Instant} {m m' : SyncMachine L} {f f' : Files}
  {move : SyncMove L} {events : List (SyncEvent L)} {c : FetchConfig}

/-- **Content is lost through expiry only**: a fetch has failed, and the policy says that what was
not confirmed for so long is not to be shown any more. -/
theorem expired_of_step {ns : String} (hns : m.sync.ns = ns)
    (step : m.Step frame now f move m' f' events)
    (hfetched : ∀ result backoff, move = .answer result backoff → c.Yields ns result)
    (hbefore : m.shown.source ≠ .none) (hafter : m'.shown.source = .none) :
    ∃ ttl error backoff, frame.setting.policy = .expireAfter ttl
      ∧ move = .answer (.error error) backoff ∧ .observed (.fallbackExpired ns) ∈ events
      ∧ m'.shown = .empty ns ∧ ttl.nanos ≤ now - m.sync.lastConfirmed := by
  subst hns
  by_cases hanswer : ∃ result backoff, move = .answer result backoff
  · obtain ⟨result, backoff, rfl⟩ := hanswer
    have hyields := hfetched _ _ rfl
    cases step with
    | answer hactive hanswer =>
      rw [shown_proceed] at hafter ⊢
      cases hanswer with
      | current | unmodified | missing => exact absurd hafter hbefore
      | failed =>
        rw [shown, Sync.view_failed, Sync.view_queueMessages] at hafter
        exact absurd hafter hbefore
      | recognised | released =>
        have hremote := hafter.symm.trans hyields.source_eq
        cases hremote
      | upgraded => cases hafter
      | @expired e ttl hpolicy _ hold => exact ⟨ttl, e, backoff, hpolicy, rfl, by simp, rfl, hold⟩
  · have hshown := shown_of_step step fun result backoff hmove => hanswer ⟨result, backoff, hmove⟩
    rw [hshown] at hafter
    exact absurd hafter hbefore

end SyncMachine

/-! ## §5 Runs -/

/-- A disk with a release where it is looked for. -/
def Files.recorded : Files :=
  let record : CacheRecord := ⟨"demo", "default", "app", "1", .ofList [("a", "x")]⟩
  ⟨[(["demo+default+app.json"], .file (.text record.text))]⟩

namespace SyncRun

variable {frame : SyncFrame L} {m₀ m : SyncMachine L} {f₀ f : Files} {h : List (SyncStep L)}

theorem lastConfirmed_eq (run : SyncRun frame m₀ f₀ h m f) :
    m.sync.lastConfirmed = lastConfirmation m₀.sync.lastConfirmed h := by
  induction run with
  | nil => rfl
  | snoc _ hstep ih =>
    rw [lastConfirmation_concat, ← ih]
    exact SyncMachine.lastConfirmed_of_step (SyncMachine.step_of_step? hstep)

variable {c : FetchConfig} {ns : String} {now : Instant}

theorem origin (run : SyncRun frame (SyncMachine.start frame.setting f₀ ns now).1 f₀ h m f)
    (hfetched : Fetched c ns h) : Origin (frame.setting.cached f₀ ns) ns h m.shown := by
  induction run with
  | nil => exact SyncMachine.origin_start ..
  | snoc run hstep ih =>
    obtain ⟨hbefore, hlast⟩ := fetched_append.1 hfetched
    have hns := run.ns_eq.trans (SyncMachine.ns_start frame.setting f₀ ns now)
    exact SyncMachine.origin_of_step hns (ih hbefore) (run.fits (SyncMachine.fits_of_none rfl))
      hbefore (hlast _ (List.mem_singleton_self _)) SyncSetting.source_of_cached
      (SyncMachine.step_of_step? hstep)

/-- **What the source of a snapshot says, and how it may change.** In every run, whoever gives up:

- a snapshot without a source has no release and no entries;
- one from the cache is the one that the cache held at the start, and no answer has touched it;
- one from the server is of a release that was committed, or of the one from the cache, which the
  server has confirmed;
- a refresh that has nothing to change keeps what is shown, calls nobody and writes nothing;
- content is lost only where a fetch fails under a policy that lets it expire, and not before its
  time since the last confirmation is over. -/
theorem provenance (run : SyncRun frame (SyncMachine.start frame.setting f₀ ns now).1 f₀ h m f)
    (hfetched : Fetched c ns h) :
    (m.shown.source = .none ↔ m.shown.release = none)
      ∧ (m.shown.source = .none → m.shown.entries = .empty)
      ∧ (m.shown.source = .localFallback → frame.setting.cached f₀ ns = some m.shown
        ∧ ∀ s ∈ h, s.move.confirms = false)
      ∧ (m.shown.source = .remote → ∃ key, m.shown.release = some key
        ∧ (CommittedRelease key h ∨ ConfirmedRelease (frame.setting.cached f₀ ns) key h))
      ∧ (∀ (h₁ since h₂ : List (SyncStep L)) (e t : SyncStep L) (caller c : Nat)
          (outcome : RefreshOutcome), h = h₁ ++ e :: since ++ t :: h₂ →
        e.move = .enter caller → NoEnter since → .ended c outcome ∈ t.events →
        Uneventful ns e.before.shown outcome (since ++ [t]) →
        Silent e.before.shown (e :: since ++ [t])
          ∧ Untouched (filesAfter f₀ h₁) (e :: since ++ [t]))
      ∧ ∀ (h₁ h₂ : List (SyncStep L)) (s : SyncStep L), h = h₁ ++ s :: h₂ →
        s.before.shown.source ≠ .none → s.after.shown.source = .none →
        ∃ ttl error backoff, frame.setting.policy = .expireAfter ttl
          ∧ s.move = .answer (.error error) backoff ∧ .observed (.fallbackExpired ns) ∈ s.events
          ∧ s.after.shown = .empty ns ∧ ttl.nanos ≤ s.moment - lastConfirmation now h₁ := by
  have horigin := run.origin hfetched
  have hrelease := horigin.release_isSome_iff hfetched SyncSetting.source_of_cached
  refine ⟨?_, fun hnone => ?_, fun hlocal => ?_, fun hremote => ?_, ?_, ?_⟩
  · rw [← Option.not_isSome_iff_eq_none, hrelease, Decidable.not_not]
  · -- What has no source is empty.
    rcases horigin.eq_empty_or hfetched SyncSetting.source_of_cached with hempty | ⟨hsome, -⟩
    · rw [hempty]
      rfl
    · exact absurd hnone hsome
  · refine horigin.loaded_of_release hfetched ?_ (hrelease.2 ?_)
    · simp [hlocal]
    · simp [hlocal]
  · exact horigin.exists_release hfetched SyncSetting.source_of_cached hremote
  · rintro h₁ since h₂ e t caller c outcome rfl henter hnone hended huneventful
    rw [← SyncMachine.ns_start frame.setting f₀ ns now] at huneventful
    exact run.silent_of_uneventful (SyncMachine.fits_of_none rfl) henter hnone hended huneventful
  · rintro h₁ h₂ s rfl hbefore hafter
    obtain ⟨g, run₁, step⟩ := run.exists_before
    have hanswers := hfetched s (by simp)
    have hconfirmed := run₁.lastConfirmed_eq
    rw [SyncMachine.lastConfirmed_start] at hconfirmed
    rw [← hconfirmed]
    have hns := run₁.ns_eq.trans (SyncMachine.ns_start frame.setting f₀ ns now)
    exact SyncMachine.expired_of_step hns step hanswers hbefore hafter

/-- A release from the cache is confirmed, and then the server knows the namespace no more. -/
theorem provenance_confirmed_release :
    ∃ (h₁ since : List (SyncStep Unit)) (e t : SyncStep Unit) (m : SyncMachine Unit) (f : Files),
      SyncRun .stored (SyncMachine.start SyncFrame.stored.setting .recorded "app" 0).1 .recorded
          (h₁ ++ e :: since ++ [t]) m f
        ∧ Fetched .demo "app" (h₁ ++ e :: since ++ [t])
        ∧ m.shown.source = .remote ∧ m.shown.get? "a" = some "x"
        ∧ (∃ key, m.shown.release = some key ∧ (CommittedRelease key (h₁ ++ e :: since ++ [t])
          ∨ ConfirmedRelease (SyncFrame.stored.setting.cached .recorded "app") key
              (h₁ ++ e :: since ++ [t])))
        ∧ e.move = .enter 1 ∧ .ended 1 .notFound ∈ t.events
        ∧ Silent e.before.shown (e :: since ++ [t])
        ∧ Untouched (filesAfter .recorded h₁) (e :: since ++ [t]) := by
  have hplayed := exists_refresh_of_play? .stored
    (SyncMachine.start SyncFrame.stored.setting .recorded "app" 0).1 .recorded
    [(0, .launch), (0, .enter workerId), (0, .permit),
      (0, .answer (.ok (FetchConfig.demo.outcomeOf "app" .notModified)) {}), (0, .call 1)]
    [(0, .permit)] (0, .enter 1)
    (0, .answer (.ok (FetchConfig.demo.outcomeOf "app" .notFound)) {})
    (fun seen => (seen.1.getLast?.any fun t => t.events.any (·.outcome? == some (1, .notFound)))
      && (seen.2.1.shown.source == .remote && seen.2.1.shown.get? "a" == some "x"))
    (by decide +kernel)
  obtain ⟨h₁, since, e, t, m, f, run, hfront, henter, hsince, hlast, hseen⟩ := hplayed
  have hfetched : Fetched .demo "app" (h₁ ++ e :: since ++ [t]) := by
    simp [fetched_iff_moves, hfront, henter, hsince, hlast, FetchConfig.yields_outcomeOf]
  have hnone : NoEnter since := by simp [noEnter_iff_moves, hsince]
  simp only [List.getLast?_concat, Option.any_some, Bool.and_eq_true, List.any_eq_true,
    beq_iff_eq] at hseen
  obtain ⟨⟨ended, hended, houtcome⟩, hremote, hshown⟩ := hseen
  obtain rfl := SyncEvent.outcome?_eq_some_iff.1 houtcome
  obtain ⟨-, -, -, hrelease, hframe, -⟩ := run.provenance hfetched
  obtain ⟨hsilent, huntouched⟩ :=
    hframe h₁ since [] e t 1 1 .notFound rfl henter hnone hended (.inl rfl)
  exact ⟨h₁, since, e, t, m, f, run, hfetched, hremote, hshown, hrelease hremote, henter, hended,
    hsilent, huntouched⟩

end SyncRun

end LiveConfig
