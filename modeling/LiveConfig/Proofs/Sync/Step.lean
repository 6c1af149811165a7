import LiveConfig.Sync.Run

/-!
# What a move can do

Every move of a namespace, and every answer to a fetch, taken apart once: which state they need,
what they lead to, and what they show. Invariants are case analyses over these relations and never
look into the functions again.

## Main statements

- `Sync.answer_of_answered`: what taking in the result of a fetch can do.
- `SyncMachine.step_of_step?`: what one move can do.
- `SyncRun.invariant`: what holds at first and is kept by every move holds after every run.
-/

namespace LiveConfig

variable {L : Type}

/-! ## §1 Answers -/

namespace Sync

/-- What taking in the result of a fetch can do: the result, the namespace afterwards, what is
shown, and what remains to be done. -/
inductive Answer (setting : SyncSetting) (now : Instant) (flight : Flight) (s : Sync L) :
    FetchResult → Sync L → List (SyncEvent L) → Remaining → Prop
  /-- The release that is shown already came from the server. -/
  | current {snapshot : Snapshot} (hknown : s.view.snapshot.release = snapshot.release)
      (hremote : s.view.snapshot.source = .remote) :
      Answer setting now flight s (.ok (.updated snapshot)) (s.confirmed now)
        [.observed (.refreshSuccess s.ns 0)] (.nothing .unchanged)
  /-- The release that is shown came from the cache and says the same. -/
  | recognised {snapshot : Snapshot} (hknown : s.view.snapshot.release = snapshot.release)
      (hcached : s.view.snapshot.source ≠ .remote)
      (hsame : (ChangeSet.diff s.view.snapshot snapshot).isEmpty = true) :
      Answer setting now flight s (.ok (.updated snapshot))
        { s.confirmed now with view := s.view.replace snapshot }
        [.observed (.refreshSuccess s.ns 0)] (.nothing .unchanged)
  /-- There is something new. -/
  | released {snapshot : Snapshot}
      (hnew : ¬(s.view.snapshot.release = snapshot.release ∧ s.view.snapshot.source = .remote))
      (hdiffers : ¬(s.view.snapshot.release = snapshot.release ∧
        (ChangeSet.diff s.view.snapshot snapshot).isEmpty = true)) :
      Answer setting now flight s (.ok (.updated snapshot))
        { s.confirmed now with view := s.view.replace snapshot } []
        (.saving snapshot (ChangeSet.diff s.view.snapshot snapshot))
  /-- The server confirms a release from the cache. -/
  | upgraded (hcached : flight.previous.source ≠ .remote)
      (hrelease : flight.previous.release.isSome = true) :
      Answer setting now flight s (.ok .notModified)
        { s.confirmed now with view := s.view.replace (flight.previous.withSource .remote) }
        [.observed (.refreshSuccess s.ns 0)] (.nothing .unchanged)
  /-- The server confirms what it has delivered itself, or nothing. -/
  | unmodified
      (hkept : ¬(flight.previous.source ≠ .remote ∧ flight.previous.release.isSome = true)) :
      Answer setting now flight s (.ok .notModified) (s.confirmed now)
        [.observed (.refreshSuccess s.ns 0)] (.nothing .unchanged)
  | missing :
      Answer setting now flight s (.ok .notFound) (s.notFound now)
        [.observed (.notFound s.ns)] (.nothing .notFound)
  /-- The fetch failed, and what is shown may be shown further. -/
  | failed {e : FetchError}
      (hkept : ∀ ttl, setting.policy = .expireAfter ttl →
        s.view.snapshot.source = .none ∨ now - s.lastConfirmed < ttl.nanos) :
      Answer setting now flight s (.error e)
        ((s.queueMessages flight.messages).failed setting now e).1
        ((s.queueMessages flight.messages).failed setting now e).2 (.nothing .failed)
  /-- The fetch failed, and what is shown has not been confirmed for too long. -/
  | expired {e : FetchError} {ttl : Duration} (hpolicy : setting.policy = .expireAfter ttl)
      (hshown : s.view.snapshot.source ≠ .none) (hold : ttl.nanos ≤ now - s.lastConfirmed) :
      Answer setting now flight s (.error e)
        { ((s.queueMessages flight.messages).failed setting now e).1 with
          view := s.view.replace (.empty s.ns) }
        (((s.queueMessages flight.messages).failed setting now e).2 ++
          [.logged (SyncEvent.expiryLine s.ns (Duration.between s.lastConfirmed now)),
            .observed (.fallbackExpired s.ns)])
        (.delivering (ChangeSet.diff s.view.snapshot (.empty s.ns)) .failed)

section Frame

variable (setting : SyncSetting) (now : Instant) (e : FetchError) (m : Option Messages) (s : Sync L)

@[simp] theorem view_queueMessages : (s.queueMessages m).view = s.view := by
  cases m <;> rfl

@[simp] theorem ns_queueMessages : (s.queueMessages m).ns = s.ns := by
  cases m <;> rfl

@[simp] theorem lastConfirmed_queueMessages :
    (s.queueMessages m).lastConfirmed = s.lastConfirmed := by
  cases m <;> rfl

@[simp] theorem view_failed : (s.failed setting now e).1.view = s.view := rfl

@[simp] theorem ns_failed : (s.failed setting now e).1.ns = s.ns := rfl

@[simp] theorem lastConfirmed_failed :
    (s.failed setting now e).1.lastConfirmed = s.lastConfirmed := rfl

end Frame

section Commit

variable {s : Sync L} {snapshot : Snapshot}

theorem commit_current (hknown : s.view.snapshot.release = snapshot.release)
    (hremote : s.view.snapshot.source = .remote) :
    s.commit snapshot = (s, .nothing .unchanged) :=
  if_pos ⟨hknown, hremote⟩

theorem commit_recognised (hknown : s.view.snapshot.release = snapshot.release)
    (hcached : s.view.snapshot.source ≠ .remote)
    (hsame : (ChangeSet.diff s.view.snapshot snapshot).isEmpty = true) :
    s.commit snapshot = ({ s with view := s.view.replace snapshot }, .nothing .unchanged) :=
  (if_neg fun h => hcached h.2).trans (if_pos ⟨hknown, hsame⟩)

theorem commit_released
    (hnew : ¬(s.view.snapshot.release = snapshot.release ∧ s.view.snapshot.source = .remote))
    (hdiffers : ¬(s.view.snapshot.release = snapshot.release ∧
      (ChangeSet.diff s.view.snapshot snapshot).isEmpty = true)) :
    s.commit snapshot = ({ s with view := s.view.replace snapshot },
      .saving snapshot (ChangeSet.diff s.view.snapshot snapshot)) :=
  (if_neg hnew).trans (if_neg hdiffers)

end Commit

/-- **What taking in the result of a fetch can do.** -/
theorem answer_of_answered {setting : SyncSetting} {now : Instant} {flight : Flight}
    {result : FetchResult} {s s' : Sync L} {events : List (SyncEvent L)} {remaining : Remaining}
    (h : s.answered setting now flight result = (s', events, remaining)) :
    Answer setting now flight s result s' events remaining := by
  cases result with
  | ok outcome =>
    cases outcome with
    | updated snapshot =>
      -- First the answer that replaces nothing, then the one that replaces nothing but the source.
      by_cases hcurrent : s.view.snapshot.release = snapshot.release ∧
          s.view.snapshot.source = .remote
      · simp only [answered, commit_current (s := s.confirmed now) hcurrent.1 hcurrent.2] at h
        obtain ⟨rfl, rfl, rfl⟩ := h
        exact .current hcurrent.1 hcurrent.2
      by_cases hsame : s.view.snapshot.release = snapshot.release ∧
          (ChangeSet.diff s.view.snapshot snapshot).isEmpty = true
      · have hcached : s.view.snapshot.source ≠ .remote := fun hr => hcurrent ⟨hsame.1, hr⟩
        simp only [answered, commit_recognised (s := s.confirmed now) hsame.1 hcached hsame.2] at h
        obtain ⟨rfl, rfl, rfl⟩ := h
        exact .recognised hsame.1 hcached hsame.2
      · simp only [answered, commit_released (s := s.confirmed now) hcurrent hsame] at h
        obtain ⟨rfl, rfl, rfl⟩ := h
        exact .released hcurrent hsame
    | notModified =>
      simp only [answered, upgrade] at h
      split at h
      · next hc =>
        obtain ⟨rfl, rfl, rfl⟩ := h
        exact .upgraded hc.1 hc.2
      · next hc =>
        obtain ⟨rfl, rfl, rfl⟩ := h
        exact .unmodified hc
    | notFound =>
      obtain ⟨rfl, rfl, rfl⟩ := h
      exact .missing
  | error e =>
    -- The failure is taken in before the policy decides whether the content goes.
    simp only [answered, expire] at h
    split at h
    · next hpolicy =>
      simp only [List.append_nil] at h
      obtain ⟨rfl, rfl, rfl⟩ := h
      exact .failed fun ttl httl => by simp [hpolicy] at httl
    · next ttl hpolicy =>
      split at h
      · next hkept =>
        simp only [List.append_nil] at h
        obtain ⟨rfl, rfl, rfl⟩ := h
        refine .failed fun ttl' httl => ?_
        -- There is one policy, so this is its time.
        obtain rfl : ttl = ttl' := by simpa [hpolicy] using httl
        simpa using hkept
      · next hdue =>
        obtain ⟨rfl, rfl, rfl⟩ := h
        simp only [view_failed, view_queueMessages, lastConfirmed_failed,
          lastConfirmed_queueMessages, not_or, Nat.not_lt] at hdue
        have hexpired : Answer setting now flight s (.error e) _ _ _ :=
          .expired hpolicy hdue.1 hdue.2
        simpa using hexpired

end Sync

/-! ## §2 Moves -/

namespace SyncMachine

section Active

variable {m : SyncMachine L} {a : ActiveRefresh L} {P : ActiveRefresh L → Prop}

theorem forall_active_of_none (h : m.active = none) : ∀ a, m.active = some a → P a := by
  intro a ha
  rw [h] at ha
  cases ha

theorem forall_active_of_some (h : m.active = some a) (ha : P a) :
    ∀ b, m.active = some b → P b := by
  intro b hb
  obtain rfl := Option.some.inj (h.symm.trans hb)
  exact ha

end Active

/-- What one move can do: the namespace and the files afterwards, and what is shown. -/
inductive Step (frame : SyncFrame L) (now : Instant) (m : SyncMachine L) (f : Files) :
    SyncMove L → SyncMachine L → Files → List (SyncEvent L) → Prop
  | request : Step frame now m f .request m.request f []
  | announce {messages : Option Messages} :
      Step frame now m f (.announce messages)
        { m with sync := m.sync.queueMessages messages } f []
  | call {caller : Nat} (hother : caller ≠ workerId) (hnew : m.lock.asked caller = false) :
      Step frame now m f (.call caller) { m with lock := m.lock.request caller } f []
  | launch (hcreated : m.worker = .created) (hgo : m.cancelled = false) :
      Step frame now m f .launch
        { m with
          nextTick := now + frame.setting.refreshInterval.nanos
          worker := .initial
          lock := m.lock.request workerId } f []
  /-- A worker that was cancelled before it began makes no first refresh. -/
  | launchCancelled (hcreated : m.worker = .created) (hcancelled : m.cancelled = true) :
      Step frame now m f .launch
        { m with
          nextTick := now + frame.setting.refreshInterval.nanos
          worker := .idle
          initialized := true } f []
  | stop (hidle : m.worker = .idle) (hcancelled : m.cancelled = true) :
      Step frame now m f .take { m with worker := .stopped } f []
  /-- The waiting worker takes the request in the slot. -/
  | wakeUp (hidle : m.worker = .idle) (hgo : m.cancelled = false) (hwake : m.wake = true) :
      Step frame now m f .take
        { m with wake := false, worker := .busy, lock := m.lock.request workerId } f []
  /-- The waiting worker keeps the schedule. -/
  | tick (hidle : m.worker = .idle) (hgo : m.cancelled = false) (hwake : m.wake = false)
      (hdue : m.nextTick ≤ now) :
      Step frame now m f .take
        { m with
          nextTick := tickAfter frame.setting.refreshInterval now m.nextTick
          worker := .busy
          lock := m.lock.request workerId } f []
  | enter {caller : Nat} (hholds : m.lock.holds caller = true) (hfree : m.active = none) :
      Step frame now m f (.enter caller)
        { m with
          sync := { m.sync with pending := none }
          active := some ⟨caller, .queued ⟨m.sync.pending, m.sync.view.snapshot⟩⟩ } f []
  | permit {caller : Nat} {flight : Flight} (hactive : m.active = some ⟨caller, .queued flight⟩) :
      Step frame now m f .permit { m with active := some ⟨caller, .fetching flight⟩ } f []
  | answer {caller : Nat} {flight : Flight} {result : FetchResult} {backoff : Backoff}
      {sync : Sync L} {events : List (SyncEvent L)} {remaining : Remaining}
      (hactive : m.active = some ⟨caller, .fetching flight⟩)
      (hanswer : Sync.Answer frame.setting now flight { m.sync with backoff } result
        sync events remaining) :
      Step frame now m f (.answer result backoff) ({ m with sync }.proceed caller remaining).1 f
        (events ++ ({ m with sync }.proceed caller remaining).2)
  | saved {caller : Nat} {snapshot : Snapshot} {changes : ChangeSet}
      {fault : Option CacheStore.Fault}
      (hactive : m.active = some ⟨caller, .saving snapshot changes⟩) :
      Step frame now m f (.saved fault)
        { m with active := some ⟨caller, .committed changes (.updated changes.size)⟩ }
        (m.sync.save frame.setting fault snapshot f).1
        (m.sync.save frame.setting fault snapshot f).2
  | gather {caller : Nat} {changes : ChangeSet} {outcome : RefreshOutcome}
      (hactive : m.active = some ⟨caller, .committed changes outcome⟩) :
      Step frame now m f .gather
        (m.tell caller changes (m.sync.view.listeners.concerned changes) outcome).1 f
        (m.tell caller changes (m.sync.view.listeners.concerned changes) outcome).2
  | deliver {caller : Nat} {changes : ChangeSet} {next : Registration L}
      {left : List (Registration L)} {outcome : RefreshOutcome}
      (hactive : m.active = some ⟨caller, .delivering changes (next :: left) outcome⟩) :
      Step frame now m f .deliver
        ({ m with sync := (m.sync.deliver frame.react changes next).1 }.tell
          caller changes left outcome).1 f
        ((m.sync.deliver frame.react changes next).2 ++
          ({ m with sync := (m.sync.deliver frame.react changes next).1 }.tell
            caller changes left outcome).2)
  | abandon {caller : Nat} : Step frame now m f (.abandon caller) (m.abandon caller) f []
  | settled {fault : Option CacheStore.Fault} {snapshot : Snapshot} {rest : List Snapshot}
      (hdetached : m.detached = snapshot :: rest) :
      Step frame now m f (.settled fault) { m with detached := rest }
        (m.sync.save frame.setting fault snapshot f).1 []
  | cancel : Step frame now m f .cancel { m with cancelled := true } f []
  | subscribe {listener : L} {filter : ListenerFilter} :
      Step frame now m f (.subscribe listener filter)
        { m with sync.view := (m.sync.view.subscribe listener filter).2 } f []
  | unsubscribe {id : Nat} :
      Step frame now m f (.unsubscribe id)
        { m with sync.view := (m.sync.view.unsubscribe id).2 } f []

/-- **What one move can do.** -/
theorem step_of_step? {frame : SyncFrame L} {now : Instant} {m m' : SyncMachine L} {f f' : Files}
    {move : SyncMove L} {events : List (SyncEvent L)}
    (h : m.step? frame now f move = some (m', f', events)) :
    Step frame now m f move m' f' events := by
  cases move with
  | request =>
    cases h
    exact .request
  | announce messages =>
    cases h
    exact .announce
  | call caller =>
    simp only [step?] at h
    split at h
    · cases h
    · next hc =>
      cases h
      rw [not_or, Bool.not_eq_true] at hc
      exact .call hc.1 hc.2
  | launch =>
    simp only [step?, launch] at h
    split at h
    · next hcreated =>
      split at h
      · next hcancelled =>
        cases h
        exact .launchCancelled hcreated hcancelled
      · next hgo =>
        cases h
        exact .launch hcreated (Bool.not_eq_true _ ▸ hgo)
    · cases h
  | take =>
    -- The worker asks whether to stop, whether somebody wants it, and whether the time has come.
    simp only [step?, take?] at h
    split at h
    · cases h
    · next hidle =>
      rw [Decidable.not_not] at hidle
      split at h
      · next hcancelled =>
        cases h
        exact .stop hidle hcancelled
      · next hgo =>
        rw [Bool.not_eq_true] at hgo
        split at h
        · next hwake =>
          cases h
          exact .wakeUp hidle hgo hwake
        · next hwake =>
          rw [Bool.not_eq_true] at hwake
          split at h
          · next hdue =>
            cases h
            exact .tick hidle hgo hwake hdue
          · cases h
  | enter caller =>
    simp only [step?] at h
    split at h
    · next hc =>
      cases h
      exact .enter hc.1 hc.2
    · cases h
  | permit =>
    simp only [step?] at h
    split at h
    · next hactive =>
      cases h
      exact .permit hactive
    · cases h
  | answer result backoff =>
    simp only [step?] at h
    split at h
    · next hactive =>
      cases h
      exact .answer hactive (Sync.answer_of_answered rfl)
    · cases h
  | saved fault =>
    simp only [step?] at h
    split at h
    · next hactive =>
      cases h
      exact .saved hactive
    · cases h
  | gather =>
    simp only [step?] at h
    split at h
    · next hactive =>
      cases h
      exact .gather hactive
    · cases h
  | deliver =>
    simp only [step?] at h
    split at h
    · next hactive =>
      cases h
      exact .deliver hactive
    · cases h
  | abandon caller =>
    cases h
    exact .abandon
  | settled fault =>
    simp only [step?] at h
    split at h
    · cases h
    · next hdetached =>
      cases h
      exact .settled hdetached
  | cancel =>
    cases h
    exact .cancel
  | subscribe listener filter =>
    cases h
    exact .subscribe
  | unsubscribe id =>
    cases h
    exact .unsubscribe

end SyncMachine

/-! ## §3 Runs -/

/-- **What holds at first and is kept by every move holds after every run.** -/
theorem SyncRun.invariant {P : SyncMachine L → Prop} {frame : SyncFrame L} {m₀ m : SyncMachine L}
    {f₀ f : Files} {h : List (SyncStep L)} (run : SyncRun frame m₀ f₀ h m f) (start : P m₀)
    (step : ∀ {now : Instant} {m m' : SyncMachine L} {f f' : Files} {move : SyncMove L}
      {events : List (SyncEvent L)}, P m → m.Step frame now f move m' f' events → P m') : P m := by
  induction run with
  | nil => exact start
  | snoc _ hstep ih => exact step ih (SyncMachine.step_of_step? hstep)

end LiveConfig
