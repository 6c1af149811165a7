import LiveConfig.Proofs.Sync.Provenance
import Mathlib.Algebra.Ring.Nat

/-!
# Reports of refreshes

Every refresh takes in one result, ends once, and tells observers once how it went. These three do
not come together: a failure is reported with its answer, a committed release only when all
listeners have been told of it, and in between others may move.

## The account

- **Open**: the refresh under way has not been answered yet, or it has been answered and has
  something to save and to tell. Of these refreshes only a failed one has been reported.
- **Closed**: a refresh that has ended has one result, one outcome and one report, which fit.

## Main statements

- `Counters.reports_countAll`, `Counters.refreshChangedKeys_countAll`: what an observer counts.
- `SyncMachine.advance_of_answer`: an answer closes the account, or leaves it with changes to tell.
- `SyncMachine.advance_of_step`: a move keeps the account of the refresh under way open, or closes
  it.
-/

namespace LiveConfig

variable {L : Type}

/-! ## §1 Observers -/

namespace TelemetryEvent

variable {F P : Type}

/-- Observers are told how a refresh went. -/
def isReport : TelemetryEvent F P → Bool
  | .refreshSuccess .. | .refreshError .. | .notFound _ => true
  | _ => false

/-- Observers are told that content has expired. -/
def isExpiry : TelemetryEvent F P → Bool
  | .fallbackExpired _ => true
  | _ => false

/-- The number of changed keys that is reported. -/
def changedKeys : TelemetryEvent F P → Nat
  | .refreshSuccess _ n => n
  | _ => 0

/-- The failure that is reported. -/
def failure? : TelemetryEvent F P → Option F
  | .refreshError _ e => some e
  | _ => none

/-- Only reports carry changed keys. -/
theorem sum_changedKeys_filter (events : List (TelemetryEvent F P)) :
    ((events.filter isReport).map changedKeys).sum = (events.map changedKeys).sum := by
  induction events with
  | nil => rfl
  | cons e events ih =>
    cases e with
    | refreshSuccess | refreshError | notFound =>
      rw [List.filter_cons_of_pos rfl, List.map_cons, List.sum_cons, ih, List.map_cons,
        List.sum_cons]
    | _ =>
      rw [List.filter_cons_of_neg Bool.false_ne_true, ih, List.map_cons, List.sum_cons]
      exact (Nat.zero_add _).symm

end TelemetryEvent

namespace Counters

open TelemetryEvent

variable {F P : Type} (c : Counters) (events : List (TelemetryEvent F P))

theorem countAll_cons (e : TelemetryEvent F P) :
    c.countAll (e :: events) = (c.count e).countAll events := rfl

/-- The three counters of reports count the reports. -/
theorem reports_countAll :
    (c.countAll events).refreshSuccess + (c.countAll events).refreshError
        + (c.countAll events).notFound
      = c.refreshSuccess + c.refreshError + c.notFound + events.countP isReport := by
  induction events generalizing c with
  | nil => rfl
  | cons e events ih =>
    have hone : (c.count e).refreshSuccess + (c.count e).refreshError + (c.count e).notFound
        = c.refreshSuccess + c.refreshError + c.notFound + if e.isReport then 1 else 0 := by
      cases e <;> simp only [count, isReport, if_true, Bool.false_eq_true, if_false] <;> omega
    rw [countAll_cons, ih, hone, List.countP_cons]
    omega

/-- Changed keys are added up in 64 bits. -/
theorem refreshChangedKeys_countAll (h : c.refreshChangedKeys < UInt64.size) :
    (c.countAll events).refreshChangedKeys
      = (c.refreshChangedKeys + (events.map changedKeys).sum) % UInt64.size := by
  induction events generalizing c with
  | nil => exact (Nat.mod_eq_of_lt h).symm
  | cons e events ih =>
    have hone : (c.count e).refreshChangedKeys
        = (c.refreshChangedKeys + e.changedKeys) % UInt64.size := by
      cases e with
      | refreshSuccess => rfl
      | _ => exact (Nat.mod_eq_of_lt h).symm
    rw [countAll_cons, ih, hone, List.map_cons, List.sum_cons, ← Nat.add_assoc, Nat.mod_add_mod]
    rw [hone]
    exact Nat.mod_lt _ (by decide)

theorem fallbackExpired_countAll :
    (c.countAll events).fallbackExpired = c.fallbackExpired + events.countP isExpiry := by
  induction events generalizing c with
  | nil => rfl
  | cons e events ih =>
    have hone : (c.count e).fallbackExpired
        = c.fallbackExpired + if e.isExpiry then 1 else 0 := by
      cases e <;> rfl
    rw [countAll_cons, ih, hone, List.countP_cons]
    omega

end Counters

/-! ## §2 What a history says about refreshes -/

/-- What observers are shown by an event. -/
def SyncEvent.observed? : SyncEvent L → Option Observed
  | .observed e => some e
  | _ => none

/-- What observers are shown by events. -/
def observations (events : List (SyncEvent L)) : List Observed :=
  events.filterMap SyncEvent.observed?

/-- How refreshes end with events. -/
def endings (events : List (SyncEvent L)) : List RefreshOutcome :=
  (events.filterMap SyncEvent.outcome?).map Prod.snd

/-- The number of keys that an answer of the server changes; what expires is not changed by it. -/
def FetchResult.committed (result : FetchResult) (before after : Snapshot) : Nat :=
  match result with
  | .ok _ => (ChangeSet.diff before after).size
  | .error _ => 0

namespace SyncStep

/-- The result that a refresh takes in, with the number of keys that it changes. -/
def answer? (s : SyncStep L) : Option (FetchResult × Nat) :=
  match s.move with
  | .answer result _ => some (result, result.committed s.before.shown s.after.shown)
  | _ => none

/-- What observers are told about refreshes. -/
def told (s : SyncStep L) : List Observed :=
  (observations s.events).filter TelemetryEvent.isReport

/-- Content that had a source has none any more. -/
def Expires (s : SyncStep L) : Prop :=
  s.before.shown.source ≠ .none ∧ s.after.shown.source = .none

instance (s : SyncStep L) : Decidable s.Expires := inferInstanceAs (Decidable (_ ∧ _))

end SyncStep

/-- All that observers have been shown, the oldest first. -/
def observed (h : List (SyncStep L)) : List Observed := h.flatMap fun s => observations s.events

/-- What observers have been told about refreshes. -/
def reports (h : List (SyncStep L)) : List Observed := h.flatMap SyncStep.told

/-- How refreshes have ended. -/
def outcomes (h : List (SyncStep L)) : List RefreshOutcome := h.flatMap fun s => endings s.events

/-- The results that refreshes have taken in, with the numbers of keys that they changed. -/
def fetchResults (h : List (SyncStep L)) : List (FetchResult × Nat) := h.filterMap SyncStep.answer?

section Lists

variable (events more : List (SyncEvent L)) (h : List (SyncStep L)) (s : SyncStep L)

@[simp] theorem observations_append :
    observations (events ++ more) = observations events ++ observations more :=
  List.filterMap_append

@[simp] theorem endings_append : endings (events ++ more) = endings events ++ endings more := by
  simp [endings]

theorem reports_concat : reports (h ++ [s]) = reports h ++ s.told := by
  simp [reports]

theorem outcomes_concat : outcomes (h ++ [s]) = outcomes h ++ endings s.events := by
  simp [outcomes]

theorem fetchResults_concat : fetchResults (h ++ [s]) = fetchResults h ++ s.answer?.toList := by
  cases hs : s.answer? <;> simp [fetchResults, hs]

theorem reports_eq : reports h = (observed h).filter TelemetryEvent.isReport := by
  induction h with
  | nil => rfl
  | cons s h ih =>
    rw [observed, List.flatMap_cons, List.filter_append, ← observed, ← ih]
    rfl

end Lists

/-! ## §3 What moves show -/

section Shown

variable {s : Sync L}

/-- A failure is reported once, whatever the log says of it. -/
theorem Sync.observations_failed (setting : SyncSetting) (now : Instant) (e : FetchError)
    (messages : Option Messages) :
    observations ((s.queueMessages messages).failed setting now e).2 = [.refreshError s.ns e] := by
  unfold Sync.failed
  cases h : ((s.queueMessages messages).failureLog.record setting.failureLogInterval now).2 <;>
    simp [observations, SyncEvent.observed?, h]

theorem mem_endings_iff {events : List (SyncEvent L)} {outcome : RefreshOutcome} :
    outcome ∈ endings events ↔ ∃ caller, .ended caller outcome ∈ events := by
  simp only [endings, List.mem_map, List.mem_filterMap]
  constructor
  · rintro ⟨⟨caller, o⟩, ⟨e, he, houtcome⟩, rfl⟩
    obtain rfl := SyncEvent.outcome?_eq_some_iff.1 houtcome
    exact ⟨caller, he⟩
  · rintro ⟨caller, he⟩
    exact ⟨(caller, outcome), ⟨_, he, rfl⟩, rfl⟩

theorem endings_eq_nil {events : List (SyncEvent L)}
    (h : ∀ caller outcome, .ended caller outcome ∉ events) : endings events = [] := by
  rw [List.eq_nil_iff_forall_not_mem]
  intro outcome houtcome
  obtain ⟨caller, hended⟩ := mem_endings_iff.1 houtcome
  exact h caller outcome hended

theorem Sync.observations_save {setting : SyncSetting} {fault : Option CacheStore.Fault}
    {snapshot : Snapshot} {f : Files} :
    observations (s.save setting fault snapshot f).2 = [] := by
  unfold Sync.save
  split
  · rfl
  · split <;> rfl

/-- Whoever is called, observers are told of a failed listener at most. -/
theorem Sync.forall_observations_deliver {react : L → ChangeSet → Listeners.Reaction L}
    {changes : ChangeSet} {recipient : Registration L} :
    ∀ e ∈ observations (s.deliver react changes recipient).2, e = .listenerPanic s.view.ns := by
  unfold Sync.deliver
  cases h : (s.view.listeners.call react changes recipient).2 <;>
    simp [observations, SyncEvent.observed?, h]

end Shown

namespace SyncMachine

variable {m : SyncMachine L} {caller : Nat}

theorem observations_proceed {r : Remaining} : observations (m.proceed caller r).2 = [] := by
  cases r <;> rfl

end SyncMachine

/-! ## §4 Accounts of single refreshes -/

/-- A refresh: the result of its fetch, the number of keys that the answer changed, how it ended,
and what observers were told. -/
structure RefreshAccount where
  result : FetchResult
  committed : Nat
  outcome : RefreshOutcome
  report : Observed

/-- **What belongs together**: one result, one outcome and one report. -/
inductive RefreshAccount.Fair (ns : String) : RefreshAccount → Prop
  /-- A release was committed. -/
  | updated {snapshot : Snapshot} {n : Nat} :
      Fair ns ⟨.ok (.updated snapshot), n, .updated n, .refreshSuccess ns n⟩
  /-- The release that was sent was there already. -/
  | known {snapshot : Snapshot} :
      Fair ns ⟨.ok (.updated snapshot), 0, .unchanged, .refreshSuccess ns 0⟩
  | confirmed : Fair ns ⟨.ok .notModified, 0, .unchanged, .refreshSuccess ns 0⟩
  | missing : Fair ns ⟨.ok .notFound, 0, .notFound, .notFound ns⟩
  | failed {e : FetchError} : Fair ns ⟨.error e, 0, .failed, .refreshError ns e⟩

theorem RefreshAccount.Fair.isReport {ns : String} {a : RefreshAccount} (h : a.Fair ns) :
    a.report.isReport = true := by
  cases h <;> rfl

theorem RefreshAccount.Fair.changedKeys_eq {ns : String} {a : RefreshAccount} (h : a.Fair ns) :
    a.report.changedKeys = a.committed := by
  cases h <;> rfl

/-- What a refresh with changes to tell has been answered and has told. -/
inductive Due (ns : String) (changes : ChangeSet) :
    RefreshOutcome → List (FetchResult × Nat) → List Observed → Prop
  | released {snapshot : Snapshot} :
      Due ns changes (.updated changes.size) [(.ok (.updated snapshot), changes.size)] []
  | expired {e : FetchError} : Due ns changes .failed [(.error e, 0)] [.refreshError ns e]

/-- **What a refresh under way has been answered and has told.** -/
def RefreshPhase.Open (ns : String) (answered : List (FetchResult × Nat)) (told : List Observed) :
    RefreshPhase L → Prop
  | .queued _ | .fetching _ => answered = [] ∧ told = []
  | .saving _ changes => Due ns changes (.updated changes.size) answered told
  | .committed changes outcome | .delivering changes _ outcome =>
    Due ns changes outcome answered told

/-- What the refresh under way has been answered and has told; nothing without one. -/
def SyncMachine.Open (ns : String) (answered : List (FetchResult × Nat)) (told : List Observed)
    (m : SyncMachine L) : Prop :=
  match m.active with
  | none => answered = [] ∧ told = []
  | some a => a.phase.Open ns answered told

/-- What a step makes of the account of the refresh under way. -/
inductive Advance (ns : String) (answered : List (FetchResult × Nat)) (told : List Observed)
    (s : SyncStep L) : Prop
  /-- It stays open. -/
  | onward (hends : endings s.events = [])
      (hopen : s.after.Open ns (answered ++ s.answer?.toList) (told ++ s.told))
  /-- It is closed. -/
  | closed (a : RefreshAccount) (hfair : a.Fair ns) (hidle : s.after.active = none)
      (hends : endings s.events = [a.outcome])
      (hanswered : answered ++ s.answer?.toList = [(a.result, a.committed)])
      (htold : told ++ s.told = [a.report])

namespace SyncMachine

section Parts

variable {ns : String} {answered : List (FetchResult × Nat)} {told : List Observed}
  {m : SyncMachine L} {a : ActiveRefresh L}

theorem open_of_none (h : m.active = none) (hm : m.Open ns answered told) :
    answered = [] ∧ told = [] := by
  rw [Open, h] at hm
  exact hm

theorem open_of_some (h : m.active = some a) :
    m.Open ns answered told ↔ a.phase.Open ns answered told := by
  rw [Open, h]

end Parts

variable {frame : SyncFrame L} {now : Instant} {m m' n : SyncMachine L} {f f' : Files}
  {move : SyncMove L} {events : List (SyncEvent L)} {answered : List (FetchResult × Nat)}
  {told : List Observed}

/-- Where nothing is shown and the refresh stays where it is, its account stays as it is. -/
theorem advance_of_same {s : SyncStep L} {ns : String} (hm : s.before.Open ns answered told)
    (hanswer : s.answer? = none) (hevents : s.events = [])
    (hactive : s.after.active = s.before.active) : Advance ns answered told s := by
  refine .onward (by rw [hevents]; rfl) ?_
  rw [hanswer, SyncStep.told, hevents, Open, hactive]
  simpa [observations, Open] using hm

/-- A refresh that has told somebody what has changed goes on with the next one, or it ends and its
account is closed. -/
theorem advance_tell {s : SyncStep L} (front : List (SyncEvent L)) {caller : Nat}
    {changes : ChangeSet} {left : List (Registration L)} {outcome : RefreshOutcome}
    (hdue : Due n.sync.ns changes outcome answered told)
    (hafter : s.after = (n.tell caller changes left outcome).1)
    (hevents : s.events = front ++ (n.tell caller changes left outcome).2)
    (hends : endings front = [])
    (htold : (observations front).filter TelemetryEvent.isReport = [])
    (hanswer : s.answer? = none) : Advance n.sync.ns answered told s := by
  cases left with
  | nil =>
    -- Nobody is left to tell, so a release is reported now; a failure has been already.
    have hidle : s.after.active = none := by
      rw [hafter]
      exact active_letGo ..
    have hend : endings s.events = [outcome] := by
      rw [hevents, endings_append, hends]
      cases outcome <;> rfl
    have hreport : s.told = (observations (n.sync.concluded outcome)).filter
        TelemetryEvent.isReport := by
      rw [SyncStep.told, hevents, observations_append, List.filter_append, htold, tell,
        observations_append, List.filter_append]
      simp [observations, SyncEvent.observed?]
    have hnothing : answered ++ s.answer?.toList = answered := by simp [hanswer]
    cases hdue with
    | released =>
      refine .closed _ .updated hidle hend hnothing ?_
      rw [hreport]
      rfl
    | expired =>
      refine .closed _ .failed hidle hend hnothing ?_
      rw [hreport]
      rfl
  | cons next left =>
    have hreport : s.told = [] := by
      rw [SyncStep.told, hevents, observations_append, List.filter_append, htold]
      rfl
    refine .onward ?_ ?_
    · rw [hevents, endings_append, hends]
      rfl
    · rw [hafter, hanswer, hreport]
      simpa [Open, tell, RefreshPhase.Open] using hdue

/-- A refresh that its answer ends is reported at once. -/
theorem advance_nothing {ns : String} {front : List (SyncEvent L)} {backoff : Backoff}
    {caller : Nat} {a : RefreshAccount} (hfair : a.Fair ns)
    (hcommitted : a.committed = a.result.committed m.shown n.shown)
    (hends : endings front = []) (hreport : observations front = [a.report]) :
    Advance ns [] [] ⟨now, .answer a.result backoff, m, (n.proceed caller (.nothing a.outcome)).1,
      f, front ++ (n.proceed caller (.nothing a.outcome)).2⟩ := by
  refine .closed a hfair (active_letGo ..) ?_ ?_ ?_
  · rw [endings_append, hends]
    rfl
  · simp [SyncStep.answer?, hcommitted]
  · rw [SyncStep.told, observations_append, observations_proceed, hreport]
    simp [hfair.isReport]

theorem size_diff_of_same {old new : Snapshot} (h : ∀ k, old.get? k = new.get? k) :
    (ChangeSet.diff old new).size = 0 := by
  have hempty := ChangeSet.isEmpty_diff_iff.2 h
  simpa [ChangeSet.isEmpty, ChangeSet.size] using hempty

/-- **An answer** ends the refresh, or leaves it with something to save or to tell. -/
theorem advance_of_answer {caller : Nat} {flight : Flight} {result : FetchResult}
    {backoff : Backoff} {sync : Sync L} {remaining : Remaining}
    (hprevious : flight.previous = m.shown)
    (hanswer : Sync.Answer frame.setting now flight { m.sync with backoff } result
      sync events remaining) :
    Advance m.sync.ns [] [] ⟨now, .answer result backoff, m,
      ({ m with sync }.proceed caller remaining).1, f,
      events ++ ({ m with sync }.proceed caller remaining).2⟩ := by
  have hends : endings events = [] := endings_eq_nil fun _ _ => hanswer.not_ended
  have hkept : 0 = (ChangeSet.diff m.shown m.shown).size :=
    (size_diff_of_same fun _ => rfl).symm
  cases hanswer with
  | @current snapshot =>
    exact advance_nothing (a := ⟨.ok (.updated snapshot), 0, .unchanged, _⟩) .known hkept hends rfl
  | @recognised snapshot _ _ hsame =>
    have hnone : 0 = (ChangeSet.diff m.shown snapshot).size :=
      (size_diff_of_same (ChangeSet.isEmpty_diff_iff.1 hsame)).symm
    exact advance_nothing (a := ⟨.ok (.updated snapshot), 0, .unchanged, _⟩) .known hnone hends rfl
  | released =>
    -- Nothing is reported before the release has been saved and told.
    refine .onward (by rw [endings_append, hends]; rfl) ?_
    exact .released
  | upgraded =>
    -- What is confirmed was shown when the refresh began, and still is.
    have hnone : 0 = (ChangeSet.diff m.shown (flight.previous.withSource .remote)).size := by
      rw [hprevious]
      exact (size_diff_of_same fun _ => rfl).symm
    exact advance_nothing (a := ⟨.ok .notModified, 0, .unchanged, _⟩) .confirmed hnone hends rfl
  | unmodified =>
    exact advance_nothing (a := ⟨.ok .notModified, 0, .unchanged, _⟩) .confirmed hkept hends rfl
  | missing =>
    exact advance_nothing (a := ⟨.ok .notFound, 0, .notFound, _⟩) .missing hkept hends rfl
  | @failed e =>
    exact advance_nothing (a := ⟨.error e, 0, .failed, .refreshError m.sync.ns e⟩) .failed rfl
      hends (Sync.observations_failed ..)
  | expired =>
    -- The failure has been reported, and what was shown has yet to be taken back.
    refine .onward (by rw [endings_append, hends]; rfl) ?_
    rw [SyncStep.told, observations_append, observations_append, Sync.observations_failed]
    exact .expired

/-- **A move keeps the account of the refresh under way open, or closes it.** -/
theorem advance_of_step {ns : String} (hns : m.sync.ns = ns) (hfits : m.Fits)
    (hm : m.Open ns answered told) (step : m.Step frame now f move m' f' events)
    (hmove : ∀ caller, move ≠ .abandon caller) :
    Advance ns answered told ⟨now, move, m, m', f', events⟩ := by
  subst hns
  cases step with
  | enter _ hfree =>
    obtain ⟨rfl, rfl⟩ := open_of_none hfree hm
    exact .onward rfl ⟨rfl, rfl⟩
  | permit hactive =>
    obtain ⟨rfl, rfl⟩ := (open_of_some hactive).1 hm
    exact .onward rfl ⟨rfl, rfl⟩
  | answer hactive hanswer =>
    obtain ⟨rfl, rfl⟩ := (open_of_some hactive).1 hm
    exact advance_of_answer (hfits _ hactive) hanswer
  | saved hactive =>
    have hdue := (open_of_some hactive).1 hm
    refine .onward (endings_eq_nil fun _ _ => Sync.not_ended_save) ?_
    rw [SyncStep.told, Sync.observations_save]
    simpa [Open, RefreshPhase.Open, SyncStep.answer?] using hdue
  | gather hactive =>
    exact advance_tell [] ((open_of_some hactive).1 hm) rfl rfl rfl rfl rfl
  | @deliver _ changes next _ _ hactive =>
    have hdue := (open_of_some hactive).1 hm
    have hnothing : (observations (m.sync.deliver frame.react changes next).2).filter
        TelemetryEvent.isReport = [] := by
      rw [List.filter_eq_nil_iff]
      intro e he
      rw [Sync.forall_observations_deliver e he]
      exact Bool.false_ne_true
    exact advance_tell (n := { m with sync := (m.sync.deliver frame.react changes next).1 }) _ hdue
      rfl rfl (endings_eq_nil fun _ _ => Sync.not_ended_deliver) hnothing rfl
  | abandon => exact absurd rfl (hmove _)
  | _ => exact advance_of_same hm rfl rfl rfl

end SyncMachine

end LiveConfig
