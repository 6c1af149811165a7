import LiveConfig.Proofs.FailureLog
import LiveConfig.Proofs.Sync.Accounting

/-!
# Warnings of failed refreshes

A namespace tells its log of failures how every fetch has ended, and nothing else. So the warnings
of a run are what its log reports: whoever moves in between, they keep their distance, and together
with the failures that are held back they are all failures since the server last answered.

## Main statements

- `SyncMachine.failureLog_of_answer`, `SyncMachine.failureLog_of_step`: the log after a move.
- `SyncMachine.warnings_of_failure`, `SyncMachine.warnings_of_step`: which moves warn, and of what.
- `SyncRun.log_stretch`: the log after any run.
- `SyncRun.warned`: the warnings of any run, and the failures in its status.
-/

namespace LiveConfig

open FailureLog (stretch)

variable {L : Type}

/-! ## §1 What the log is told -/

/-- What the end of a fetch tells the log of failures. -/
def FetchResult.logCall (now : Instant) : FetchResult → FailureLog.Call
  | .ok _ => .reset
  | .error _ => .failure now

/-- What a step tells the log of failures. -/
def SyncStep.logCall? (s : SyncStep L) : Option FailureLog.Call :=
  s.answer?.map fun a => a.1.logCall s.moment

/-- All that a history tells the log of failures, the oldest first. -/
def logCalls (h : List (SyncStep L)) : List FailureLog.Call := h.filterMap SyncStep.logCall?

/-- The log after the end of a fetch. -/
def FailureLog.afterResult (interval : Duration) (now : Instant) (result : FetchResult)
    (l : FailureLog) : FailureLog :=
  match result with
  | .ok _ => l.reset
  | .error _ => (l.record interval now).1

theorem FailureLog.Stretch.log_next {interval : Duration} {now : Instant} {result : FetchResult}
    (s : Stretch) :
    (s.next interval (result.logCall now)).log = s.log.afterResult interval now result := by
  cases result <;> rfl

section Histories

variable {h : List (SyncStep L)}

theorem logCalls_concat (s : SyncStep L) :
    logCalls (h ++ [s]) = logCalls h ++ s.logCall?.toList := by
  cases hs : s.logCall? <;> simp [logCalls, hs]

theorem SyncStep.moment_of_logCall? {s : SyncStep L} {now : Instant}
    (hs : s.logCall?.bind FailureLog.Call.moment? = some now) : now = s.moment := by
  obtain ⟨call, hcall, hnow⟩ := Option.bind_eq_some_iff.1 hs
  obtain ⟨⟨result, _⟩, -, rfl⟩ := Option.map_eq_some_iff.1 hcall
  cases result with
  | ok => cases hnow
  | error => exact (Option.some.inj hnow).symm

/-- What the log is told comes in the order of the steps. -/
theorem pairwise_logCalls (horder : (h.map SyncStep.moment).Pairwise (· ≤ ·)) :
    ((logCalls h).filterMap FailureLog.Call.moment?).Pairwise (· ≤ ·) := by
  rw [logCalls, List.filterMap_filterMap, List.pairwise_filterMap]
  refine (List.pairwise_map.1 horder).imp fun hle now hnow later hlater => ?_
  rw [SyncStep.moment_of_logCall? hnow, SyncStep.moment_of_logCall? hlater]
  exact hle

/-- The log has recorded the failures since the server last answered. -/
theorem length_entries_stretch (interval : Duration) (h : List (SyncStep L)) :
    (stretch interval (logCalls h)).entries.length
      = (((fetchResults h).map Prod.fst).rtakeWhile fun r => r.failure?.isSome).length := by
  induction h using List.reverseRecOn with
  | nil => rfl
  | append_singleton h s ih =>
    rw [logCalls_concat, fetchResults_concat, SyncStep.logCall?]
    cases s.answer? with
    | none => simpa using ih
    | some a =>
      obtain ⟨result, committed⟩ := a
      rw [Option.map_some, Option.toList_some, Option.toList_some, FailureLog.stretch_concat,
        List.map_append, List.map_singleton]
      cases result with
      | ok outcome =>
        rw [List.rtakeWhile_concat_neg _ _ _ Bool.false_ne_true]
        rfl
      | error e =>
        rw [List.rtakeWhile_concat_pos _ _ _ rfl, List.length_append, ← ih]
        exact List.length_append

end Histories

/-! ## §2 What moves warn of -/

/-- The warning of a failed refresh that an event shows. -/
def SyncEvent.warning? : SyncEvent L → Option LogLine
  | .logged line =>
    if line.message = "config-sync refresh failed; serving last known configuration" then some line
    else none
  | _ => none

/-- The warnings of failed refreshes among events. -/
def warnings (events : List (SyncEvent L)) : List LogLine :=
  events.filterMap SyncEvent.warning?

@[simp] theorem warnings_append (events more : List (SyncEvent L)) :
    warnings (events ++ more) = warnings events ++ warnings more :=
  List.filterMap_append

theorem Sync.failureLog_queueMessages (messages : Option Messages) (s : Sync L) :
    (s.queueMessages messages).failureLog = s.failureLog := by
  cases messages <;> rfl

/-- The warning of a failure, if the log reports it. -/
theorem Sync.warnings_failed (setting : SyncSetting) (now : Instant) (e : FetchError)
    (s : Sync L) :
    warnings (s.failed setting now e).2
      = ((s.failureLog.record setting.failureLogInterval now).2.map fun suppressed =>
        SyncEvent.failureLine s.ns e (s.failed setting now e).1.health.failures suppressed
          s.view.snapshot.source).toList := by
  unfold Sync.failed
  cases h : (s.failureLog.record setting.failureLogInterval now).2 <;>
    simp [warnings, List.filterMap_cons, SyncEvent.warning?, SyncEvent.failureLine,
      LogLine.warning, h]

theorem Sync.warnings_save (setting : SyncSetting) (fault : Option CacheStore.Fault)
    (snapshot : Snapshot) (f : Files) (s : Sync L) :
    warnings (s.save setting fault snapshot f).2 = [] := by
  unfold Sync.save
  split
  · rfl
  · split <;> simp [warnings, SyncEvent.warning?, SyncEvent.unsavedLine, LogLine.warning]

theorem Sync.warnings_deliver (react : L → ChangeSet → Listeners.Reaction L)
    (changes : ChangeSet) (recipient : Registration L) (s : Sync L) :
    warnings (s.deliver react changes recipient).2 = [] := by
  unfold Sync.deliver
  cases h : (s.view.listeners.call react changes recipient).2 <;>
    simp [warnings, SyncEvent.warning?, SyncEvent.panicLine, h]

/-- An expiry is no warning of a failure. -/
theorem warnings_expiry (ns : String) (unconfirmed : Duration) :
    warnings [.logged (SyncEvent.expiryLine ns unconfirmed),
      (.observed (.fallbackExpired ns) : SyncEvent L)] = [] := by
  simp [warnings, SyncEvent.warning?, SyncEvent.expiryLine, LogLine.warning]

namespace SyncMachine

variable {frame : SyncFrame L} {now : Instant} {m m' : SyncMachine L} {f f' : Files}
  {move : SyncMove L} {events : List (SyncEvent L)} {backoff : Backoff}

theorem warnings_proceed (caller : Nat) (r : Remaining) (m : SyncMachine L) :
    warnings (m.proceed caller r).2 = [] := by
  cases r <;> rfl

theorem warnings_tell (caller : Nat) (changes : ChangeSet) (left : List (Registration L))
    (outcome : RefreshOutcome) (m : SyncMachine L) :
    warnings (m.tell caller changes left outcome).2 = [] := by
  cases left <;> cases outcome <;> rfl

theorem failureLog_of_answer {result : FetchResult}
    (step : m.Step frame now f (.answer result backoff) m' f' events) :
    m'.sync.failureLog
      = m.sync.failureLog.afterResult frame.setting.failureLogInterval now result := by
  cases step with
  | answer _ hanswer =>
    rw [sync_proceed]
    cases hanswer with
    | failed | expired =>
      exact congrArg (fun l => (FailureLog.record _ now l).1) (Sync.failureLog_queueMessages ..)
    | _ => rfl

/-- Only answers concern the log. -/
theorem failureLog_of_step (step : m.Step frame now f move m' f' events)
    (hmove : ∀ result backoff, move ≠ .answer result backoff) :
    m'.sync.failureLog = m.sync.failureLog := by
  cases step with
  | answer => exact absurd rfl (hmove _ _)
  | announce => exact Sync.failureLog_queueMessages ..
  | gather => rw [sync_tell]
  | deliver =>
    rw [sync_tell]
    rfl
  | _ => rfl

/-- **A failure is warned of** exactly if the log reports it, with what it holds back. -/
theorem warnings_of_failure {e : FetchError}
    (step : m.Step frame now f (.answer (.error e) backoff) m' f' events) :
    warnings events
      = ((m.sync.failureLog.record frame.setting.failureLogInterval now).2.map fun suppressed =>
        SyncEvent.failureLine m.sync.ns e m'.sync.health.failures suppressed m.shown.source).toList
    := by
  cases step with
  | @answer _ flight _ _ _ _ _ _ hanswer =>
    rw [warnings_append, warnings_proceed, List.append_nil, sync_proceed]
    cases hanswer with
    | failed =>
      rw [Sync.warnings_failed, Sync.failureLog_queueMessages, Sync.view_queueMessages,
        Sync.ns_queueMessages]
      rfl
    | expired =>
      -- The warning comes first, and names what was shown until then.
      rw [warnings_append, Sync.warnings_failed, Sync.failureLog_queueMessages,
        Sync.view_queueMessages, Sync.ns_queueMessages, warnings_expiry, List.append_nil]
      rfl

/-- Nothing else is warned of. -/
theorem warnings_of_step (step : m.Step frame now f move m' f' events)
    (hmove : ∀ e backoff, move ≠ .answer (.error e) backoff) : warnings events = [] := by
  cases step with
  | answer _ hanswer =>
    rw [warnings_append, warnings_proceed, List.append_nil]
    cases hanswer with
    | failed | expired => exact absurd rfl (hmove _ _)
    | _ => rfl
  | saved => exact Sync.warnings_save ..
  | gather => exact warnings_tell ..
  | deliver => rw [warnings_append, Sync.warnings_deliver, warnings_tell, List.append_nil]
  | _ => rfl

end SyncMachine

/-! ## §3 Runs -/

theorem SyncMachine.failureLog_start (setting : SyncSetting) (f : Files) (ns : String)
    (now : Instant) : (SyncMachine.start (L := L) setting f ns now).1.sync.failureLog = {} := by
  unfold SyncMachine.start Sync.start
  dsimp only
  split <;> rfl

/-- **What a history warns of**: the failures since the last answer, in the state of the log and of
the status after it, and in the warnings. -/
structure Warned (interval : Duration) (ns : String) (h : List (SyncStep L)) (m : SyncMachine L) :
    Prop where
  /-- They are reported at the pace of the interval, and counted once. -/
  accounted : (stretch interval (logCalls h)).Accounted interval
  log_eq : (stretch interval (logCalls h)).log = m.sync.failureLog
  /-- The status counts the same failures. -/
  failures_eq : m.sync.health.failures
    = min (stretch interval (logCalls h)).entries.length Health.maxFailures
  /-- A refresh that fails is warned of if its failure is reported, with both numbers. -/
  reported : ∀ h₁ s h₂ e backoff, h = h₁ ++ s :: h₂ → s.move = .answer (.error e) backoff →
    ∃ report, (stretch interval (logCalls (h₁ ++ [s]))).entries
        = (stretch interval (logCalls h₁)).entries ++ [⟨s.moment, report⟩]
      ∧ warnings s.events = (report.map fun suppressed => SyncEvent.failureLine ns e
        s.after.sync.health.failures suppressed s.before.shown.source).toList
  /-- Nothing else is warned of. -/
  quiet : ∀ s ∈ h, (∀ e backoff, s.move ≠ .answer (.error e) backoff) → warnings s.events = []

namespace SyncRun

variable {frame : SyncFrame L} {m₀ m : SyncMachine L} {f₀ f : Files} {h : List (SyncStep L)}

/-- **The log after any run** is that of a log that was told how the fetches ended. -/
theorem log_stretch (run : SyncRun frame m₀ f₀ h m f) (h₀ : m₀.sync.failureLog = {}) :
    (stretch frame.setting.failureLogInterval (logCalls h)).log = m.sync.failureLog := by
  induction run with
  | nil => exact h₀.symm
  | @snoc h m m' f f' now move events _ hstep ih =>
    have step := SyncMachine.step_of_step? hstep
    rw [logCalls_concat]
    rcases SyncMachine.answer_or_not_answer move with ⟨result, backoff, rfl⟩ | hmove
    · rw [SyncMachine.failureLog_of_answer step, ← ih]
      exact (congrArg _ (FailureLog.stretch_concat _)).trans (FailureLog.Stretch.log_next _)
    · have hnothing : (SyncStep.mk now move m m' f' events).logCall? = none := by
        cases move with
        | answer result backoff => exact absurd rfl (hmove result backoff)
        | _ => rfl
      rw [SyncMachine.failureLog_of_step step hmove, hnothing]
      simpa using ih

/-- **The warnings of any run.** The failures since the server last answered are those that the
status counts, and they are warned of as a log reports them: the first one at once, later ones at
least the interval apart, and none is missing from the numbers. -/
theorem warned {ns : String} {now : Instant}
    (run : SyncRun frame (SyncMachine.start frame.setting f₀ ns now).1 f₀ h m f)
    (horder : (h.map SyncStep.moment).Pairwise (· ≤ ·)) :
    Warned frame.setting.failureLogInterval ns h m := by
  have h₀ := SyncMachine.failureLog_start (L := L) frame.setting f₀ ns now
  have htracks := run.tracks (SyncMachine.health_start ..)
  refine ⟨FailureLog.accounted_stretch (pairwise_logCalls horder), run.log_stretch h₀, ?failures,
    fun h₁ s h₂ e backoff hsplit hmove => ?reported, fun s hs hmove => ?quiet⟩
  case failures =>
    rw [length_entries_stretch]
    exact htracks.1
  case reported =>
    subst hsplit
    obtain ⟨g, before, step⟩ := run.exists_before
    have hcall : s.logCall? = some (.failure s.moment) := by
      rw [SyncStep.logCall?, SyncStep.answer?, hmove]
      rfl
    rw [hmove] at step
    refine ⟨(s.before.sync.failureLog.record frame.setting.failureLogInterval s.moment).2, ?_, ?_⟩
    · rw [logCalls_concat, hcall, Option.toList_some, FailureLog.stretch_concat,
        FailureLog.Stretch.next_failure, before.log_stretch h₀]
    · rw [SyncMachine.warnings_of_failure step, before.ns_eq, SyncMachine.ns_start]
  case quiet =>
    obtain ⟨f, step⟩ := run.step_of_mem hs
    exact SyncMachine.warnings_of_step (SyncMachine.step_of_step? step) hmove

end SyncRun

end LiveConfig
