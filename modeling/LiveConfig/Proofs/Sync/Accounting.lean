import LiveConfig.Proofs.Sync.Durability
import LiveConfig.Proofs.Sync.Reports
import LiveConfig.Proofs.Sync.Staleness
import Mathlib.Data.List.DropRight

/-!
# What refreshes add up to

The counters of observers and the status of a namespace are kept apart from one another, and each is
written at several places. They agree all the same, however the refreshes end and whoever moves
between them: what was reported is what has happened, and nothing is counted twice.

## Main statements

- `SyncMachine.tracks_of_step`: the health of a namespace is that of its latest results.
- `SyncMachine.expiries_of_step`: an expiry is shown when content is lost, and only then.
- `SyncRun.booked`: the accounts of all refreshes that have ended are closed.
- `SyncRun.exists_account`: one refresh has one account.
- `SyncRun.balanced`: reports, counters and status after any run of refreshes.
-/

namespace LiveConfig

variable {L : Type}

/-! ## §1 Health -/

/-- The error with which a fetch has failed. -/
def FetchResult.failure? : FetchResult → Option FetchError
  | .error e => some e
  | .ok _ => none

/-- **The health of a namespace is that of its latest results**: the failures at their end are
counted, and the last result is the last error if it is a failure. -/
def Health.Tracks (results : List FetchResult) (h : Health) : Prop :=
  h.failures = min (results.rtakeWhile fun r => r.failure?.isSome).length maxFailures
    ∧ h.lastError = (results.getLast?.bind FetchResult.failure?).map FetchError.message

/-- The health after the result of a fetch. -/
def Health.afterResult (now : Instant) (result : FetchResult) (h : Health) : Health :=
  match result with
  | .ok _ => h.recordSuccess now
  | .error e => h.recordFailure e.message

theorem Health.Tracks.concat {h : Health} {results : List FetchResult} (hh : h.Tracks results)
    (now : Instant) (result : FetchResult) :
    (h.afterResult now result).Tracks (results ++ [result]) := by
  rw [Tracks, List.getLast?_concat]
  cases result with
  | ok outcome =>
    rw [List.rtakeWhile_concat_neg _ _ _ Bool.false_ne_true]
    exact ⟨rfl, rfl⟩
  | error e =>
    rw [List.rtakeWhile_concat_pos _ _ _ rfl, List.length_append, List.length_singleton]
    refine ⟨?_, rfl⟩
    have hfailures := hh.1
    show min (h.failures + 1) maxFailures = _
    omega

theorem Sync.health_queueMessages (messages : Option Messages) (s : Sync L) :
    (s.queueMessages messages).health = s.health := by
  cases messages <;> rfl

namespace SyncMachine

variable {frame : SyncFrame L} {now : Instant} {m m' : SyncMachine L} {f f' : Files}
  {move : SyncMove L} {events : List (SyncEvent L)}

theorem health_of_answer {result : FetchResult} {backoff : Backoff}
    (step : m.Step frame now f (.answer result backoff) m' f' events) :
    m'.sync.health = m.sync.health.afterResult now result := by
  cases step with
  | answer _ hanswer =>
    rw [sync_proceed]
    cases hanswer with
    | @failed e | @expired e =>
      exact congrArg (Health.recordFailure e.message) (Sync.health_queueMessages ..)
    | _ => rfl

/-- A move is an answer, or it is another one. -/
theorem answer_or_not_answer (move : SyncMove L) :
    (∃ result backoff, move = .answer result backoff)
      ∨ ∀ result backoff, move ≠ .answer result backoff := by
  cases move with
  | answer result backoff => exact .inl ⟨result, backoff, rfl⟩
  | _ => exact .inr nofun

/-- Only answers concern the health. -/
theorem health_of_step (step : m.Step frame now f move m' f' events)
    (hmove : ∀ result backoff, move ≠ .answer result backoff) :
    m'.sync.health = m.sync.health := by
  cases step with
  | answer => exact absurd rfl (hmove _ _)
  | announce => exact Sync.health_queueMessages ..
  | gather => rw [sync_tell]
  | deliver =>
    rw [sync_tell]
    rfl
  | _ => rfl

/-- **A move leaves the health that of the latest results.** -/
theorem tracks_of_step {h : List (SyncStep L)}
    (hm : m.sync.health.Tracks ((fetchResults h).map Prod.fst))
    (step : m.Step frame now f move m' f' events) :
    m'.sync.health.Tracks
      ((fetchResults (h ++ [⟨now, move, m, m', f', events⟩])).map Prod.fst) := by
  rw [fetchResults_concat, List.map_append]
  rcases answer_or_not_answer move with ⟨result, backoff, rfl⟩ | hmove
  · rw [health_of_answer step]
    exact hm.concat now result
  · have hnothing : (SyncStep.mk now move m m' f' events).answer? = none := by
      cases move with
      | answer result backoff => exact absurd rfl (hmove result backoff)
      | _ => rfl
    rw [health_of_step step hmove, hnothing]
    simpa using hm

/-! ## §2 Expiry -/

theorem expiries_of_tell {n : SyncMachine L} {caller : Nat} {changes : ChangeSet}
    {left : List (Registration L)} {outcome : RefreshOutcome} :
    (observations (n.tell caller changes left outcome).2).filter TelemetryEvent.isExpiry = [] := by
  cases left <;> cases outcome <;> rfl

theorem not_expires_of_same {s : SyncStep L} (h : s.after.shown = s.before.shown) :
    ¬s.Expires := by
  rintro ⟨hbefore, hafter⟩
  rw [h] at hafter
  exact hbefore hafter

/-- Where nothing is lost no expiry is shown. -/
theorem expiries_of_not_answer (step : m.Step frame now f move m' f' events)
    (hmove : ∀ result backoff, move ≠ .answer result backoff) :
    (observations events).filter TelemetryEvent.isExpiry = [] := by
  cases step with
  | answer => exact absurd rfl (hmove _ _)
  | saved => rw [Sync.observations_save, List.filter_nil]
  | gather => exact expiries_of_tell
  | deliver =>
    rw [observations_append, List.filter_append, expiries_of_tell, List.append_nil,
      List.filter_eq_nil_iff]
    intro e he
    rw [Sync.forall_observations_deliver e he]
    exact Bool.false_ne_true
  | _ => rfl

/-- **An expiry is shown when content is lost**, and only then. -/
theorem expiries_of_step {ns : String} {config : FetchConfig} (hns : m.sync.ns = ns)
    (step : m.Step frame now f move m' f' events)
    (hfetched : ∀ result backoff, move = .answer result backoff → config.Yields ns result) :
    (observations events).filter TelemetryEvent.isExpiry
      = if (SyncStep.mk now move m m' f' events).Expires then [.fallbackExpired ns] else [] := by
  subst hns
  rcases answer_or_not_answer move with ⟨result, backoff, rfl⟩ | hmove
  · have hyields := hfetched _ _ rfl
    cases step with
    | @answer _ flight _ _ _ _ _ _ hanswer =>
      rw [observations_append, observations_proceed, List.append_nil]
      have hfailed (e : FetchError) :
          (observations ((Sync.queueMessages flight.messages { m.sync with backoff }).failed
            frame.setting now e).2).filter TelemetryEvent.isExpiry = [] := by
        rw [Sync.observations_failed]
        rfl
      cases hanswer with
      | current | unmodified | missing =>
        rw [if_neg (not_expires_of_same shown_proceed)]
        rfl
      | failed =>
        rw [hfailed, if_neg]
        exact not_expires_of_same (by simp [shown])
      | recognised | released =>
        -- What a fetch delivers has a source.
        rw [if_neg]
        · rfl
        · rintro ⟨-, hafter⟩
          rw [shown_proceed] at hafter
          cases hyields.source_eq.symm.trans hafter
      | upgraded =>
        rw [if_neg]
        · rfl
        · rintro ⟨-, hafter⟩
          rw [shown_proceed] at hafter
          cases hafter
      | expired _ hshown =>
        rw [if_pos ⟨hshown, by rw [shown_proceed]; rfl⟩, observations_append, List.filter_append,
          hfailed]
        rfl
  · rw [expiries_of_not_answer step hmove, if_neg (not_expires_of_same (shown_of_step step hmove))]

end SyncMachine

/-! ## §3 Runs -/

/-- A refresh begins with nothing to its account. -/
theorem SyncMachine.open_of_enter {frame : SyncFrame L} {now : Instant} {m m' : SyncMachine L}
    {f f' : Files} {caller : Nat} {events : List (SyncEvent L)} {ns : String}
    (step : m.Step frame now f (.enter caller) m' f' events) : m'.Fits ∧ m'.Open ns [] [] := by
  cases step
  exact ⟨fits_of_some rfl rfl, rfl, rfl⟩

theorem SyncMachine.health_start (setting : SyncSetting) (f : Files) (ns : String)
    (now : Instant) : (SyncMachine.start (L := L) setting f ns now).1.sync.health = {} := by
  unfold SyncMachine.start Sync.start
  dsimp only
  split <;> rfl

/-- **The account of all refreshes**: those that have ended, and the one that is under way. -/
def Booked (ns : String) (h : List (SyncStep L)) (m : SyncMachine L) : Prop :=
  ∃ (story : List RefreshAccount) (answered : List (FetchResult × Nat)) (told : List Observed),
    (∀ a ∈ story, a.Fair ns)
      ∧ fetchResults h = story.map (fun a => (a.result, a.committed)) ++ answered
      ∧ outcomes h = story.map RefreshAccount.outcome
      ∧ reports h = story.map RefreshAccount.report ++ told
      ∧ m.Open ns answered told

theorem Booked.concat {ns : String} {h : List (SyncStep L)} {m : SyncMachine L} {s : SyncStep L}
    (hm : Booked ns h m)
    (hadvance : ∀ answered told, m.Open ns answered told → Advance ns answered told s) :
    Booked ns (h ++ [s]) s.after := by
  obtain ⟨story, answered, told, hfair, hfetches, houtcomes, hreports, hopen⟩ := hm
  cases hadvance answered told hopen with
  | onward hends hopen' =>
    refine ⟨story, _, _, hfair, ?_, ?_, ?_, hopen'⟩
    · rw [fetchResults_concat, hfetches, List.append_assoc]
    · rw [outcomes_concat, houtcomes, hends, List.append_nil]
    · rw [reports_concat, hreports, List.append_assoc]
  | closed a ha hidle hends hanswered htold =>
    refine ⟨story ++ [a], [], [], ?_, ?_, ?_, ?_, ?_⟩
    · intro b hb
      rcases List.mem_append.1 hb with hb | hb
      · exact hfair b hb
      · obtain rfl := List.mem_singleton.1 hb
        exact ha
    · rw [fetchResults_concat, hfetches, List.append_assoc, hanswered, List.map_append,
        List.append_nil]
      rfl
    · rw [outcomes_concat, houtcomes, hends, List.map_append]
      rfl
    · rw [reports_concat, hreports, List.append_assoc, htold, List.map_append, List.append_nil]
      rfl
    · rw [SyncMachine.Open, hidle]
      exact ⟨rfl, rfl⟩

/-- **What refreshes add up to**, in a history and in the status of the namespace after it. -/
structure Balanced (ns : String) (h : List (SyncStep L)) (status : NamespaceStatus) : Prop where
  /-- Between its beginning and its end a refresh takes in one result, and is reported once. -/
  each : ∀ (h₁ since h₂ : List (SyncStep L)) (e t : SyncStep L) (caller c : Nat)
      (outcome : RefreshOutcome), h = h₁ ++ e :: since ++ t :: h₂ → e.move = .enter caller →
    NoEnter since → .ended c outcome ∈ t.events →
    ∃ a : RefreshAccount, a.Fair ns ∧ a.outcome = outcome
      ∧ fetchResults (e :: since ++ [t]) = [(a.result, a.committed)]
      ∧ reports (e :: since ++ [t]) = [a.report]
  /-- These are all results, outcomes and reports, in the same order. -/
  story : ∃ story : List RefreshAccount, (∀ a ∈ story, a.Fair ns)
    ∧ fetchResults h = story.map (fun a => (a.result, a.committed))
    ∧ outcomes h = story.map RefreshAccount.outcome
    ∧ reports h = story.map RefreshAccount.report
  /-- The keys that are reported as changed are those that answers have changed. -/
  changedKeys : ((reports h).map TelemetryEvent.changedKeys).sum
    = ((fetchResults h).map Prod.snd).sum
  /-- The status counts the failures since the server last answered. -/
  failures : status.failures
    = min ((outcomes h).rtakeWhile fun o => o = .failed).length Health.maxFailures
  /-- There is a last error as long as there are such failures. -/
  lastError_isSome : status.lastError.isSome = true ↔ 0 < status.failures
  /-- It is the text of the failure that was reported last. -/
  lastError : status.lastError
    = ((reports h).getLast?.bind TelemetryEvent.failure?).map FetchError.message
  /-- Every loss of content is shown once, and nothing else is shown as one. -/
  expiries : ∀ s ∈ h, (observations s.events).filter TelemetryEvent.isExpiry
    = if s.Expires then [.fallbackExpired ns] else []
  /-- The counters of an observer. -/
  counters : ((({} : Counters).countAll (observed h)).refreshSuccess
        + (({} : Counters).countAll (observed h)).refreshError
        + (({} : Counters).countAll (observed h)).notFound = (outcomes h).length)
    ∧ (({} : Counters).countAll (observed h)).refreshChangedKeys
      = ((fetchResults h).map Prod.snd).sum % UInt64.size
    ∧ (({} : Counters).countAll (observed h)).fallbackExpired
      = h.countP fun s => decide s.Expires

section Stories

variable {ns : String} {a : RefreshAccount} {story : List RefreshAccount}

theorem RefreshAccount.Fair.isSome_failure? (h : a.Fair ns) :
    a.result.failure?.isSome = decide (a.outcome = .failed) := by
  cases h <;> simp [FetchResult.failure?]

theorem RefreshAccount.Fair.failure?_eq (h : a.Fair ns) :
    a.result.failure? = a.report.failure? := by
  cases h <;> rfl

/-- As many fetches have failed at the end of a story as refreshes. -/
theorem length_rtakeWhile_failed (h : ∀ a ∈ story, a.Fair ns) :
    ((story.map RefreshAccount.result).rtakeWhile fun r => r.failure?.isSome).length
      = ((story.map RefreshAccount.outcome).rtakeWhile fun o => o = .failed).length := by
  induction story using List.reverseRecOn with
  | nil => rfl
  | append_singleton story a ih =>
    have ih := ih fun b hb => h b (List.mem_append_left _ hb)
    rw [List.map_append, List.map_append, List.map_singleton, List.map_singleton,
      List.rtakeWhile_concat, List.rtakeWhile_concat, (h a (by simp)).isSome_failure?]
    split
    · rw [List.length_append, List.length_append, ih]
      rfl
    · rfl

theorem getLast?_failure (h : ∀ a ∈ story, a.Fair ns) :
    (story.map RefreshAccount.result).getLast?.bind FetchResult.failure?
      = (story.map RefreshAccount.report).getLast?.bind TelemetryEvent.failure? := by
  rcases List.eq_nil_or_concat story with rfl | ⟨front, a, rfl⟩
  · rfl
  · rw [List.concat_eq_append, List.map_append, List.map_append, List.map_singleton,
      List.map_singleton, List.getLast?_concat, List.getLast?_concat]
    exact (h a (by simp)).failure?_eq

end Stories

/-- There is a last error exactly as long as failures are counted. -/
theorem Health.Tracks.lastError_isSome {results : List FetchResult} {h : Health}
    (hh : h.Tracks results) : h.lastError.isSome = true ↔ 0 < h.failures := by
  obtain ⟨hfailures, hlast⟩ := hh
  have hpositive : 0 < maxFailures := by decide
  rw [hfailures, hlast, Option.isSome_map]
  rcases List.eq_nil_or_concat results with rfl | ⟨front, r, rfl⟩
  · simp
  · rw [List.concat_eq_append, List.getLast?_concat, List.rtakeWhile_concat, Option.bind_some]
    split
    · next hr =>
      rw [List.length_append, List.length_singleton]
      exact iff_of_true hr (by omega)
    · next hr => exact iff_of_false hr (by simp)

namespace SyncRun

variable {frame : SyncFrame L} {m₀ m : SyncMachine L} {f₀ f : Files} {h : List (SyncStep L)}

/-- The refreshes of a run are accounted for, whether or not one was under way when it began. -/
theorem booked (run : SyncRun frame m₀ f₀ h m f) (hc : Completed h) (hfits : m₀.Fits)
    (h₀ : m₀.Open m₀.sync.ns [] []) : Booked m₀.sync.ns h m := by
  induction run with
  | nil => exact ⟨[], [], [], fun _ ha => absurd ha List.not_mem_nil, rfl, rfl, rfl, h₀⟩
  | snoc run hstep ih =>
    obtain ⟨hc, hlast⟩ := completed_append.1 hc
    refine (ih hc).concat fun answered told hopen => ?_
    exact SyncMachine.advance_of_step run.ns_eq (run.fits hfits) hopen
      (SyncMachine.step_of_step? hstep) (hlast _ (List.mem_singleton_self _))

/-- While a refresh is under way and no other one begins, none has ended. -/
theorem outcomes_eq_nil {a : ActiveRefresh L} (run : SyncRun frame m₀ f₀ h m f) (hnone : NoEnter h)
    (hactive : m.active = some a) : outcomes h = [] := by
  rw [List.eq_nil_iff_forall_not_mem]
  intro outcome houtcome
  obtain ⟨s, hs, hends⟩ := List.mem_flatMap.1 houtcome
  obtain ⟨caller, hended⟩ := mem_endings_iff.1 hends
  obtain ⟨h₁, h₂, rfl⟩ := List.append_of_mem hs
  obtain ⟨_, _, step⟩ := run.exists_before
  -- After it nothing would be under way any more.
  have hidle := run.cut.2.active_eq_none (SyncMachine.active_of_ended step hended)
    fun t ht => hnone t (List.mem_append_right _ (List.mem_cons_of_mem s ht))
  rw [hidle] at hactive
  cases hactive

/-- **One refresh has one account**: between its beginning and its end it takes in one result, and
one report is made. -/
theorem exists_account {h₁ since h₂ : List (SyncStep L)} {e t : SyncStep L} {caller c : Nat}
    {outcome : RefreshOutcome} (run : SyncRun frame m₀ f₀ (h₁ ++ e :: since ++ t :: h₂) m f)
    (hc : Completed (h₁ ++ e :: since ++ t :: h₂)) (henter : e.move = .enter caller)
    (hnone : NoEnter since) (hended : .ended c outcome ∈ t.events) :
    ∃ a : RefreshAccount, a.Fair m₀.sync.ns ∧ a.outcome = outcome
      ∧ fetchResults (e :: since ++ [t]) = [(a.result, a.committed)]
      ∧ reports (e :: since ++ [t]) = [a.report] := by
  obtain ⟨g, front, last⟩ := run.exists_before
  obtain ⟨g', _, begins⟩ := front.exists_before
  rw [henter] at begins
  obtain ⟨hfits, hopen⟩ := SyncMachine.open_of_enter begins
  obtain ⟨-, hsilent, -⟩ := SyncMachine.silent_of_enter begins
  have between := front.cut.2
  have hns : e.after.sync.ns = m₀.sync.ns := front.cut.1.ns_eq
  obtain ⟨hc, hrest⟩ := completed_append.1 hc
  have hcsince : Completed since := fun s hs =>
    hc s (List.mem_append_right _ (List.mem_cons_of_mem e hs))
  -- In between no refresh ends, so what has been answered and told then is this one's.
  obtain ⟨story, answered, told, -, hfetches, houtcomes, hreports, hopen⟩ :=
    between.booked hcsince hfits hopen
  have hactive : ∃ a, t.before.active = some a := by
    rcases SyncMachine.phase_of_ended last hended with ⟨a, _, _, _, ha, -⟩ | ⟨a, _, ha, -⟩
    · exact ⟨a, ha⟩
    · exact ⟨a, ha⟩
  obtain ⟨_, hactive⟩ := hactive
  rw [between.outcomes_eq_nil hnone hactive, eq_comm, List.map_eq_nil_iff] at houtcomes
  subst houtcomes
  have hadvance := SyncMachine.advance_of_step (between.ns_eq.trans hns) (between.fits hfits)
    (hns ▸ hopen) last (hrest t List.mem_cons_self)
  have hmem : outcome ∈ endings t.events := mem_endings_iff.2 ⟨c, hended⟩
  cases hadvance with
  | onward hends =>
    rw [show endings t.events = [] from hends] at hmem
    cases hmem
  | closed a hfair _ hends hanswered htold =>
    rw [show endings t.events = [a.outcome] from hends] at hmem
    refine ⟨a, hfair, (List.mem_singleton.1 hmem).symm, ?_, ?_⟩
    · have hcons : fetchResults (e :: since) = fetchResults since := by
        simp [fetchResults, SyncStep.answer?, henter]
      rw [fetchResults_concat, hcons, hfetches]
      exact hanswered
    · have hcons : reports (e :: since) = reports since := by
        simp [reports, SyncStep.told, hsilent, observations]
      rw [reports_concat, hcons, hreports]
      exact htold

theorem tracks (run : SyncRun frame m₀ f₀ h m f) (h₀ : m₀.sync.health = {}) :
    m.sync.health.Tracks ((fetchResults h).map Prod.fst) := by
  induction run with
  | nil =>
    rw [h₀]
    exact ⟨rfl, rfl⟩
  | snoc _ hstep ih => exact SyncMachine.tracks_of_step ih (SyncMachine.step_of_step? hstep)

theorem expiries {ns : String} {config : FetchConfig} (run : SyncRun frame m₀ f₀ h m f)
    (hns : m₀.sync.ns = ns) (hfetched : Fetched config ns h) :
    ∀ s ∈ h, (observations s.events).filter TelemetryEvent.isExpiry
      = if s.Expires then [.fallbackExpired ns] else [] := by
  intro s hs
  obtain ⟨h₁, h₂, rfl⟩ := List.append_of_mem hs
  obtain ⟨g, before, step⟩ := run.exists_before
  exact SyncMachine.expiries_of_step (before.ns_eq.trans hns) step (hfetched s hs)

theorem countP_expiries {ns : String} {h : List (SyncStep L)}
    (hexpiries : ∀ s ∈ h, (observations s.events).filter TelemetryEvent.isExpiry
      = if s.Expires then [.fallbackExpired ns] else []) :
    (observed h).countP TelemetryEvent.isExpiry = h.countP fun s => decide s.Expires := by
  induction h with
  | nil => rfl
  | cons s h ih =>
    obtain ⟨hs, hrest⟩ := List.forall_mem_cons.1 hexpiries
    rw [observed, List.flatMap_cons, List.countP_append, List.countP_cons, ← observed, ih hrest,
      List.countP_eq_length_filter, hs, Nat.add_comm]
    by_cases hexpires : s.Expires <;> simp [hexpires]

/-- **Refreshes add up**: after every run in which nobody gives up and no refresh is under way,
observers have been told of each refresh once and as it went, the changed keys that were reported
are those that the server's answers changed, the status counts the failures since the last answer
and bears the text of the last of them, and each loss of content was shown once. -/
theorem balanced {ns : String} {config : FetchConfig} {now : Instant}
    (run : SyncRun frame (SyncMachine.start frame.setting f₀ ns now).1 f₀ h m f)
    (hc : Completed h) (hfetched : Fetched config ns h) (hidle : m.active = none)
    (name : String) (notificationId : Option Int) (moment : Instant) :
    Balanced ns h (m.sync.status name notificationId moment) := by
  have hns := SyncMachine.ns_start (L := L) frame.setting f₀ ns now
  have hexpiries := run.expiries hns hfetched
  obtain ⟨story, answered, told, hfair, hfetches, houtcomes, hreports, hopen⟩ :=
    run.booked hc (SyncMachine.fits_of_none rfl) ⟨rfl, rfl⟩
  rw [hns] at hfair hopen
  -- No refresh is under way, so no account is open.
  obtain ⟨rfl, rfl⟩ := SyncMachine.open_of_none hidle hopen
  rw [List.append_nil] at hfetches hreports
  have hresults : (fetchResults h).map Prod.fst = story.map RefreshAccount.result := by
    rw [hfetches, List.map_map]
    rfl
  have hcommitted : (fetchResults h).map Prod.snd = story.map RefreshAccount.committed := by
    rw [hfetches, List.map_map]
    rfl
  have htracks := run.tracks (SyncMachine.health_start ..)
  have hchanged : ((reports h).map TelemetryEvent.changedKeys).sum
      = ((fetchResults h).map Prod.snd).sum := by
    rw [hcommitted, hreports, List.map_map]
    congr 1
    exact List.map_congr_left fun a ha => (hfair a ha).changedKeys_eq
  have hcounted := Counters.reports_countAll {} (observed h)
  rw [List.countP_eq_length_filter, ← reports_eq, hreports, List.length_map] at hcounted
  refine ⟨?each, ⟨story, hfair, hfetches, houtcomes, hreports⟩, hchanged, ?failures, ?some, ?last,
    hexpiries, ?reports, ?keys, ?expired⟩
  case each =>
    intro h₁ since h₂ e t caller c outcome hsplit henter hnone hended
    subst hsplit
    rw [← hns]
    exact run.exists_account hc henter hnone hended
  case failures =>
    rw [houtcomes, ← length_rtakeWhile_failed hfair, ← hresults]
    exact htracks.1
  case some => exact htracks.lastError_isSome
  case last =>
    rw [hreports, ← getLast?_failure hfair, ← hresults]
    exact htracks.2
  case reports =>
    rw [hcounted, houtcomes, List.length_map]
    exact Nat.zero_add _
  case keys =>
    rw [Counters.refreshChangedKeys_countAll _ _ (by decide), ← hchanged, reports_eq,
      TelemetryEvent.sum_changedKeys_filter]
    exact congrArg (· % UInt64.size) (Nat.zero_add _)
  case expired =>
    rw [Counters.fallbackExpired_countAll, countP_expiries hexpiries]
    exact Nat.zero_add _

/-- A release is committed, and a minute later a refresh fails and what was shown expires. -/
theorem balanced_expired_release :
    ∃ (h : List (SyncStep Unit)) (m : SyncMachine Unit) (f : Files),
      SyncRun .expiring (SyncMachine.start SyncFrame.expiring.setting {} "app" 0).1 {} h m f
        ∧ Completed h ∧ Fetched .demo "app" h ∧ m.active = none
        ∧ outcomes h = [.updated 1, .failed] ∧ (h.countP fun s => decide s.Expires) = 1
        ∧ Balanced "app" h (m.sync.status "app" none 60000000000) := by
  have hplayed := exists_of_play? .expiring
    (SyncMachine.start SyncFrame.expiring.setting {} "app" 0).1 {}
    (SyncMove.firstMinute ++ [(60000000000, .enter 1), (60000000000, .permit),
      (60000000000, .answer (.error .noEndpoint) {}), (60000000000, .gather)])
    (fun seen => seen.2.1.active.isNone && outcomes seen.1 == [.updated 1, .failed]
      && (seen.1.countP fun s => decide s.Expires) == 1)
    (by decide +kernel)
  obtain ⟨h, m, f, run, hmoves, hseen⟩ := hplayed
  simp only [Bool.and_eq_true, Option.isNone_iff_eq_none, beq_iff_eq] at hseen
  obtain ⟨⟨hidle, houtcomes⟩, hexpired⟩ := hseen
  have hcompleted : Completed h := by
    simp [completed_iff_moves, hmoves, SyncMove.firstMinute]
  have hfetched : Fetched .demo "app" h := by
    simp [fetched_iff_moves, hmoves, SyncMove.firstMinute, FetchConfig.yields_outcomeOf,
      FetchConfig.yields_error]
  exact ⟨h, m, f, run, hcompleted, hfetched, hidle, houtcomes, hexpired,
    run.balanced hcompleted hfetched hidle "app" none 60000000000⟩

end SyncRun

end LiveConfig
