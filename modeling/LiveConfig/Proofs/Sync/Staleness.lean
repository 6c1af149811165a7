import LiveConfig.Proofs.Sync.Provenance

/-!
# How long content outlives its last confirmation

Under a policy that lets content expire, a refresh that fails once the time is over leaves nothing
to serve. Only a failed fetch looks at the clock: a refresh that is told that there is no such
namespace serves what it has, however old that is.

## Main statements

- `SyncRun.failed_of_unconfirmed`: the two ways in which a refresh ends unconfirmed.
- `SyncRun.empty_of_unconfirmed`: after a failure that comes too late nothing is served.
- `SyncRun.served_after_notFound`: after an answer without a release everything is.
-/

namespace LiveConfig

variable {L : Type}

namespace SyncMachine

variable {frame : SyncFrame L} {now : Instant} {m m' : SyncMachine L} {f f' : Files}
  {events : List (SyncEvent L)} {result : FetchResult} {backoff : Backoff} {caller : Nat}

theorem failed_of_unconfirmed {outcome : RefreshOutcome}
    (step : m.Step frame now f (.answer result backoff) m' f' events)
    (hended : .ended caller outcome ∈ events)
    (hunconfirmed : (SyncMove.answer (L := L) result backoff).confirms = false) :
    outcome = .failed ∨ outcome = .notFound := by
  cases step with
  | answer _ hanswer =>
    have hover := (List.mem_append.1 hended).resolve_left hanswer.not_ended
    have hends := outcome_of_ended_proceed hover
    cases hanswer with
    | missing =>
      cases hends
      exact .inr rfl
    | failed =>
      cases hends
      exact .inl rfl
    | expired => exact absurd hover List.not_mem_nil
    | _ => cases hunconfirmed

/-- A fetch that fails when the time is over leaves nothing that was shown. -/
theorem source_of_failed {ttl : Duration}
    (step : m.Step frame now f (.answer result backoff) m' f' events)
    (hended : .ended caller .failed ∈ events) (hpolicy : frame.setting.policy = .expireAfter ttl)
    (hdue : ttl.nanos ≤ now - m.sync.lastConfirmed) :
    m.shown.source = .none ∧ m'.shown = m.shown := by
  cases step with
  | answer _ hanswer =>
    have hover := (List.mem_append.1 hended).resolve_left hanswer.not_ended
    have hends := outcome_of_ended_proceed hover
    cases hanswer with
    | failed hkept =>
      have hnone := (hkept ttl hpolicy).resolve_right (Nat.not_lt.2 hdue)
      refine ⟨hnone, ?_⟩
      rw [shown_proceed]
      simp [shown]
    | expired => exact absurd hover List.not_mem_nil
    | _ => cases hends

end SyncMachine

/-- Nothing is cached, and content expires after a minute. -/
def SyncFrame.expiring : SyncFrame Unit where
  setting := { policy := .expireAfter (.ofSecs 60) }
  react _ _ := {}

/-- The worker fetches a release, and a minute later somebody asks for a refresh. -/
def SyncMove.firstMinute : List (Instant × SyncMove Unit) :=
  [(0, .launch), (0, .enter workerId), (0, .permit),
    (0, .answer (.ok (FetchConfig.demo.outcomeOf "app" (.body ⟨.ofList [("a", "x")], "1"⟩))) {}),
    (0, .saved none), (0, .gather), (60000000000, .call 1)]

namespace SyncRun

variable {frame : SyncFrame L} {m₀ m : SyncMachine L} {f₀ f : Files}
  {h h₁ since h₂ : List (SyncStep L)} {e t : SyncStep L} {caller c : Nat} {outcome : RefreshOutcome}

/-- A refresh that ends without a confirmation has failed, or was told that there is no such
namespace. -/
theorem failed_of_unconfirmed (run : SyncRun frame m₀ f₀ (h₁ ++ e :: since ++ t :: h₂) m f)
    (henter : e.move = .enter caller) (hnone : NoEnter since) (hended : .ended c outcome ∈ t.events)
    (hunconfirmed : ∀ s ∈ since ++ [t], s.move.confirms = false) :
    outcome = .failed ∨ outcome = .notFound := by
  obtain ⟨g, -, last⟩ := run.exists_before
  rcases run.course_of_ended henter hnone hended with
    ⟨result, backoff, hmove, -⟩ | ⟨-, -, changes, -, ⟨-, hstored⟩ | ⟨hfailed, -⟩⟩
  · have hlast := hunconfirmed t (by simp)
    rw [hmove] at last hlast
    exact SyncMachine.failed_of_unconfirmed last hended hlast
  · -- What was stored had been delivered.
    obtain ⟨u, d, v, fault, rfl, ⟨s, hs, backoff, hmove⟩, -⟩ := hstored
    have hdelivered := hunconfirmed s (by simp [hs])
    rw [hmove] at hdelivered
    cases hdelivered
  · exact .inl hfailed

variable {config : FetchConfig} {ns : String} {now : Instant} {ttl : Duration}

/-- A refresh that fails too late leaves nothing. -/
theorem empty_of_failed
    (run : SyncRun frame (SyncMachine.start frame.setting f₀ ns now).1 f₀
      (h₁ ++ e :: since ++ t :: h₂) m f)
    (hfetched : Fetched config ns (h₁ ++ e :: since ++ t :: h₂))
    (hpolicy : frame.setting.policy = .expireAfter ttl) (henter : e.move = .enter caller)
    (hnone : NoEnter since) (hended : .ended c .failed ∈ t.events)
    (hdue : ttl.nanos ≤ t.moment - lastConfirmation now (h₁ ++ e :: since)) :
    t.after.shown = .empty ns := by
  have hends := run.course_of_ended henter hnone hended
  obtain ⟨g, run₁, last⟩ := run.exists_before
  have hfetched₁ := (fetched_append.1 hfetched).1
  have hconfirmed := run₁.lastConfirmed_eq
  rw [SyncMachine.lastConfirmed_start] at hconfirmed
  rw [← hconfirmed] at hdue
  rcases hends with ⟨result, backoff, hmove, -⟩ | ⟨hmove, -, changes, -, hcame⟩
  · rw [hmove] at last
    obtain ⟨hunknown, hkept⟩ := SyncMachine.source_of_failed last hended hpolicy hdue
    -- What has no source is empty.
    rcases (run₁.origin hfetched₁).eq_empty_or hfetched₁ SyncSetting.source_of_cached with
      hempty | ⟨hknown, -⟩
    · exact hkept.trans hempty
    · exact absurd hunknown hknown
  · -- A refresh that has something to tell before it fails has emptied the view.
    rcases hcame with ⟨⟨n, hn⟩, -⟩ | ⟨-, hempty, -⟩
    · cases hn
    · rw [SyncMachine.ns_start] at hempty
      exact (SyncMachine.shown_of_step last hmove).trans hempty

/-- **Content does not outlive its time**: in every run under a policy that lets content expire, a
refresh that gets no confirmation, and ends when the last one, or else the start, is at least that
long ago, leaves the view empty, unless the server knows no such namespace. -/
theorem empty_of_unconfirmed
    (run : SyncRun frame (SyncMachine.start frame.setting f₀ ns now).1 f₀ h m f)
    (hfetched : Fetched config ns h) (hpolicy : frame.setting.policy = .expireAfter ttl)
    (hsplit : h = h₁ ++ e :: since ++ t :: h₂) (henter : e.move = .enter caller)
    (hnone : NoEnter since) (hended : .ended c outcome ∈ t.events) (houtcome : outcome ≠ .notFound)
    (hunconfirmed : ∀ s ∈ since ++ [t], s.move.confirms = false)
    (hdue : ttl.nanos ≤ t.moment - lastConfirmation now (h₁ ++ e :: since)) :
    t.after.shown = .empty ns := by
  subst hsplit
  obtain rfl :=
    (run.failed_of_unconfirmed henter hnone hended hunconfirmed).resolve_right houtcome
  exact run.empty_of_failed hfetched hpolicy henter hnone hended hdue

/-- What was shown for a minute is gone when the next fetch fails. -/
theorem empty_of_unconfirmed_after_minute :
    ∃ (h₁ since : List (SyncStep Unit)) (e t : SyncStep Unit) (m : SyncMachine Unit) (f : Files),
      SyncRun .expiring (SyncMachine.start SyncFrame.expiring.setting {} "app" 0).1 {}
          (h₁ ++ e :: since ++ [t]) m f
        ∧ Fetched .demo "app" (h₁ ++ e :: since ++ [t])
        ∧ e.move = .enter 1 ∧ NoEnter since ∧ .ended 1 .failed ∈ t.events
        ∧ (∀ s ∈ since ++ [t], s.move.confirms = false)
        ∧ (Duration.ofSecs 60).nanos ≤ t.moment - lastConfirmation 0 (h₁ ++ e :: since)
        ∧ (∃ s ∈ h₁ ++ e :: since, s.after.shown.get? "a" = some "x")
        ∧ t.after.shown = .empty "app" := by
  have hplayed := exists_refresh_of_play? .expiring
    (SyncMachine.start SyncFrame.expiring.setting {} "app" 0).1 {} SyncMove.firstMinute
    [(60000000000, .permit), (60000000000, .answer (.error .noEndpoint) {})]
    (60000000000, .enter 1) (60000000000, .gather)
    (fun seen => (seen.1.getLast?.any fun t => t.events.any (·.outcome? == some (1, .failed))
        && decide ((Duration.ofSecs 60).nanos ≤ t.moment - lastConfirmation 0 seen.1.dropLast))
      && seen.1.dropLast.any fun s => s.after.shown.get? "a" == some "x")
    (by decide +kernel)
  obtain ⟨h₁, since, e, t, m, f, run, hfront, henter, hsince, hlast, hseen⟩ := hplayed
  have hfetched : Fetched .demo "app" (h₁ ++ e :: since ++ [t]) := by
    simp [fetched_iff_moves, hfront, henter, hsince, hlast, SyncMove.firstMinute,
      FetchConfig.yields_outcomeOf, FetchConfig.yields_error]
  have hnone : NoEnter since := by simp [noEnter_iff_moves, hsince]
  have hunconfirmed : ∀ s ∈ since ++ [t], s.move.confirms = false := by
    rw [← List.forall_mem_map (P := (SyncMove.confirms · = false))]
    simp [hsince, hlast, SyncMove.confirms]
  simp only [List.getLast?_concat, List.dropLast_concat, Option.any_some, Bool.and_eq_true,
    List.any_eq_true, beq_iff_eq, decide_eq_true_eq] at hseen
  obtain ⟨⟨⟨ended, hended, houtcome⟩, hdue⟩, hshown⟩ := hseen
  obtain rfl := SyncEvent.outcome?_eq_some_iff.1 houtcome
  have hempty : t.after.shown = .empty "app" :=
    run.empty_of_unconfirmed hfetched rfl rfl henter hnone hended (by decide) hunconfirmed hdue
  exact ⟨h₁, since, e, t, m, f, run, hfetched, henter, hnone, hended, hunconfirmed, hdue, hshown,
    hempty⟩

/-- What was shown for a minute is shown further when the server then knows no such namespace. -/
theorem served_after_notFound :
    ∃ (h₁ since : List (SyncStep Unit)) (e t : SyncStep Unit) (m : SyncMachine Unit) (f : Files),
      SyncRun .expiring (SyncMachine.start SyncFrame.expiring.setting {} "app" 0).1 {}
          (h₁ ++ e :: since ++ [t]) m f
        ∧ Fetched .demo "app" (h₁ ++ e :: since ++ [t])
        ∧ SyncFrame.expiring.setting.policy = .expireAfter (.ofSecs 60)
        ∧ e.move = .enter 1 ∧ NoEnter since ∧ .ended 1 .notFound ∈ t.events
        ∧ (∀ s ∈ since ++ [t], s.move.confirms = false)
        ∧ (Duration.ofSecs 60).nanos ≤ t.moment - lastConfirmation 0 (h₁ ++ e :: since)
        ∧ t.after.shown.source = .remote ∧ t.after.shown.get? "a" = some "x" := by
  have hplayed := exists_refresh_of_play? .expiring
    (SyncMachine.start SyncFrame.expiring.setting {} "app" 0).1 {} SyncMove.firstMinute
    [(60000000000, .permit)] (60000000000, .enter 1)
    (60000000000, .answer (.ok (FetchConfig.demo.outcomeOf "app" .notFound)) {})
    (fun seen => seen.1.getLast?.any fun t => t.events.any (·.outcome? == some (1, .notFound))
      && decide ((Duration.ofSecs 60).nanos ≤ t.moment - lastConfirmation 0 seen.1.dropLast)
      && (t.after.shown.source == .remote && t.after.shown.get? "a" == some "x"))
    (by decide +kernel)
  obtain ⟨h₁, since, e, t, m, f, run, hfront, henter, hsince, hlast, hseen⟩ := hplayed
  have hfetched : Fetched .demo "app" (h₁ ++ e :: since ++ [t]) := by
    simp [fetched_iff_moves, hfront, henter, hsince, hlast, SyncMove.firstMinute,
      FetchConfig.yields_outcomeOf]
  have hnone : NoEnter since := by simp [noEnter_iff_moves, hsince]
  have hunconfirmed : ∀ s ∈ since ++ [t], s.move.confirms = false := by
    rw [← List.forall_mem_map (P := (SyncMove.confirms · = false))]
    simp [hsince, hlast, SyncMove.confirms, FetchConfig.outcomeOf]
  simp only [List.getLast?_concat, List.dropLast_concat, Option.any_some, Bool.and_eq_true,
    List.any_eq_true, beq_iff_eq, decide_eq_true_eq] at hseen
  obtain ⟨⟨⟨ended, hended, houtcome⟩, hdue⟩, hremote, hshown⟩ := hseen
  obtain rfl := SyncEvent.outcome?_eq_some_iff.1 houtcome
  exact ⟨h₁, since, e, t, m, f, run, hfetched, rfl, henter, hnone, hended, hunconfirmed, hdue,
    hremote, hshown⟩

end SyncRun

end LiveConfig
