import LiveConfig.Proofs.Discovery.Step

/-!
# How far discoveries after a failure are apart

Who wants a discovery because a fetch has failed looks first how fresh the list is, lets go of the
lock, and takes it again to ask. What the look says is not looked at again: callers that queue up
behind a slow discovery may all see that the list is old, and then ask one after the other without
any time in between.

## What holds

A request after a failure keeps its distance from every request before it, unless its caller had
looked before that request and was waiting ever since. So those who wait when a request is sent are
the most that can ask too early.

## Main statements

- `DiscoveryRun.waited_or_aged`: who waits to ask has waited all along, or has looked late enough.
- `DiscoveryRun.early_requests_le`: no more requests come too early than callers were waiting.
- `DiscoveryRun.spaced_unless_waiting`: both, for every request of every run.
- `DiscoveryRun.asked_together`: two requests at one moment.
-/

namespace LiveConfig

/-- A request is sent because a fetch has failed, although a discovery has begun very recently. -/
def DiscoveryStep.asksEarly (begun : Instant) (s : DiscoveryStep) : Bool :=
  s.asksAfterFailure && decide (s.moment < begun + Locator.spacing.nanos)

/-! ## §1 Freshness -/

/-- The list is fresh for a time after a discovery has begun. -/
theorem Locator.isFresh_of_lastRefresh {l : Locator} {begun moment now : Instant}
    (hlast : l.lastRefresh = some moment) (hbegun : begun ≤ moment)
    (hsoon : now < begun + spacing.nanos) : l.isFresh now = true := by
  simp only [isFresh, hlast, decide_eq_true_eq]
  apply Nat.lt_of_le_of_lt (Nat.sub_le_sub_left hbegun now)
  rcases Nat.le_total begun now with hle | hle
  · exact Nat.sub_lt_left_of_lt_add hle hsoon
  · rw [Nat.sub_eq_zero_of_le hle]
    decide

namespace DiscoveryRun

section After

variable {d₀ d : Discovery} {h : List DiscoveryStep} {begun : Instant}

/-- Once a discovery has begun, the last one is no older. -/
theorem lastRefresh_ge (run : DiscoveryRun d₀ h d)
    (hstart : ∃ moment, d₀.locator.lastRefresh = some moment ∧ begun ≤ moment)
    (hlater : ∀ s ∈ h, begun ≤ s.moment) :
    ∃ moment, d.locator.lastRefresh = some moment ∧ begun ≤ moment := by
  induction run with
  | nil => exact hstart
  | snoc _ _ hstep ih =>
    rcases Discovery.lastRefresh_of_step (Discovery.step_of_step? hstep) with hsame | hnow
    · rw [hsame]
      exact ih fun s hs => hlater s (List.mem_append_left _ hs)
    · exact ⟨_, hnow, hlater _ (List.mem_append_right _ (List.mem_singleton.2 rfl))⟩

/-- **Who waits to ask** has waited all along, or has looked when the list was old enough. -/
theorem waited_or_aged {c : DiscoveryCall} (run : DiscoveryRun d₀ h d)
    (hstart : ∃ moment, d₀.locator.lastRefresh = some moment ∧ begun ≤ moment)
    (hlater : ∀ s ∈ h, begun ≤ s.moment) (hcall : d.call? c.id = some c)
    (hpurpose : c.purpose = .afterFailure) (hphase : c.phase = .entering) :
    (d₀.call? c.id = some c ∧ ∀ s ∈ h, s.before.call? c.id = some c)
      ∨ ∃ s ∈ h, begun + Locator.spacing.nanos ≤ s.moment := by
  induction run with
  | nil => exact .inl ⟨hcall, fun s hs => absurd hs List.not_mem_nil⟩
  | @snoc h d d' now move effect run _ hstep ih =>
    have hbefore : ∀ s ∈ h, begun ≤ s.moment := fun s hs => hlater s (List.mem_append_left _ hs)
    rcases Discovery.waiting_of_step (Discovery.step_of_step? hstep) hcall hpurpose hphase with
      hwaited | ⟨-, hstale⟩
    · rcases ih hbefore hwaited with ⟨hfirst, hall⟩ | ⟨s, hs, haged⟩
      · refine .inl ⟨hfirst, fun s hs => ?_⟩
        rcases List.mem_append.1 hs with hs | hs
        · exact hall s hs
        · obtain rfl := List.mem_singleton.1 hs
          exact hwaited
      · exact .inr ⟨s, List.mem_append_left _ hs, haged⟩
    · -- It has just looked, and not seen a fresh list.
      obtain ⟨moment, hlast, hbegun⟩ := lastRefresh_ge run hstart hbefore
      refine .inr ⟨_, List.mem_append_right _ (List.mem_singleton.2 rfl), ?_⟩
      refine Nat.le_of_not_lt fun hsoon => ?_
      rw [Locator.isFresh_of_lastRefresh hlast hbegun hsoon] at hstale
      cases hstale

/-- Within the time for which the list is fresh, whoever asks after a failure is one of those who
waited. -/
theorem requests_add_waiting_le (run : DiscoveryRun d₀ h d)
    (hstart : ∃ moment, d₀.locator.lastRefresh = some moment ∧ begun ≤ moment)
    (hlater : ∀ s ∈ h, begun ≤ s.moment)
    (hsoon : ∀ s ∈ h, s.moment < begun + Locator.spacing.nanos) :
    h.countP DiscoveryStep.asksAfterFailure + d.waiting.length ≤ d₀.waiting.length := by
  induction run with
  | nil => simp
  | @snoc h d d' now move effect run _ hstep ih =>
    have hlast : (⟨now, move, d, d', effect⟩ : DiscoveryStep) ∈
        h ++ [⟨now, move, d, d', effect⟩] := List.mem_append_right _ (List.mem_singleton.2 rfl)
    have hbefore : ∀ s ∈ h, begun ≤ s.moment := fun s hs => hlater s (List.mem_append_left _ hs)
    have hih := ih hbefore fun s hs => hsoon s (List.mem_append_left _ hs)
    obtain ⟨moment, hmoment, hbegun⟩ := lastRefresh_ge run hstart hbefore
    have hfresh := Locator.isFresh_of_lastRefresh hmoment hbegun (hsoon _ hlast)
    have hleft := Discovery.length_waiting_of_step (Discovery.step_of_step? hstep) hfresh
    have hone : List.countP DiscoveryStep.asksAfterFailure [⟨now, move, d, d', effect⟩]
        = (DiscoveryStep.asksAfterFailure ⟨now, move, d, d', effect⟩).toNat := by
      rw [List.countP_singleton]
      cases DiscoveryStep.asksAfterFailure ⟨now, move, d, d', effect⟩ <;> rfl
    rw [List.countP_append, hone]
    omega

/-- **No more requests come too early** than callers were waiting when the discovery began. -/
theorem early_requests_le (run : DiscoveryRun d₀ h d)
    (hstart : ∃ moment, d₀.locator.lastRefresh = some moment ∧ begun ≤ moment)
    (hlater : ∀ s ∈ h, begun ≤ s.moment) :
    h.countP (DiscoveryStep.asksEarly begun) ≤ d₀.waiting.length := by
  induction run with
  | nil => simp
  | @snoc h d d' now move effect run hnow hstep ih =>
    have hbefore : ∀ s ∈ h, begun ≤ s.moment := fun s hs => hlater s (List.mem_append_left _ hs)
    by_cases hsoon : now < begun + Locator.spacing.nanos
    · -- Then all steps before this one were in time as well.
      have hall : ∀ s ∈ h ++ [⟨now, move, d, d', effect⟩],
          s.moment < begun + Locator.spacing.nanos := by
        intro s hs
        rcases List.mem_append.1 hs with hs | hs
        · exact Nat.lt_of_le_of_lt (hnow s hs) hsoon
        · obtain rfl := List.mem_singleton.1 hs
          exact hsoon
      have hcount := requests_add_waiting_le (.snoc run hnow hstep) hstart hlater hall
      have hmono : List.countP (DiscoveryStep.asksEarly begun) (h ++ [⟨now, move, d, d', effect⟩])
          ≤ List.countP DiscoveryStep.asksAfterFailure (h ++ [⟨now, move, d, d', effect⟩]) := by
        apply List.countP_mono_left
        intro s _ hearly
        simp only [DiscoveryStep.asksEarly, Bool.and_eq_true] at hearly
        exact hearly.1
      omega
    · have hlate : DiscoveryStep.asksEarly begun ⟨now, move, d, d', effect⟩ = false := by
        simp [DiscoveryStep.asksEarly, hsoon]
      rw [List.countP_append, List.countP_singleton, hlate]
      exact ih hbefore

end After

/-! ## §2 Spacing -/

/-- **Requests after a failure keep their distance from every request before them**, except those
of callers who had looked before that request and were waiting ever since; and there are no more of
these than were waiting then. -/
theorem spaced_unless_waiting {d₀ d : Discovery} {h₁ h₂ : List DiscoveryStep} {s : DiscoveryStep}
    (run : DiscoveryRun d₀ (h₁ ++ s :: h₂) d) (hsent : s.sender?.isSome = true) :
    (∀ (g h : List DiscoveryStep) (s' : DiscoveryStep) (c : DiscoveryCall), h₂ = g ++ s' :: h →
      s'.sender? = some c → c.purpose = .afterFailure →
        s.moment + Locator.spacing.nanos ≤ s'.moment
          ∨ ∀ u ∈ s :: (g ++ [s']), c ∈ u.before.waiting)
      ∧ h₂.countP (DiscoveryStep.asksEarly s.moment) ≤ s.after.waiting.length := by
  obtain ⟨c₁, hc₁⟩ := Option.isSome_iff_exists.1 hsent
  obtain ⟨-, hstep, run₂, hlater⟩ := run.cut
  have hask := Discovery.step_of_step? hstep
  obtain ⟨hlast, hmove, -, -⟩ := Discovery.lastRefresh_of_sender hask hc₁
  have hstart : ∃ moment, s.after.locator.lastRefresh = some moment ∧ s.moment ≤ moment :=
    ⟨_, hlast, Nat.le_refl _⟩
  refine ⟨?_, early_requests_le run₂ hstart hlater⟩
  intro g h s' c hh₂ hsender hpurpose
  subst hh₂
  obtain ⟨run₃, hstep', -, hlater'⟩ := run₂.cut
  obtain ⟨-, -, hcall, hphase⟩ :=
    Discovery.lastRefresh_of_sender (Discovery.step_of_step? hstep') hsender
  have hwaits (u : Discovery) (hu : u.call? c.id = some c) : c ∈ u.waiting :=
    List.mem_filter.2 ⟨Discovery.mem_of_call? hu, by simp [hpurpose, hphase]⟩
  rcases run₃.waited_or_aged hstart (fun u hu => hlater u (List.mem_append_left _ hu)) hcall
    hpurpose hphase with ⟨hfirst, hall⟩ | ⟨u, hu, haged⟩
  · refine .inr fun u hu => hwaits _ ?_
    rcases List.mem_cons.1 hu with rfl | hu
    · -- The first request is no look, so that the caller had looked before it.
      rcases Discovery.waiting_of_step hask hfirst hpurpose hphase with hbefore | ⟨hlook, -⟩
      · exact hbefore
      · rw [hmove] at hlook
        cases hlook
    rcases List.mem_append.1 hu with hu | hu
    · exact hall u hu
    · obtain rfl := List.mem_singleton.1 hu
      exact hcall
  · exact .inl (Nat.le_trans haged (run₂.moment_le_of_mem hu))

end DiscoveryRun

/-- Two callers look before either of them asks. -/
def DiscoveryMove.lookingTogether : List (Instant × DiscoveryMove) :=
  [(0, .call 1 .afterFailure), (0, .call 2 .afterFailure), (0, .look 1), (0, .look 2), (0, .ask 1),
    (1000000, .answer 1 (.ok (.body [⟨"a", "http://a/"⟩]))), (1000000, .ask 2)]

/-- The second caller waits while the first one asks, and then asks too early. -/
theorem DiscoveryRun.spaced_unless_waiting_looking_together :
    ∃ (h₁ : List DiscoveryStep) (s g s' : DiscoveryStep) (d : Discovery),
      DiscoveryRun Discovery.untouched (h₁ ++ s :: [g, s']) d ∧ s.sender?.isSome = true
        ∧ s'.sender? = some ⟨2, .afterFailure, .entering⟩
        ∧ s'.moment < s.moment + Locator.spacing.nanos
        ∧ (∀ u ∈ [s, g, s'], ⟨2, .afterFailure, .entering⟩ ∈ u.before.waiting)
        ∧ [g, s'].countP (DiscoveryStep.asksEarly s.moment) ≤ s.after.waiting.length
        ∧ s.after.waiting.length = 1 := by
  obtain ⟨history, d, run, -, hseen⟩ := exists_of_play? Discovery.untouched
    DiscoveryMove.lookingTogether
    (fun p => (p.1.drop 4).map (fun s => (s.moment, s.sender?, s.after.waiting.length))
      == [(0, some ⟨1, .afterFailure, .entering⟩, 1), (1000000, none, 1),
        (1000000, some ⟨2, .afterFailure, .entering⟩, 0)])
    (by decide +kernel) (by decide)
  obtain ⟨s, rest, hrest, hs, hlater⟩ := List.map_eq_cons_iff.1 (beq_iff_eq.1 hseen)
  obtain ⟨g, rest, rfl, -, hlater⟩ := List.map_eq_cons_iff.1 hlater
  obtain ⟨s', rest, rfl, hs', hlater⟩ := List.map_eq_cons_iff.1 hlater
  obtain rfl := List.map_eq_nil_iff.1 hlater
  simp only [Prod.mk.injEq] at hs hs'
  obtain ⟨hmoment, hsent, hone⟩ := hs
  obtain ⟨hmoment', hsender, -⟩ := hs'
  rw [← List.take_append_drop 4 history, hrest] at run
  have hsoon : s'.moment < s.moment + Locator.spacing.nanos := by
    rw [hmoment, hmoment']
    decide
  have hasked : s.sender?.isSome = true := by
    rw [hsent]
    rfl
  obtain ⟨hapart, hfew⟩ := spaced_unless_waiting run hasked
  refine ⟨_, s, g, s', d, run, hasked, hsender, hsoon, ?_, hfew, hone⟩
  rcases hapart [g] [] s' _ rfl hsender rfl with haged | hwaited
  · exact absurd hsoon (Nat.not_lt.2 haged)
  · exact hwaited

/-- Two callers queue up behind a discovery that takes as long as it may. -/
def DiscoveryMove.queuedFailures : List (Instant × DiscoveryMove) :=
  [(0, .call 1 .afterFailure), (0, .look 1), (0, .ask 1), (1000000, .call 2 .afterFailure),
    (2000000, .call 3 .afterFailure), (1000000000, .answer 1 (.error (.timeout (.ofSecs 1)))),
    (1000000000, .look 2), (1000000000, .look 3), (1000000000, .ask 2),
    (1000000000, .answer 2 (.ok (.body [⟨"a", "http://a/"⟩]))), (1000000000, .ask 3)]

/-- **Two requests after failures are sent at one moment.** -/
theorem DiscoveryRun.asked_together :
    ∃ (h : List DiscoveryStep) (d : Discovery), DiscoveryRun Discovery.untouched h d
      ∧ h.map (fun s => (s.moment, s.move)) = DiscoveryMove.queuedFailures
      ∧ h.filterMap DiscoveryStep.request?
        = [(0, ⟨1, .afterFailure, .entering⟩), (1000000000, ⟨2, .afterFailure, .entering⟩),
          (1000000000, ⟨3, .afterFailure, .entering⟩)] := by
  obtain ⟨h, d, run, hmoves, hseen⟩ := exists_of_play? Discovery.untouched
    DiscoveryMove.queuedFailures (fun p => p.1.filterMap DiscoveryStep.request?
      == [(0, ⟨1, .afterFailure, .entering⟩), (1000000000, ⟨2, .afterFailure, .entering⟩),
        (1000000000, ⟨3, .afterFailure, .entering⟩)]) (by decide +kernel) (by decide)
  exact ⟨h, d, run, hmoves, by simpa using hseen⟩

end LiveConfig
