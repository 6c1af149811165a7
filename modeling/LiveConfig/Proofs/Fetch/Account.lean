import LiveConfig.Proofs.Fetch.Attempts

/-!
# The account of a fetch

What the record of a whole fetch looks like and what the fetch ends with, in any surroundings. Where
a fetch stands can be read off the attempts that it has made, and every round keeps it so.

## Main statements

- `Rotation.step_of_standing`: one round, wherever the fetch stands.
- `Rotation.exists_concluded`: a fetch comes to an end in the rounds that it is given.
- `Rotation.counting_of_verdict`, `Rotation.forgiving_of_verdict`, `Rotation.delay_of_verdict`: what
  the back-off counts at the end.
- `Rotation.story_account`: the account of a fetch.
-/

namespace LiveConfig.Rotation

/-! ## §1 Where a fetch stands -/

/-- **Attempts that are all of a fetch**, and what it ends with. -/
structure Concluded (s : Surroundings) (config : BackoffConfig) (limit : Nat) (b : Backoff)
    (as : List Attempt) (ending : Except Duration.SecondsError (FetchResult × Backoff)) : Prop where
  made : Made s limit as
  ending_eq : ending = verdict config b as
  /-- A fetch that could go on has no endpoint to ask, unless it lacks a delay. -/
  pick_eq_none : (∀ a ∈ as, a.isPassing) → as.length < limit → ending.isOk → s.pick as = none

/-- The error of an attempt. -/
def Attempt.error? (a : Attempt) : Option Http.CallError :=
  match a.answer with
  | .ok _ => none
  | .error e => some e

/-- A fetch that has made attempts. -/
def havingMade (limit : Nat) (as : List Attempt) (stage : Stage) : Rotation where
  maxAttempts := limit
  tried := (names as).reverse
  attempts := as.length
  lastError := as.getLast?.bind Attempt.error?
  stage

theorem resume_havingMade {limit : Nat} {as : List Attempt} {stage : Stage} :
    (havingMade limit as stage).resume =
      if as.length < limit then havingMade limit as .picking
      else (havingMade limit as stage).exhausted :=
  rfl

/-- How a fetch ends that has nobody to ask any more. -/
def givenUp (as : List Attempt) : FetchResult :=
  match as.getLast?.bind Attempt.error? with
  | some last => .error (.exhausted as.length last)
  | none => .error .noEndpoint

/-- The most rounds that a fetch needs from where it stands until it has ended. -/
def rounds (r : Rotation) : Nat :=
  match r.stage with
  | .ended _ => 0
  | .picking => 3 * (r.maxAttempts - r.attempts) + 1
  | .asking _ => 3 * (r.maxAttempts - r.attempts) + 3
  | .pausing .. => 3 * (r.maxAttempts - r.attempts) + 2

section Standing

variable (s : Surroundings) (config : BackoffConfig) (limit : Nat) (b₀ : Backoff)

/-- **Where a fetch stands**: what it knows, its back-off and what has happened, read off the
attempts that it has made. -/
inductive Standing : Rotation → Backoff → List Event → Prop
  | picking {as : List Attempt} (made : Made s limit as) (passing : ∀ a ∈ as, a.isPassing)
      (left : as.length < limit)
      (verdict_eq : verdict config b₀ as = .ok (givenUp as, backoffAfter config b₀ as)) :
      Standing (havingMade limit as .picking) (backoffAfter config b₀ as)
        (course config limit b₀ 0 as)
  | asking {as : List Attempt} {e : Endpoint} (made : Made s limit as)
      (passing : ∀ a ∈ as, a.isPassing) (left : as.length < limit) (pick_eq : s.pick as = some e) :
      Standing ((havingMade limit as .picking).picked (some e)) (backoffAfter config b₀ as)
        (course config limit b₀ 0 as)
  /-- The last attempt has been counted, but nothing has happened since. -/
  | pausing {as : List Attempt} {a : Attempt} {delay : Duration} (made : Made s limit (as ++ [a]))
      (passing : ∀ x ∈ as ++ [a], x.isPassing)
      (given : config.delay? (backoffAfter config b₀ (as ++ [a])).errors = .ok delay) :
      Standing (havingMade limit (as ++ [a]) (.pausing delay ((as ++ [a]).length < limit)))
        (backoffAfter config b₀ (as ++ [a])) (course config limit b₀ 0 as ++ [.asked a])
  | ended {r : Rotation} {as : List Attempt} {result : FetchResult}
      (stage_eq : r.stage = .ended result)
      (concluded : Concluded s config limit b₀ as (.ok (result, backoffAfter config b₀ as))) :
      Standing r (backoffAfter config b₀ as) (course config limit b₀ 0 as)

/-- What one round leads to: the fetch stands somewhere, closer to its end, or there is no
delay. -/
inductive Onward (r : Rotation) :
    EStateM.Result Duration.SecondsError (List Event) (Rotation × Backoff) → Prop
  | stands {r' : Rotation} {b : Backoff} {events : List Event}
      (standing : Standing s config limit b₀ r' b events) (closer : r'.rounds < r.rounds) :
      Onward r (.ok (r', b) events)
  | broken {as : List Attempt} {e : Duration.SecondsError}
      (concluded : Concluded s config limit b₀ as (.error e)) :
      Onward r (.error e (course config limit b₀ 0 as))

end Standing

section Rounds

variable {s : Surroundings} {config : BackoffConfig} {limit : Nat} {b₀ b : Backoff}
  {as : List Attempt} {a : Attempt}

/-- A fetch that has nobody to ask any more ends with what its attempts come to. -/
theorem standing_exhausted {stage : Stage} (made : Made s limit as)
    (verdict_eq : verdict config b₀ as = .ok (givenUp as, backoffAfter config b₀ as))
    (hend : as.length < limit → s.pick as = none) :
    Standing s config limit b₀ (havingMade limit as stage).exhausted (backoffAfter config b₀ as)
      (course config limit b₀ 0 as) := by
  have hstage : (havingMade limit as stage).exhausted.stage = .ended (givenUp as) := by
    unfold exhausted givenUp havingMade
    cases as.getLast?.bind Attempt.error? <;> rfl
  exact .ended hstage ⟨made, verdict_eq.symm, fun _ hleft _ => hend hleft⟩

theorem verdict_of_passing {delay : Duration} (hpassing : a.isPassing)
    (given : config.delay? (backoffAfter config b₀ (as ++ [a])).errors = .ok delay) :
    verdict config b₀ (as ++ [a])
      = .ok (givenUp (as ++ [a]), backoffAfter config b₀ (as ++ [a])) := by
  unfold Attempt.isPassing at hpassing
  unfold verdict givenUp Attempt.error?
  cases hanswer : a.answer with
  | ok outcome => simp [hanswer] at hpassing
  | error e =>
    simp only [hanswer] at hpassing
    simp [hanswer, hpassing, given, Except.map]

/-- A fetch picks an endpoint, or ends. -/
theorem step_picking (made : Made s limit as) (passing : ∀ a ∈ as, a.isPassing)
    (left : as.length < limit)
    (verdict_eq : verdict config b₀ as = .ok (givenUp as, backoffAfter config b₀ as)) :
    Onward s config limit b₀ (havingMade limit as .picking)
      ((advance (s.services config) (havingMade limit as .picking) (backoffAfter config b₀ as)).run
        (course config limit b₀ 0 as)) := by
  have hround : (advance (s.services config) (havingMade limit as .picking)
      (backoffAfter config b₀ as)).run (course config limit b₀ 0 as)
        = .ok ((havingMade limit as .picking).picked (s.pick as), backoffAfter config b₀ as)
            (course config limit b₀ 0 as) := by
    change EStateM.Result.ok ((havingMade limit as .picking).picked (s.choose _
      (Selector.candidates (names as).reverse (s.known _))), _) _ = _
    rw [attemptsIn_course, candidates_reverse]
    rfl
  rw [hround]
  cases hpick : s.pick as with
  | none =>
    refine .stands (standing_exhausted made verdict_eq fun _ => hpick) ?_
    exact Nat.succ_pos _
  | some e =>
    refine .stands (.asking made passing left hpick) ?_
    change 3 * (limit - (as.length + 1)) + 3 < 3 * (limit - as.length) + 1
    omega

/-- To ask is recorded, with the answer, before the back-off counts it. -/
theorem run_asking {r : Rotation} {e : Endpoint} (hstage : r.stage = .asking e)
    (events : List Event) : (advance (s.services config) r b).run events =
      match r.reply config b (s.answer (attemptsIn events) e) with
      | .ok next => .ok next (events ++ [.asked ⟨e, s.answer (attemptsIn events) e⟩])
      | .error f => .error f (events ++ [.asked ⟨e, s.answer (attemptsIn events) e⟩]) := by
  unfold advance
  rw [hstage]
  change EStateM.run (match r.reply config b (s.answer (attemptsIn events) e) with
    | .ok next => pure next
    | .error f => (s.services config).fail f) _ = _
  cases r.reply config b (s.answer (attemptsIn events) e) <;> rfl

theorem course_of_aftermath_eq_nil (h : a.aftermath config limit (as.length + 1)
    (backoffAfter config b₀ (as ++ [a])) = []) :
    course config limit b₀ 0 as ++ [.asked a] = course config limit b₀ 0 (as ++ [a]) := by
  rw [course_concat, Nat.zero_add, h]

/-- An answer ends a fetch, and so does an error that will not pass. -/
theorem standing_of_not_passing {r : Rotation} {result : FetchResult}
    (made : Made s limit (as ++ [a])) (ha : ¬a.isPassing) (hstage : r.stage = .ended result)
    (hcounted : b = backoffAfter config b₀ (as ++ [a]))
    (hverdict : verdict config b₀ (as ++ [a]) = .ok (result, b)) :
    Standing s config limit b₀ r b (course config limit b₀ 0 as ++ [.asked a]) := by
  subst hcounted
  rw [course_of_aftermath_eq_nil (by rw [Attempt.aftermath, if_neg ha])]
  exact .ended hstage ⟨made, hverdict.symm, fun hpassing _ _ => absurd (hpassing a (by simp)) ha⟩

/-- After a passing error a fetch goes on, if the back-off gives a delay. -/
theorem onward_of_passing {e : Endpoint} {err : Http.CallError}
    (made : Made s limit (as ++ [⟨e, .error err⟩])) (passing : ∀ a ∈ as, a.isPassing)
    (htransient : err.isTransient) :
    Onward s config limit b₀ ((havingMade limit as .picking).picked (some e))
      (match ((havingMade limit as .picking).picked (some e)).reply config
          (backoffAfter config b₀ as) (.error err) with
        | .ok next => .ok next (course config limit b₀ 0 as ++ [.asked ⟨e, .error err⟩])
        | .error f => .error f (course config limit b₀ 0 as ++ [.asked ⟨e, .error err⟩])) := by
  have hpassing : (Attempt.mk e (.error err)).isPassing := htransient
  have hcounted : (backoffAfter config b₀ as).registerError
      = backoffAfter config b₀ (as ++ [⟨e, .error err⟩]) := by
    rw [backoffAfter_concat, countedBy_of_passing hpassing]
  simp only [reply, htransient, if_true, hcounted]
  cases hdelay : config.delay? (backoffAfter config b₀ (as ++ [⟨e, .error err⟩])).errors with
  | ok delay =>
    have hall : ∀ a ∈ as ++ [⟨e, .error err⟩], a.isPassing :=
      List.forall_mem_append.2 ⟨passing, List.forall_mem_singleton.2 hpassing⟩
    have hstands := Standing.pausing made hall hdelay
    have hmoved : havingMade limit (as ++ [⟨e, .error err⟩])
          (.pausing delay ((as ++ [(⟨e, .error err⟩ : Attempt)]).length < limit))
        = { (havingMade limit as .picking).picked (some e) with
            lastError := some err
            stage := .pausing delay (as.length + 1 < limit) } := by
      simp [havingMade, picked, names_concat, Attempt.error?]
    rw [hmoved] at hstands
    refine .stands hstands ?_
    change 3 * (limit - (as.length + 1)) + 2 < 3 * (limit - (as.length + 1)) + 3
    omega
  | error f =>
    have hverdict : verdict config b₀ (as ++ [⟨e, .error err⟩]) = .error f := by
      simp [verdict, htransient, hdelay, Except.map]
    have haftermath : (Attempt.mk e (.error err)).aftermath config limit (as.length + 1)
        (backoffAfter config b₀ (as ++ [⟨e, .error err⟩])) = [] := by
      rw [Attempt.aftermath, if_pos hpassing, hdelay]
    have hbroken := Onward.broken (r := (havingMade limit as .picking).picked (some e))
      ⟨made, hverdict.symm, fun _ _ hok => nomatch hok⟩
    rw [← course_of_aftermath_eq_nil haftermath] at hbroken
    exact hbroken

/-- The endpoint that is asked answers: the fetch ends, or a passing error makes it go on. -/
theorem step_asking {e : Endpoint} (made : Made s limit as) (passing : ∀ a ∈ as, a.isPassing)
    (left : as.length < limit) (pick_eq : s.pick as = some e) :
    Onward s config limit b₀ ((havingMade limit as .picking).picked (some e))
      ((advance (s.services config) ((havingMade limit as .picking).picked (some e))
        (backoffAfter config b₀ as)).run (course config limit b₀ 0 as)) := by
  rw [run_asking rfl, attemptsIn_course]
  have hmade := made.further passing left pick_eq
  generalize s.answer as e = answer at hmade ⊢
  cases answer with
  | ok outcome =>
    have hcounted : (backoffAfter config b₀ as).registerSuccess config.recovery
        = backoffAfter config b₀ (as ++ [⟨e, .ok outcome⟩]) := by
      rw [backoffAfter_concat, countedBy_of_answer rfl]
    refine .stands (standing_of_not_passing hmade (by simp [Attempt.isPassing]) rfl hcounted ?_) ?_
    · simp [verdict, hcounted]
    · exact Nat.succ_pos _
  | error err =>
    by_cases htransient : err.isTransient = true
    · exact onward_of_passing hmade passing htransient
    · have hpassing : ¬(Attempt.mk e (.error err)).isPassing := htransient
      have hcounted : backoffAfter config b₀ as
          = backoffAfter config b₀ (as ++ [⟨e, .error err⟩]) := by
        rw [backoffAfter_concat, countedBy_of_not_passing hpassing Bool.false_ne_true]
      simp only [reply, htransient, Bool.false_eq_true, if_false]
      refine .stands (standing_of_not_passing hmade hpassing rfl hcounted ?_) ?_
      · simp [verdict, htransient, ← hcounted, havingMade, picked]
      · exact Nat.succ_pos _

theorem run_pausing {r : Rotation} {delay : Duration} {sleeps : Bool}
    (hstage : r.stage = .pausing delay sleeps) (events : List Event) :
    (advance (s.services config) r b).run events =
      .ok (r.resume, b) (events ++ .looked :: if sleeps then [.paused delay] else []) := by
  unfold advance
  rw [hstage]
  cases sleeps with
  | false => rfl
  | true =>
    change EStateM.Result.ok _ (events ++ [.looked] ++ [.paused delay]) = _
    rw [List.append_assoc]
    rfl

/-- After the look for other instances and the pause a fetch picks again, or ends. -/
theorem step_pausing {delay : Duration} (made : Made s limit (as ++ [a]))
    (passing : ∀ x ∈ as ++ [a], x.isPassing)
    (given : config.delay? (backoffAfter config b₀ (as ++ [a])).errors = .ok delay) :
    Onward s config limit b₀
      (havingMade limit (as ++ [a]) (.pausing delay ((as ++ [a]).length < limit)))
      ((advance (s.services config)
          (havingMade limit (as ++ [a]) (.pausing delay ((as ++ [a]).length < limit)))
          (backoffAfter config b₀ (as ++ [a]))).run
        (course config limit b₀ 0 as ++ [.asked a])) := by
  have ha : a.isPassing := passing a (by simp)
  have hverdict := verdict_of_passing ha given
  have hcourse : course config limit b₀ 0 as ++ [.asked a]
        ++ .looked :: (if (as ++ [a]).length < limit then [.paused delay] else [])
      = course config limit b₀ 0 (as ++ [a]) := by
    rw [course_concat, Attempt.aftermath, if_pos ha, given, Nat.zero_add, List.length_append]
    simp
  rw [run_pausing rfl]
  simp only [decide_eq_true_eq, hcourse, resume_havingMade]
  by_cases hleft : (as ++ [a]).length < limit
  · rw [if_pos hleft]
    refine .stands (.picking made passing hleft hverdict) ?_
    exact Nat.lt_succ_self _
  · rw [if_neg hleft]
    refine .stands (standing_exhausted made hverdict fun h => absurd h hleft) ?_
    exact Nat.succ_pos _

/-- **One round**, wherever a fetch stands that has not ended. -/
theorem step_of_standing {r : Rotation} {events : List Event}
    (h : Standing s config limit b₀ r b events) (hunfinished : r.result? = none) :
    Onward s config limit b₀ r ((advance (s.services config) r b).run events) := by
  cases h with
  | picking made passing left verdict_eq => exact step_picking made passing left verdict_eq
  | asking made passing left pick_eq => exact step_asking made passing left pick_eq
  | pausing made passing given => exact step_pausing made passing given
  | ended stage_eq concluded =>
    rw [result?, stage_eq] at hunfinished
    cases hunfinished

theorem run_succ_of_unfinished {r : Rotation} (h : r.result? = none) (fuel : Nat)
    (events : List Event) : (run (s.services config) (fuel + 1) r b).run events =
      match (advance (s.services config) r b).run events with
      | .ok next events => (run (s.services config) fuel next.1 next.2).run events
      | .error e events => .error e events := by
  rw [run, h]
  change EStateM.bind (advance (s.services config) r b) _ events = _
  unfold EStateM.bind EStateM.run
  cases advance (s.services config) r b events <;> rfl

/-- **A fetch comes to an end** in as many rounds as it needs, and what has happened until then is
the course of its attempts. -/
theorem exists_concluded {r : Rotation} {events : List Event} {fuel : Nat}
    (h : Standing s config limit b₀ r b events) (hfuel : r.rounds < fuel) :
    ∃ as ending, Concluded s config limit b₀ as ending
      ∧ Story.ofResult ((run (s.services config) fuel r b).run events)
        = ⟨course config limit b₀ 0 as, ending⟩ := by
  induction fuel generalizing r b events with
  | zero => exact absurd hfuel (Nat.not_lt_zero _)
  | succ fuel ih =>
    cases hresult : r.result? with
    | some result =>
      -- Only a fetch that has ended has a result.
      cases h with
      | ended stage_eq concluded =>
        refine ⟨_, _, concluded, ?_⟩
        rw [run, hresult]
        rw [result?, stage_eq] at hresult
        cases hresult
        rfl
      | picking | asking | pausing => cases hresult
    | none =>
      rw [run_succ_of_unfinished hresult]
      have honward := step_of_standing h hresult
      generalize (advance (s.services config) r b).run events = round at honward ⊢
      cases honward with
      | stands standing closer =>
        exact ih standing (Nat.lt_of_lt_of_le closer (Nat.le_of_lt_succ hfuel))
      | broken concluded => exact ⟨_, _, concluded, rfl⟩

end Rounds

/-! ## §2 The account of a fetch -/

/-- **The account of a fetch**: what is true of the attempts that its story tells of, of everything
else that happens in it, and of its end. -/
structure Account (s : Surroundings) (config : BackoffConfig) (maxAttempts : Nat) (b : Backoff)
    (t : Story) : Prop where
  /-- Attempts are limited, but one is always allowed. -/
  length_le : (attemptsIn t.events).length ≤ max maxAttempts 1
  /-- An endpoint is asked that is known at the moment; none is asked again while there is one that
  has not been asked. -/
  endpoint : ∀ before a after, attemptsIn t.events = before ++ a :: after →
    a.endpoint ∈ s.known before
      ∧ ((∃ e ∈ s.known before, e.id ∉ names before) → a.endpoint.id ∉ names before)
  answer : ∀ before a after, attemptsIn t.events = before ++ a :: after →
    a.answer = s.answer before a.endpoint
  /-- Only a passing error is followed by another attempt. -/
  passing : ∀ before a after, attemptsIn t.events = before ++ a :: after → after ≠ [] →
    a.isPassing
  /-- After passing errors, and at the beginning, a fetch goes on as long as attempts are left and
  an endpoint is picked. -/
  pick_eq_none : (∀ a ∈ attemptsIn t.events, a.isPassing) →
    (attemptsIn t.events).length < max maxAttempts 1 → t.ending.isOk →
    s.pick (attemptsIn t.events) = none
  /-- Nothing happens but the attempts, and after each what it calls for. -/
  events_eq : t.events = course config (max maxAttempts 1) b 0 (attemptsIn t.events)
  /-- The end says what the last attempt said, and the back-off has counted every attempt once. -/
  ending_eq : t.ending = verdict config b (attemptsIn t.events)
  /-- When a fetch has failed, the back-off counts each of its passing errors once, and nothing
  else. -/
  counting : ∀ e after, t.ending = .ok (.error e, after) →
    Counting b (passingErrors (attemptsIn t.events)) after
  /-- When it was answered, the answer is one success on top of them. -/
  forgiving : ∀ outcome after, t.ending = .ok (.ok outcome, after) →
    ∃ counted, Counting b (passingErrors (attemptsIn t.events)) counted
      ∧ Forgiving config.recovery counted after
  /-- Every pause is the delay for the errors before the fetch and the passing errors since. -/
  delay_of_paused : ∀ before delay after, t.events = before ++ .paused delay :: after →
    config.delay? (b.errors + passingErrors (attemptsIn before)) = .ok delay
  /-- A fetch breaks off only when there is no delay for them. -/
  delay_of_error : ∀ e, t.ending = .error e →
    config.delay? (b.errors + passingErrors (attemptsIn t.events)) = .error e
  /-- That no endpoint is known is said only if nobody was asked. -/
  noEndpoint_iff : (∃ after, t.ending = .ok (.error .noEndpoint, after)) ↔ attemptsIn t.events = []

section Accounts

variable {s : Surroundings} {config : BackoffConfig} {maxAttempts : Nat} {b : Backoff}
  {as : List Attempt} {ending : Except Duration.SecondsError (FetchResult × Backoff)}

theorem eq_backoffAfter_of_verdict {result : FetchResult} {after : Backoff}
    (h : verdict config b as = .ok (result, after)) : after = backoffAfter config b as := by
  unfold verdict at h
  dsimp only at h
  split at h
  · cases h
    rfl
  · cases h
    rfl
  · split at h
    · unfold Except.map at h
      split at h <;> cases h
      rfl
    · cases h
      rfl

/-- Unless the last attempt was answered, all that the back-off counts are passing errors. -/
theorem Made.counting_of_unanswered {limit : Nat} (h : Made s limit as)
    (hlast : ∀ outcome, as.getLast?.map Attempt.answer ≠ some (.ok outcome)) :
    Counting b (passingErrors as) (backoffAfter config b as) := by
  rcases List.eq_nil_or_concat as with rfl | ⟨front, a, rfl⟩
  · exact ⟨rfl, rfl⟩
  · rw [List.concat_eq_append] at h hlast ⊢
    apply h.counting
    intro hok
    cases hanswer : a.answer with
    | ok outcome => exact hlast outcome (by simp [hanswer])
    | error e =>
      rw [hanswer] at hok
      cases hok

theorem counting_of_verdict {limit : Nat} {e : FetchError} {after : Backoff}
    (made : Made s limit as) (h : verdict config b as = .ok (.error e, after)) :
    Counting b (passingErrors as) after := by
  rw [eq_backoffAfter_of_verdict h]
  apply made.counting_of_unanswered
  intro outcome hlast
  rw [verdict, hlast] at h
  cases h

theorem delay_of_verdict {limit : Nat} {e : Duration.SecondsError} (made : Made s limit as)
    (h : verdict config b as = .error e) :
    config.delay? (b.errors + passingErrors as) = .error e := by
  have hcounting : Counting b (passingErrors as) (backoffAfter config b as) := by
    apply made.counting_of_unanswered
    intro outcome hlast
    rw [verdict, hlast] at h
    cases h
  rw [← hcounting.1]
  unfold verdict at h
  dsimp only at h
  split at h
  · cases h
  · cases h
  · split at h
    · unfold Except.map at h
      split at h
      · next hdelay =>
        cases h
        exact hdelay
      · cases h
    · cases h

theorem forgiving_of_verdict {limit : Nat} {outcome : FetchOutcome} {after : Backoff}
    (made : Made s limit as) (h : verdict config b as = .ok (.ok outcome, after)) :
    ∃ counted, Counting b (passingErrors as) counted
      ∧ Forgiving config.recovery counted after := by
  rw [eq_backoffAfter_of_verdict h]
  rcases List.eq_nil_or_concat as with rfl | ⟨front, a, rfl⟩
  · cases h
  · rw [List.concat_eq_append] at made h ⊢
    have hanswered : ∃ outcome, a.answer = .ok outcome := by
      rw [verdict, List.getLast?_concat] at h
      cases hanswer : a.answer with
      | ok outcome => exact ⟨outcome, rfl⟩
      | error e =>
        simp only [Option.map_some, hanswer, Except.map] at h
        split at h
        · split at h <;> cases h
        · cases h
    obtain ⟨outcome, hanswer⟩ := hanswered
    -- Only the attempts before the last have failed.
    have hlast : passingErrors (front ++ [a]) = passingErrors front := by
      simp [passingErrors, Attempt.isPassing, hanswer]
    have hcounting : Counting b (passingErrors front) (backoffAfter config b front) :=
      counting_backoffAfter fun x hx => not_isOk_of_isPassing (made.passing_of_concat x hx)
    refine ⟨_, hlast ▸ hcounting, ?_⟩
    rw [backoffAfter_concat, countedBy_of_answer hanswer]
    exact forgiving_registerSuccess _ _

theorem verdict_eq_noEndpoint_iff :
    (∃ after, verdict config b as = .ok (.error .noEndpoint, after)) ↔ as = [] := by
  unfold verdict
  rcases List.eq_nil_or_concat as with rfl | ⟨before, last, rfl⟩
  · simp
  · have hlast : (before.concat last).getLast?.map Attempt.answer = some last.answer := by simp
    have hne : before.concat last ≠ [] := by simp
    simp only [hlast, hne, iff_false]
    rintro ⟨after, hverdict⟩
    split at hverdict
    · next h => cases h
    · cases hverdict
    · split at hverdict
      · unfold Except.map at hverdict
        split at hverdict <;> cases hverdict
      · cases hverdict

theorem Concluded.account (h : Concluded s config (max maxAttempts 1) b as ending) :
    Account s config maxAttempts b ⟨course config (max maxAttempts 1) b 0 as, ending⟩ where
  length_le := by
    rw [attemptsIn_course]
    exact h.made.length_le
  endpoint before a after hsplit := by
    rw [attemptsIn_course] at hsplit
    obtain ⟨hpick, -, -⟩ := h.made.of_split hsplit
    have hcandidate := s.mem_of_choose hpick
    exact ⟨Selector.mem_of_mem_candidates hcandidate,
      Selector.not_tried_of_mem_candidates hcandidate⟩
  answer before a after hsplit := by
    rw [attemptsIn_course] at hsplit
    exact (h.made.of_split hsplit).2.1
  passing before a after hsplit := by
    rw [attemptsIn_course] at hsplit
    exact (h.made.of_split hsplit).2.2
  pick_eq_none := by
    rw [attemptsIn_course]
    exact h.pick_eq_none
  events_eq := by rw [attemptsIn_course]
  ending_eq := by
    rw [attemptsIn_course]
    exact h.ending_eq
  counting e after hending := by
    rw [attemptsIn_course]
    exact counting_of_verdict h.made (h.ending_eq ▸ hending)
  forgiving outcome after hending := by
    rw [attemptsIn_course]
    exact forgiving_of_verdict h.made (h.ending_eq ▸ hending)
  delay_of_paused before delay after hsplit := h.made.delay_of_paused hsplit
  delay_of_error e hending := by
    rw [attemptsIn_course]
    exact delay_of_verdict h.made (h.ending_eq ▸ hending)
  noEndpoint_iff := by
    rw [attemptsIn_course, h.ending_eq]
    exact verdict_eq_noEndpoint_iff

/-- **The account of a fetch** in any surroundings. -/
theorem story_account (s : Surroundings) (config : BackoffConfig) (maxAttempts : Nat)
    (b : Backoff) : Account s config maxAttempts b (story s config maxAttempts b) := by
  have hbegin : Standing s config (max maxAttempts 1) b (ofLimit maxAttempts) b [] :=
    .picking .none nofun (Nat.le_max_right _ _) rfl
  have henough : (ofLimit maxAttempts).rounds < 4 * (ofLimit maxAttempts).maxAttempts + 4 := by
    change 3 * (max maxAttempts 1 - 0) + 1 < 4 * max maxAttempts 1 + 4
    omega
  obtain ⟨as, ending, hconcluded, hstory⟩ := exists_concluded hbegin henough
  have haccount := hconcluded.account
  rw [← hstory] at haccount
  exact haccount

/-- Two instances that fail at two attempts and then know no such namespace: the two errors count,
after those before, whether the fetch fails with them or goes on and the answer takes two off. The
third error in a row calls for a pause of four seconds. -/
theorem story_account_two_errors :
    ∃ (s : Surroundings) (config : BackoffConfig) (failed answered : Story),
      failed = story s config 2 ⟨1, 0⟩ ∧ answered = story s config 3 ⟨1, 0⟩
        ∧ (∃ e after, failed.ending = .ok (.error e, after)
          ∧ after.errors = 3 ∧ after.streak = 0)
        ∧ (∃ outcome after, answered.ending = .ok (.ok outcome, after)
          ∧ after.errors = 1 ∧ after.streak = 0)
        ∧ ∃ before after, answered.events = before ++ .paused (.ofSecs 4) :: after
          ∧ config.delay? (1 + passingErrors (attemptsIn before)) = .ok (.ofSecs 4) := by
  let s : Surroundings := ⟨fun _ => [⟨"a", "http://a/"⟩, ⟨"b", "http://b/"⟩],
    fun as => Selector.cycle.choose as.length,
    fun as _ => if as.length < 2 then .error (.retryable 503) else .ok .notFound,
    Selector.mem_of_choose⟩
  let config : BackoffConfig := { BackoffConfig.fetchRetry with recovery := 1 }
  let failed := story s config 2 ⟨1, 0⟩
  let answered := story s config 3 ⟨1, 0⟩
  have hfailed : Account s config 2 ⟨1, 0⟩ failed := story_account ..
  have hanswered : Account s config 3 ⟨1, 0⟩ answered := story_account ..
  have htwo : passingErrors (attemptsIn failed.events) = 2
      ∧ passingErrors (attemptsIn answered.events) = 2 := by decide +kernel
  refine ⟨s, config, failed, answered, rfl, rfl, ?failed, ?answered, ?paused⟩
  case failed =>
    have hending : (failed.ending.toOption.map fun x => x.1.isOk) = some false := by decide +kernel
    cases hend : failed.ending with
    | error e => simp [hend, Except.toOption] at hending
    | ok x =>
      obtain ⟨e | outcome, after⟩ := x
      · obtain ⟨herrors, hstreak⟩ := hfailed.counting _ _ hend
        rw [htwo.1] at herrors hstreak
        exact ⟨_, _, rfl, herrors, hstreak⟩
      · simp [hend, Except.toOption, Except.isOk, Except.toBool] at hending
  case answered =>
    have hending : (answered.ending.toOption.map fun x => x.1.isOk) = some true := by
      decide +kernel
    cases hend : answered.ending with
    | error e => simp [hend, Except.toOption] at hending
    | ok x =>
      obtain ⟨e | outcome, after⟩ := x
      · simp [hend, Except.toOption, Except.isOk, Except.toBool] at hending
      · obtain ⟨counted, ⟨herrors, -⟩, -, hforgiven, -⟩ := hanswered.forgiving _ _ hend
        obtain ⟨hleft, hover⟩ := hforgiven Nat.one_ne_zero (Nat.le_add_left 1 _)
        rw [herrors, htwo.2] at hleft
        exact ⟨_, _, rfl, hleft, hover⟩
  case paused =>
    have hpaused : (answered.events.any fun
        | .paused delay => delay = .ofSecs 4
        | _ => false) = true := by decide +kernel
    obtain ⟨x, hx, hfour⟩ := List.any_eq_true.1 hpaused
    cases x with
    | asked | looked => cases hfour
    | paused delay =>
      obtain rfl : delay = .ofSecs 4 := of_decide_eq_true hfour
      obtain ⟨before, after, hsplit⟩ := List.append_of_mem hx
      exact ⟨before, after, hsplit, hanswered.delay_of_paused _ _ _ hsplit⟩

/-- An endpoint that knows no such namespace ends a fetch, and the errors are forgiven. -/
example : (story ⟨fun _ => [⟨"a", "http://a/"⟩, ⟨"b", "http://b/"⟩],
    fun as => Selector.cycle.choose as.length, fun _ _ => .ok .notFound, Selector.mem_of_choose⟩
    .fetchRetry 3 ⟨2, 0⟩).ending = .ok (.ok .notFound, ⟨0, 0⟩) := rfl

end Accounts

end LiveConfig.Rotation
