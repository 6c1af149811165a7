import LiveConfig.Fetch.Rotation

/-!
# The attempts of a fetch

A fetch asks instance after instance. Where it runs is not known: which instances are known, which
of the candidates is chosen and what is answered may change from attempt to attempt, in any way.
What happens on the way is recorded. This module says what a list of attempts stands for, and which
lists can come about.

## Layout

- §1 the surroundings of a fetch, and programs that keep a record;
- §2 what a list of attempts stands for: the back-off that counts them, everything that happens
  around them, and what they come to;
- §3 the attempts that can be made;
- §4 the errors that the back-off counts by then, in numbers.

## Main statements

- `Rotation.attemptsIn_course`: what happens around attempts tells which they were.
- `Rotation.Made.of_split`: how each attempt came about.
- `Rotation.counting_backoffAfter`: attempts that are not answered count as many errors as will
  pass.
- `Rotation.Made.delay_of_paused`: how long each pause is.
-/

namespace LiveConfig.Rotation

/-! ## §1 Surroundings -/

/-- One attempt: who was asked, and the answer. -/
structure Attempt where
  endpoint : Endpoint
  answer : Except Http.CallError FetchOutcome

/-- The names of the endpoints that have been asked. -/
def names (as : List Attempt) : List String := as.map fun a => a.endpoint.id

/-- **Surroundings of a fetch.** Everything in them may depend on the attempts that were made. -/
structure Surroundings where
  /-- The endpoints that are known when one is to be picked. -/
  known : List Attempt → List Endpoint
  /-- The choice among candidates. -/
  choose : List Attempt → List Endpoint → Option Endpoint
  /-- The answer of an endpoint that is asked. -/
  answer : List Attempt → Endpoint → Except Http.CallError FetchOutcome
  /-- What is chosen is a candidate. -/
  mem_of_choose : ∀ {as : List Attempt} {candidates : List Endpoint} {e : Endpoint},
    choose as candidates = some e → e ∈ candidates

/-- The endpoint that is picked after attempts. -/
def Surroundings.pick (s : Surroundings) (as : List Attempt) : Option Endpoint :=
  s.choose as (Selector.candidates (names as) (s.known as))

/-- What happens in a fetch. -/
inductive Event
  | asked (a : Attempt)
  /-- A look for other instances. -/
  | looked
  | paused (delay : Duration)

/-- The attempts among what happened. -/
def attemptsIn (events : List Event) : List Attempt :=
  events.filterMap fun
    | .asked a => some a
    | _ => none

/-- Programs that record what happens. -/
abbrev Recording := EStateM Duration.SecondsError (List Event)

/-- Record something. -/
def record (e : Event) : Recording Unit := modify (· ++ [e])

/-- The services of surroundings. -/
def Surroundings.services (s : Surroundings) (config : BackoffConfig) : Services Recording where
  pick tried := do
    let as := attemptsIn (← get)
    pure (s.choose as (Selector.candidates tried (s.known as)))
  ask e := do
    let answer := s.answer (attemptsIn (← get)) e
    record (.asked ⟨e, answer⟩)
    pure answer
  backoff := pure config
  lookAgain := record .looked
  pause delay := record (.paused delay)
  fail e := throw e

/-- A whole fetch: what happened, and its result with the back-off afterwards. -/
structure Story where
  events : List Event
  ending : Except Duration.SecondsError (FetchResult × Backoff)

/-- What a recording program tells. -/
def Story.ofResult :
    EStateM.Result Duration.SecondsError (List Event) (FetchResult × Backoff) → Story
  | .ok ending events => ⟨events, .ok ending⟩
  | .error e events => ⟨events, .error e⟩

/-- **A fetch in its surroundings.** -/
def story (s : Surroundings) (config : BackoffConfig) (maxAttempts : Nat) (b : Backoff) : Story :=
  .ofResult ((fetch (s.services config) maxAttempts b).run [])

/-! ## §2 What attempts stand for -/

/-- Whether an attempt failed with a passing error. -/
def Attempt.isPassing (a : Attempt) : Bool :=
  match a.answer with
  | .ok _ => false
  | .error e => e.isTransient

/-- The back-off that counts an attempt: a passing error counts one, an answer is a success, and
any other error does not count. -/
def Attempt.countedBy (config : BackoffConfig) (b : Backoff) (a : Attempt) : Backoff :=
  match a.answer with
  | .ok _ => b.registerSuccess config.recovery
  | .error e => if e.isTransient then b.registerError else b

/-- The back-off that counts attempts. -/
def backoffAfter (config : BackoffConfig) (b : Backoff) (as : List Attempt) : Backoff :=
  as.foldl (Attempt.countedBy config) b

/-- How many attempts failed with a passing error. -/
def passingErrors (as : List Attempt) : Nat := as.countP Attempt.isPassing

/-- The counts of a back-off after so many errors in a row: the first of them ends the streak of
successes. -/
def Counting (b : Backoff) (n : Nat) (after : Backoff) : Prop :=
  after.errors = b.errors + n ∧ after.streak = if n = 0 then b.streak else 0

/-- The counts of a back-off after a success: if it completes a streak, two errors are forgiven,
and every error if there is no streak to complete. -/
def Forgiving (recovery : Nat) (b after : Backoff) : Prop :=
  (recovery = 0 → after.errors = 0 ∧ after.streak = 0)
    ∧ (recovery ≠ 0 → recovery ≤ b.streak + 1 → after.errors = b.errors - 2 ∧ after.streak = 0)
    ∧ (b.streak + 1 < recovery → after.errors = b.errors ∧ after.streak = b.streak + 1)

/-- What happens after an attempt, the `n`-th of at most `limit`, when `b` has counted it: after a
passing error a look for other instances and, unless it was the last attempt, a pause of the delay
that the back-off gives. -/
def Attempt.aftermath (config : BackoffConfig) (limit n : Nat) (b : Backoff) (a : Attempt) :
    List Event :=
  if a.isPassing then
    match config.delay? b.errors with
    | .ok delay => .looked :: if n < limit then [.paused delay] else []
    | .error _ => []
  else []

/-- Everything that happens around attempts, of which so many have been made before. -/
def course (config : BackoffConfig) (limit : Nat) (b : Backoff) :
    Nat → List Attempt → List Event
  | _, [] => []
  | made, a :: rest =>
    let b := a.countedBy config b
    .asked a :: (a.aftermath config limit (made + 1) b ++ course config limit b (made + 1) rest)

/-- **What attempts come to**, with the back-off afterwards: what the last one says, be it an answer
or an error that is told with the number of attempts. After a passing error the back-off has to
give a delay. -/
def verdict (config : BackoffConfig) (b : Backoff) (as : List Attempt) :
    Except Duration.SecondsError (FetchResult × Backoff) :=
  let b := backoffAfter config b as
  match as.getLast?.map Attempt.answer with
  | none => .ok (.error .noEndpoint, b)
  | some (.ok outcome) => .ok (.ok outcome, b)
  | some (.error e) =>
    if e.isTransient then
      (config.delay? b.errors).map fun _ => (.error (.exhausted as.length e), b)
    else .ok (.error (.exhausted as.length e), b)

section Course

variable {config : BackoffConfig} {limit : Nat} {b : Backoff} {as : List Attempt} {a : Attempt}

theorem names_concat (as : List Attempt) (a : Attempt) :
    names (as ++ [a]) = names as ++ [a.endpoint.id] := by
  simp [names]

/-- The order in which endpoints were tried does not matter for the choice. -/
theorem candidates_reverse (tried : List String) (endpoints : List Endpoint) :
    Selector.candidates tried.reverse endpoints = Selector.candidates tried endpoints := by
  simp [Selector.candidates]

theorem backoffAfter_concat : backoffAfter config b (as ++ [a])
    = a.countedBy config (backoffAfter config b as) := by
  simp [backoffAfter]

theorem forgiving_registerSuccess (recovery : Nat) (b : Backoff) :
    Forgiving recovery b (b.registerSuccess recovery) := by
  unfold Forgiving Backoff.registerSuccess
  by_cases hnone : recovery = 0
  · simp [hnone]
  · by_cases hlong : recovery ≤ b.streak + 1
    · simp [hnone, hlong, Nat.not_lt.2 hlong]
    · simp [hnone, hlong]

theorem countedBy_of_passing (h : a.isPassing) : a.countedBy config b = b.registerError := by
  unfold Attempt.isPassing at h
  unfold Attempt.countedBy
  cases hanswer : a.answer with
  | ok outcome => simp [hanswer] at h
  | error e =>
    simp only [hanswer] at h
    simp only [h, if_true]

theorem countedBy_of_answer {outcome : FetchOutcome} (h : a.answer = .ok outcome) :
    a.countedBy config b = b.registerSuccess config.recovery := by
  simp only [Attempt.countedBy, h]

theorem countedBy_of_not_passing (h : ¬a.isPassing) (hanswer : ¬a.answer.isOk) :
    a.countedBy config b = b := by
  unfold Attempt.isPassing at h
  unfold Attempt.countedBy
  cases ha : a.answer with
  | ok outcome => exact absurd rfl (ha ▸ hanswer)
  | error e =>
    simp only [ha] at h
    simp only [h, Bool.false_eq_true, if_false]

/-- **As long as nothing is answered, the back-off counts the passing errors.** -/
theorem counting_backoffAfter (h : ∀ a ∈ as, ¬a.answer.isOk) :
    Counting b (passingErrors as) (backoffAfter config b as) := by
  induction as generalizing b with
  | nil => exact ⟨rfl, rfl⟩
  | cons a rest ih =>
    obtain ⟨ha, hrest⟩ := List.forall_mem_cons.1 h
    change Counting b _ (backoffAfter config (a.countedBy config b) rest)
    by_cases hpassing : a.isPassing
    · obtain ⟨herrors, hstreak⟩ := ih (b := b.registerError) hrest
      rw [countedBy_of_passing hpassing, passingErrors, List.countP_cons_of_pos hpassing]
      constructor
      · rw [herrors, Backoff.errors_registerError, Nat.add_assoc, Nat.add_comm 1]
        rfl
      · rw [hstreak]
        simp [Backoff.registerError]
    · rw [countedBy_of_not_passing hpassing ha, passingErrors, List.countP_cons_of_neg hpassing]
      exact ih hrest

theorem course_concat {made : Nat} : course config limit b made (as ++ [a])
    = course config limit b made as ++ .asked a ::
        a.aftermath config limit (made + as.length + 1) (backoffAfter config b (as ++ [a])) := by
  induction as generalizing b made with
  | nil => simp [course, backoffAfter]
  | cons x rest ih =>
    have hmade : made + 1 + rest.length = made + (x :: rest).length := by
      rw [List.length_cons]
      omega
    simp only [List.cons_append, course, ih, hmade, List.append_assoc]
    rfl

theorem attemptsIn_append (events events' : List Event) :
    attemptsIn (events ++ events') = attemptsIn events ++ attemptsIn events' :=
  List.filterMap_append

/-- Nobody is asked between two attempts. -/
theorem attemptsIn_aftermath (n : Nat) (b : Backoff) :
    attemptsIn (a.aftermath config limit n b) = [] := by
  unfold Attempt.aftermath
  split
  · split
    · split <;> rfl
    · rfl
  · rfl

/-- The pause after an attempt lasts as long as the back-off says. -/
theorem delay_of_aftermath {n : Nat} {before after : List Event} {delay : Duration}
    (h : a.aftermath config limit n b = before ++ .paused delay :: after) :
    a.isPassing ∧ attemptsIn before = [] ∧ config.delay? b.errors = .ok delay := by
  have hnobody := congrArg attemptsIn h
  rw [attemptsIn_aftermath, attemptsIn_append] at hnobody
  have hbefore := (List.append_eq_nil_iff.1 hnobody.symm).1
  have hpause : Event.paused delay ∈ a.aftermath config limit n b := by simp [h]
  unfold Attempt.aftermath at hpause
  split at hpause
  · next hpassing =>
    refine ⟨hpassing, hbefore, ?_⟩
    split at hpause
    · next given hdelay =>
      rw [hdelay]
      simp only [List.mem_cons, reduceCtorEq, false_or] at hpause
      split at hpause
      · rw [Event.paused.inj (List.mem_singleton.1 hpause)]
      · cases hpause
    · cases hpause
  · cases hpause

@[simp] theorem attemptsIn_course {made : Nat} :
    attemptsIn (course config limit b made as) = as := by
  induction as generalizing b made with
  | nil => rfl
  | cons a rest ih =>
    change a :: attemptsIn (_ ++ _) = _
    rw [attemptsIn_append, attemptsIn_aftermath, ih, List.nil_append]

end Course

/-! ## §3 Attempts that can be made -/

/-- **Attempts that can be made** in surroundings: after passing errors only, at most so many, each
at the endpoint that is picked, and with its answer. -/
inductive Made (s : Surroundings) (limit : Nat) : List Attempt → Prop
  | none : Made s limit []
  | further {as : List Attempt} {e : Endpoint} (made : Made s limit as)
      (passing : ∀ a ∈ as, a.isPassing) (left : as.length < limit) (pick_eq : s.pick as = some e) :
      Made s limit (as ++ [⟨e, s.answer as e⟩])

namespace Made

variable {s : Surroundings} {limit : Nat} {as before after : List Attempt} {a : Attempt}

theorem length_le (h : Made s limit as) : as.length ≤ limit := by
  cases h with
  | none => exact Nat.zero_le _
  | further _ _ left _ =>
    rw [List.length_append]
    exact left

/-- How each attempt came about. -/
theorem of_split (h : Made s limit as) (hsplit : as = before ++ a :: after) :
    s.pick before = some a.endpoint ∧ a.answer = s.answer before a.endpoint
      ∧ (after ≠ [] → a.isPassing) := by
  induction h generalizing after with
  | none => simp at hsplit
  | @further as e _ passing _ pick_eq ih =>
    -- It is the last attempt, or one of those before.
    rcases List.eq_nil_or_concat after with rfl | ⟨rest, last, rfl⟩
    · obtain ⟨rfl, hlast⟩ := List.append_inj' hsplit rfl
      cases hlast
      exact ⟨pick_eq, rfl, fun h => absurd rfl h⟩
    · rw [List.concat_eq_append, ← List.cons_append, ← List.append_assoc] at hsplit
      obtain ⟨rfl, -⟩ := List.append_inj' hsplit rfl
      obtain ⟨hpicked, hanswer, -⟩ := ih rfl
      exact ⟨hpicked, hanswer, fun _ => passing a (by simp)⟩

end Made

/-! ## §4 Errors that count -/

section Counts

variable {s : Surroundings} {config : BackoffConfig} {limit : Nat} {b : Backoff}
  {as : List Attempt} {a : Attempt}

theorem not_isOk_of_isPassing (h : a.isPassing) : ¬a.answer.isOk := by
  unfold Attempt.isPassing at h
  intro hok
  cases hanswer : a.answer with
  | ok outcome => simp [hanswer] at h
  | error e =>
    rw [hanswer] at hok
    cases hok

/-- Before the last attempt nothing is answered. -/
theorem Made.passing_of_concat (h : Made s limit (as ++ [a])) : ∀ x ∈ as, x.isPassing := by
  intro x hx
  obtain ⟨before, after, rfl⟩ := List.append_of_mem hx
  exact (h.of_split (by rw [List.append_assoc, List.cons_append])).2.2 (by simp)

theorem Made.counting (h : Made s limit (as ++ [a])) (ha : ¬a.answer.isOk) :
    Counting b (passingErrors (as ++ [a])) (backoffAfter config b (as ++ [a])) := by
  apply counting_backoffAfter
  rw [List.forall_mem_append, List.forall_mem_singleton]
  exact ⟨fun x hx => not_isOk_of_isPassing (h.passing_of_concat x hx), ha⟩

/-- **Every pause lasts as long as the errors before it say.** -/
theorem Made.delay_of_paused (h : Made s limit as) {before after : List Event} {delay : Duration}
    (hsplit : course config limit b 0 as = before ++ .paused delay :: after) :
    config.delay? (b.errors + passingErrors (attemptsIn before)) = .ok delay := by
  induction h generalizing after with
  | none => simp [course] at hsplit
  | @further as e made passing left pick_eq ih =>
    have hmade := made.further passing left pick_eq
    rw [course_concat, Nat.zero_add] at hsplit
    -- The pause comes before the last attempt or after it.
    rcases List.append_eq_append_iff.1 hsplit with ⟨rest, rfl, hrest⟩ | ⟨rest, hbefore, hrest⟩
    · cases rest with
      | nil => cases hrest
      | cons x rest =>
        obtain ⟨rfl, haftermath⟩ := List.cons.inj hrest
        obtain ⟨hpassing, hnobody, hdelay⟩ := delay_of_aftermath haftermath
        have hattempts : attemptsIn (course config limit b 0 as
            ++ .asked ⟨e, s.answer as e⟩ :: rest) = as ++ [⟨e, s.answer as e⟩] := by
          rw [attemptsIn_append, attemptsIn_course]
          change as ++ ⟨e, s.answer as e⟩ :: attemptsIn rest = _
          rw [hnobody]
        have hcounting : Counting b _ (backoffAfter config b _) :=
          hmade.counting (not_isOk_of_isPassing hpassing)
        rw [hattempts, ← hcounting.1]
        exact hdelay
    · cases rest with
      | nil => cases hrest
      | cons x rest =>
        obtain ⟨rfl, -⟩ := List.cons.inj hrest
        exact ih hbefore

end Counts

end LiveConfig.Rotation
