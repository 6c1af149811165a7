import LiveConfig.Proofs.Sync.Lock

/-!
# Requests and the worker

A request fills the slot of the worker, or finds it full. Either way a refresh begins after it: the
worker takes the request and stands in the line at the lock until its refresh begins. Requests that
come while the worker is busy share one further refresh, and a worker that has been cancelled takes
nothing any more.

## Main statements

- `SyncMachine.workerStep_of_step`: what a move does to the worker.
- `SyncRun.wake_or_due`: no request is lost.
- `SyncRun.begins_le`: a refresh of the worker begins for what it has taken, and only once.
- `SyncRun.requests_served`: both, and that nothing begins after a cancellation, for whole runs.
-/

namespace LiveConfig

variable {L : Type}

/-! ## §1 The worker's place -/

namespace SyncMachine

/-- The refresh under way is the worker's. -/
def workerRuns (m : SyncMachine L) : Bool := m.active.any fun a => a.caller == workerId

/-- The worker has taken on a refresh that has not begun. -/
def pledged (m : SyncMachine L) : Bool := m.worker.refreshing && !m.workerRuns

/-- A refresh lies before the worker: its first one, or one that it has taken on. -/
def due (m : SyncMachine L) : Bool := m.worker == .created || m.pledged

section Parts

variable {m : SyncMachine L} {a : ActiveRefresh L}

theorem workerRuns_of_none (h : m.active = none) : m.workerRuns = false := by
  simp [workerRuns, h]

theorem workerRuns_of_some (h : m.active = some a) :
    m.workerRuns = (a.caller == workerId) := by
  simp [workerRuns, h]

/-- A worker that has not begun, that waits or that has ended has no refresh under way. -/
theorem InLine.workerRuns_eq_false {q : List Nat} (hm : m.InLine q)
    (hworker : m.worker.refreshing = false) : m.workerRuns = false := by
  cases ha : m.active with
  | none => exact workerRuns_of_none ha
  | some a =>
    rw [workerRuns_of_some ha, beq_eq_false_iff_ne]
    intro hself
    rw [hm.refreshing_of_active ha hself] at hworker
    cases hworker

theorem Orderly.refreshing_of_workerRuns (hm : m.Orderly) (hruns : m.workerRuns = true) :
    m.worker.refreshing = true := by
  obtain ⟨q, hq⟩ := hm
  cases hrefreshing : m.worker.refreshing with
  | true => rfl
  | false =>
    rw [hq.workerRuns_eq_false hrefreshing] at hruns
    cases hruns

end Parts

end SyncMachine

/-- What a step does to the worker. -/
inductive WorkerStep (s : SyncStep L) : Prop
  /-- The step does not concern the worker, except that it may be a request. -/
  | aside (hmove : s.move ≠ .enter workerId) (htake : s.move ≠ .take)
      (hworker : s.after.worker = s.before.worker)
      (hruns : s.after.workerRuns = s.before.workerRuns)
      (hwake : s.after.wake = s.before.wake ∨ s.move = .request ∧ s.after.wake = true)
  | enter (hmove : s.move = .enter workerId) (hpledged : s.before.pledged = true)
      (hworker : s.after.worker = s.before.worker) (hruns : s.after.workerRuns = true)
      (hwake : s.after.wake = s.before.wake)
  /-- A refresh of the worker ends. -/
  | ended (hmove : s.move ≠ .enter workerId) (htake : s.move ≠ .take)
      (hrefreshing : s.before.worker.refreshing = true) (hruns : s.before.workerRuns = true)
      (hidle : s.after.worker = .idle) (hwake : s.after.wake = s.before.wake)
  | launch (hmove : s.move = .launch) (hcreated : s.before.worker = .created)
      (hgo : s.before.cancelled = false) (hinitial : s.after.worker = .initial)
      (hfree : s.after.workerRuns = false) (hwake : s.after.wake = s.before.wake)
  | launchCancelled (hmove : s.move = .launch) (hcreated : s.before.worker = .created)
      (hcancelled : s.before.cancelled = true) (hidle : s.after.worker = .idle)
      (hwake : s.after.wake = s.before.wake)
  | stop (hmove : s.move = .take) (hidle : s.before.worker = .idle)
      (hcancelled : s.before.cancelled = true)
      (hsame : s.after = { s.before with worker := .stopped })
  | wakeUp (hmove : s.move = .take) (hidle : s.before.worker = .idle)
      (hgo : s.before.cancelled = false) (hwake : s.before.wake = true)
      (hbusy : s.after.worker = .busy) (hfree : s.after.workerRuns = false)
      (htaken : s.after.wake = false)
  | tick (hmove : s.move = .take) (hidle : s.before.worker = .idle)
      (hgo : s.before.cancelled = false) (hwake : s.before.wake = false)
      (hbusy : s.after.worker = .busy) (hfree : s.after.workerRuns = false)
      (htaken : s.after.wake = false)
  | abandon (hmove : s.move = .abandon workerId) (hstopped : s.after.worker = .stopped)
      (hwake : s.after.wake = s.before.wake)

namespace WorkerStep

variable {s : SyncStep L} {m : SyncMachine L} {caller : Nat} {phase phase' : RefreshPhase L}
  {q : List Nat}

/-- A refresh that goes on does not concern the worker, whoever runs it. -/
theorem of_active (hactive : s.before.active = some ⟨caller, phase⟩)
    (hactive' : s.after.active = some ⟨caller, phase'⟩)
    (hworker : s.after.worker = s.before.worker) (hwake : s.after.wake = s.before.wake)
    (hmove : s.move ≠ .enter workerId) (htake : s.move ≠ .take) : WorkerStep s := by
  refine .aside hmove htake hworker ?_ (.inl hwake)
  rw [SyncMachine.workerRuns_of_some hactive, SyncMachine.workerRuns_of_some hactive']

/-- A refresh that ends concerns the worker only if it is the worker's. -/
theorem of_letGo (hline : s.before.InLine q) (hactive : s.before.active = some ⟨caller, phase⟩)
    (hafter : s.after = m.letGo caller) (hworker : m.worker = s.before.worker)
    (hwake : m.wake = s.before.wake) (hmove : s.move ≠ .enter workerId)
    (htake : s.move ≠ .take) : WorkerStep s := by
  by_cases hself : caller = workerId
  · refine .ended hmove htake (hline.refreshing_of_active hactive hself) ?_ ?_ ?_
    · simp [SyncMachine.workerRuns_of_some hactive, hself]
    · rw [hafter, SyncMachine.worker_letGo, if_pos hself]
    · rw [hafter, SyncMachine.wake_letGo, hwake]
  · refine .aside hmove htake ?_ ?_ (.inl ?_)
    · rw [hafter, SyncMachine.worker_letGo, if_neg hself, hworker]
    · rw [hafter, SyncMachine.workerRuns_of_none (SyncMachine.active_letGo ..),
        SyncMachine.workerRuns_of_some hactive]
      simp [hself]
    · rw [hafter, SyncMachine.wake_letGo, hwake]

end WorkerStep

namespace SyncMachine

section Parts

variable {m : SyncMachine L} {caller : Nat}

/-- Who gives up drops no refresh of the worker. -/
theorem workerRuns_abandon (hother : caller ≠ workerId) :
    (m.abandon caller).workerRuns = m.workerRuns := by
  cases ha : m.active with
  | none => simp [abandon, workerRuns, ha]
  | some a =>
    by_cases hself : a.caller = caller
    · simp [abandon, workerRuns, ha, hself, hother]
    · simp [abandon, workerRuns, ha, hself]

end Parts

variable {frame : SyncFrame L} {now : Instant} {m m' : SyncMachine L} {f f' : Files}
  {move : SyncMove L} {events : List (SyncEvent L)}

/-- **What a step does to the worker.** -/
theorem workerStep_of_step (hm : m.Orderly) (step : m.Step frame now f move m' f' events) :
    WorkerStep ⟨now, move, m, m', f', events⟩ := by
  obtain ⟨q, hq⟩ := hm
  have hnever (hidle : m.worker.refreshing = false) : m.workerRuns = false :=
    hq.workerRuns_eq_false hidle
  cases step with
  | request => exact .aside nofun nofun rfl rfl (.inr ⟨rfl, rfl⟩)
  | launch hcreated hgo =>
    exact .launch rfl hcreated hgo rfl (hnever (by rw [hcreated]; rfl)) rfl
  | launchCancelled hcreated hcancelled => exact .launchCancelled rfl hcreated hcancelled rfl rfl
  | stop hidle hcancelled => exact .stop rfl hidle hcancelled rfl
  | wakeUp hidle hgo hwake =>
    exact .wakeUp rfl hidle hgo hwake rfl (hnever (by rw [hidle]; rfl)) rfl
  | tick hidle hgo hwake =>
    exact .tick rfl hidle hgo hwake rfl (hnever (by rw [hidle]; rfl)) hwake
  | @enter caller hholds hfree =>
    have hfirst := Permits.holds_line.1 (hq.lock_eq ▸ hholds)
    by_cases hself : caller = workerId
    · subst hself
      have hrefreshing := hq.worker_iff.1 (List.mem_of_mem_head? hfirst)
      refine .enter rfl ?_ rfl rfl rfl
      simp [pledged, hrefreshing, workerRuns_of_none hfree]
    · -- The refresh of another caller begins, where none was under way.
      refine .aside (by simpa using hself) nofun rfl ?_ (.inl rfl)
      rw [workerRuns_of_none hfree]
      simpa [workerRuns] using hself
  | permit hactive => exact .of_active hactive rfl rfl rfl nofun nofun
  | @answer _ _ _ _ _ _ remaining hactive =>
    -- The refresh ends with its answer if nothing remains to be done.
    cases remaining with
    | nothing => exact .of_letGo hq hactive rfl rfl rfl nofun nofun
    | saving | delivering => exact .of_active hactive rfl rfl rfl nofun nofun
  | saved hactive => exact .of_active hactive rfl rfl rfl nofun nofun
  | @gather _ changes _ hactive =>
    cases hleft : m.sync.view.listeners.concerned changes with
    | nil => exact .of_letGo hq hactive rfl rfl rfl nofun nofun
    | cons => exact .of_active hactive rfl rfl rfl nofun nofun
  | @deliver _ _ _ left _ hactive =>
    cases left with
    | nil => exact .of_letGo hq hactive rfl rfl rfl nofun nofun
    | cons => exact .of_active hactive rfl rfl rfl nofun nofun
  | @abandon caller =>
    by_cases hself : caller = workerId
    · subst hself
      exact .abandon rfl rfl rfl
    · exact .aside nofun nofun (if_neg hself) (workerRuns_abandon hself) (.inl rfl)
  | _ => exact .aside nofun nofun rfl rfl (.inl rfl)

theorem cancelled_of_step (step : m.Step frame now f move m' f' events)
    (h : m.cancelled = true) : m'.cancelled = true := by
  cases step with
  | answer | gather | deliver => simpa using h
  | cancel => rfl
  | _ => exact h

end SyncMachine

/-! ## §2 What the worker takes and begins -/

namespace SyncStep

/-- A refresh of the worker begins. -/
def begins (s : SyncStep L) : Bool :=
  match s.move with
  | .enter caller => caller == workerId
  | _ => false

/-- The worker takes the request in its slot. -/
def wokeUp (s : SyncStep L) : Bool :=
  match s.move with
  | .take => s.before.wake && s.after.worker == .busy
  | _ => false

/-- The worker keeps its schedule. -/
def ticked (s : SyncStep L) : Bool :=
  match s.move with
  | .take => !s.before.wake && s.after.worker == .busy
  | _ => false

end SyncStep

namespace SyncMachine

variable {m m' : SyncMachine L}

theorem pledged_eq (hworker : m'.worker = m.worker) (hruns : m'.workerRuns = m.workerRuns) :
    m'.pledged = m.pledged := by
  simp [pledged, hworker, hruns]

theorem due_eq (hworker : m'.worker = m.worker) (hruns : m'.workerRuns = m.workerRuns) :
    m'.due = m.due := by
  simp [due, pledged_eq hworker hruns, hworker]

theorem due_eq_true_iff : m.due = true ↔ m.worker = .created ∨ m.pledged = true := by
  simp [due]

/-- Nothing lies before a worker whose refresh is under way, or that waits or has ended. -/
theorem due_eq_false (hcreated : m.worker ≠ .created)
    (h : m.worker.refreshing = false ∨ m.workerRuns = true) : m.due = false := by
  rcases h with h | h <;> simp [due, pledged, hcreated, h]

theorem pledged_of_idle (h : m.worker = .idle) : m.pledged = false := by
  simp [pledged, h, WorkerPhase.refreshing]

theorem pledged_of_stopped (h : m.worker = .stopped) : m.pledged = false := by
  simp [pledged, h, WorkerPhase.refreshing]

theorem due_of_idle (h : m.worker = .idle) : m.due = false := by
  simp [due, h, pledged_of_idle h]

theorem due_of_stopped (h : m.worker = .stopped) : m.due = false := by
  simp [due, h, pledged_of_stopped h]

theorem pledged_of_busy (hbusy : m.worker = .busy) (hfree : m.workerRuns = false) :
    m.pledged = true := by
  simp [pledged, hbusy, hfree, WorkerPhase.refreshing]

theorem pledged_of_initial (hinitial : m.worker = .initial) (hfree : m.workerRuns = false) :
    m.pledged = true := by
  simp [pledged, hinitial, hfree, WorkerPhase.refreshing]

theorem refreshing_of_pledged (h : m.pledged = true) : m.worker.refreshing = true := by
  simp only [pledged, Bool.and_eq_true] at h
  exact h.1

theorem ne_created_of_refreshing (h : m.worker.refreshing = true) : m.worker ≠ .created := by
  intro hcreated
  simp [hcreated, WorkerPhase.refreshing] at h

end SyncMachine

namespace WorkerStep

variable {s : SyncStep L}

theorem begins_iff : s.begins = true ↔ s.move = .enter workerId := by
  unfold SyncStep.begins
  split
  · next caller hmove => simp [hmove]
  · next hmove => simpa using hmove workerId

theorem begins_eq_false (h : s.move ≠ .enter workerId) : s.begins = false := by
  rw [← Bool.not_eq_true, begins_iff]
  exact h

theorem wokeUp_eq_false (h : s.move ≠ .take) : s.wokeUp = false := by
  unfold SyncStep.wokeUp
  split
  · next hmove => exact absurd hmove h
  · rfl

/-- **A refresh of the worker begins only if it lay before it**, and what the worker takes lies
before it then. -/
theorem begins_due (w : WorkerStep s) :
    s.begins.toNat + s.after.due.toNat
      ≤ s.before.due.toNat + s.wokeUp.toNat + s.ticked.toNat := by
  have hone := Bool.toNat_le s.after.due
  cases w with
  | aside hmove _ hworker hruns =>
    rw [begins_eq_false hmove, SyncMachine.due_eq hworker hruns]
    simp [Nat.add_assoc]
  | enter hmove hpledged hworker hruns =>
    -- It lay before the worker, and does so no longer.
    have hcreated := SyncMachine.ne_created_of_refreshing
      (SyncMachine.refreshing_of_pledged hpledged)
    have hdue : s.before.due = true := SyncMachine.due_eq_true_iff.2 (.inr hpledged)
    have hdue' : s.after.due = false := SyncMachine.due_eq_false (hworker ▸ hcreated) (.inr hruns)
    simp [SyncStep.begins, SyncStep.wokeUp, SyncStep.ticked, hmove, hdue, hdue']
  | ended hmove _ _ _ hidle =>
    have hdue' : s.after.due = false := SyncMachine.due_of_idle hidle
    simp [begins_eq_false hmove, hdue']
  | launch hmove hcreated =>
    -- The first refresh lay ahead already.
    have hdue : s.before.due = true := SyncMachine.due_eq_true_iff.2 (.inl hcreated)
    simp [SyncStep.begins, SyncStep.wokeUp, SyncStep.ticked, hmove, hdue, hone]
  | launchCancelled hmove _ _ hidle =>
    -- The first refresh is given up before it begins.
    have hdue' : s.after.due = false := SyncMachine.due_of_idle hidle
    simp [SyncStep.begins, hmove, hdue']
  | stop hmove _ _ hsame =>
    have hdue' : s.after.due = false := SyncMachine.due_of_stopped (hsame ▸ rfl)
    simp [SyncStep.begins, hmove, hdue']
  | wakeUp hmove _ _ hwake hbusy =>
    -- What the worker takes may lie ahead of it from now on.
    simp [SyncStep.begins, SyncStep.wokeUp, SyncStep.ticked, hmove, hwake, hbusy]
    omega
  | tick hmove _ _ hwake hbusy =>
    simp [SyncStep.begins, SyncStep.wokeUp, SyncStep.ticked, hmove, hwake, hbusy]
    omega
  | abandon hmove hstopped =>
    have hdue' : s.after.due = false := SyncMachine.due_of_stopped hstopped
    simp [SyncStep.begins, hmove, hdue']

/-- A worker that is cancelled begins only what it has taken on before. -/
theorem begins_pledged (w : WorkerStep s) (hcancelled : s.before.cancelled = true) :
    s.begins.toNat + s.after.pledged.toNat ≤ s.before.pledged.toNat := by
  cases w with
  | aside hmove _ hworker hruns =>
    rw [begins_eq_false hmove, SyncMachine.pledged_eq hworker hruns]
    simp
  | enter hmove hpledged hworker hruns =>
    have hpledged' : s.after.pledged = false := by simp [SyncMachine.pledged, hruns]
    simp [SyncStep.begins, hmove, hpledged, hpledged']
  | ended hmove _ _ _ hidle =>
    have hpledged' : s.after.pledged = false := SyncMachine.pledged_of_idle hidle
    simp [begins_eq_false hmove, hpledged']
  | launchCancelled hmove _ _ hidle =>
    have hpledged' : s.after.pledged = false := SyncMachine.pledged_of_idle hidle
    simp [SyncStep.begins, hmove, hpledged']
  | stop hmove _ _ hsame =>
    have hpledged' : s.after.pledged = false := SyncMachine.pledged_of_stopped (hsame ▸ rfl)
    simp [SyncStep.begins, hmove, hpledged']
  | abandon hmove hstopped =>
    have hpledged' : s.after.pledged = false := SyncMachine.pledged_of_stopped hstopped
    simp [SyncStep.begins, hmove, hpledged']
  | launch _ _ hgo | wakeUp _ _ hgo | tick _ _ hgo =>
    rw [hcancelled] at hgo
    cases hgo

theorem wokeUp_of_not_idle (w : WorkerStep s) (h : s.before.worker ≠ .idle) : s.wokeUp = false := by
  cases w with
  | stop _ hidle | wakeUp _ hidle | tick _ hidle => exact absurd hidle h
  | aside _ htake | ended _ htake => exact wokeUp_eq_false htake
  | enter hmove | launch hmove | launchCancelled hmove | abandon hmove =>
    exact wokeUp_eq_false (by simp [hmove])

/-- A request is taken once, and only requests fill the slot. -/
theorem wokeUp_wake (w : WorkerStep s) (hrequest : s.move ≠ .request) :
    s.wokeUp.toNat + s.after.wake.toNat ≤ s.before.wake.toNat := by
  cases w with
  | aside _ htake _ _ hwake =>
    -- Nobody has asked, so nothing has filled the slot.
    have hkept := hwake.resolve_right fun h => hrequest h.1
    simp [wokeUp_eq_false htake, hkept]
  | ended _ htake _ _ _ hwake => simp [wokeUp_eq_false htake, hwake]
  | enter hmove _ _ _ hwake | launch hmove _ _ _ _ hwake | launchCancelled hmove _ _ _ hwake
  | abandon hmove _ hwake => simp [SyncStep.wokeUp, hmove, hwake]
  | stop hmove _ _ hsame =>
    have hnot : (WorkerPhase.stopped == .busy) = false := rfl
    simp [SyncStep.wokeUp, hmove, hsame, hnot]
  | wakeUp hmove _ _ hwake hbusy _ htaken => simp [SyncStep.wokeUp, hmove, hwake, hbusy, htaken]
  | tick hmove _ _ hwake _ _ htaken => simp [SyncStep.wokeUp, hmove, hwake, htaken]

/-- **No request is lost**: until a refresh begins, the request is in the slot, or a refresh of the
worker lies ahead. -/
theorem wake_or_due (w : WorkerStep s) (hgo : s.before.cancelled = false)
    (hmove : s.move ≠ .enter workerId) (hworker : s.move ≠ .abandon workerId)
    (h : s.before.wake = true ∨ s.before.due = true) :
    s.after.wake = true ∨ s.after.due = true := by
  cases w with
  | aside _ _ hworker hruns hwake =>
    rw [SyncMachine.due_eq hworker hruns]
    rcases hwake with hwake | ⟨-, hwake⟩
    · rwa [hwake]
    · exact .inl hwake
  | enter henter => exact absurd henter hmove
  | ended _ _ hrefreshing hruns _ hwake =>
    -- Nothing lay ahead of the worker, so the request is in the slot.
    have hcreated := SyncMachine.ne_created_of_refreshing hrefreshing
    have hdue : s.before.due = false := SyncMachine.due_eq_false hcreated (.inr hruns)
    rw [hwake]
    exact .inl (h.resolve_right (by simp [hdue]))
  | launch _ _ _ hinitial hfree =>
    have hpledged := SyncMachine.pledged_of_initial hinitial hfree
    exact .inr (SyncMachine.due_eq_true_iff.2 (.inr hpledged))
  | wakeUp _ _ _ _ hbusy hfree | tick _ _ _ _ hbusy hfree =>
    have hpledged := SyncMachine.pledged_of_busy hbusy hfree
    exact .inr (SyncMachine.due_eq_true_iff.2 (.inr hpledged))
  | launchCancelled _ _ hcancelled | stop _ _ hcancelled =>
    rw [hcancelled] at hgo
    cases hgo
  | abandon habandon => exact absurd habandon hworker

/-- **What lies ahead of the worker begins**, before the worker does anything else. -/
theorem due_or_stopped (w : WorkerStep s) (hgo : s.before.cancelled = false)
    (hmove : s.move ≠ .enter workerId) (h : s.before.due = true) :
    s.after.due = true ∨ s.after.worker = .stopped := by
  have hidle (hidle : s.before.worker = .idle) : False := by
    rw [SyncMachine.due_of_idle hidle] at h
    cases h
  cases w with
  | aside _ _ hworker hruns => exact .inl (SyncMachine.due_eq hworker hruns ▸ h)
  | enter henter => exact absurd henter hmove
  | ended _ _ hrefreshing hruns =>
    have hcreated := SyncMachine.ne_created_of_refreshing hrefreshing
    rw [SyncMachine.due_eq_false hcreated (.inr hruns)] at h
    cases h
  | launch _ _ _ hinitial hfree =>
    have hpledged := SyncMachine.pledged_of_initial hinitial hfree
    exact .inl (SyncMachine.due_eq_true_iff.2 (.inr hpledged))
  | launchCancelled _ _ hcancelled =>
    rw [hcancelled] at hgo
    cases hgo
  | stop _ hwaits | wakeUp _ hwaits | tick _ hwaits => exact (hidle hwaits).elim
  | abandon _ hstopped => exact .inr hstopped

/-- A worker that is cancelled stops instead of taking anything. -/
theorem stops_of_cancelled (w : WorkerStep s) (hcancelled : s.before.cancelled = true)
    (htake : s.move = .take) : s.after = { s.before with worker := .stopped } := by
  cases w with
  | stop _ _ _ hsame => exact hsame
  | aside _ hnot | ended _ hnot => exact absurd htake hnot
  | enter hmove | launch hmove | launchCancelled hmove | abandon hmove =>
    rw [htake] at hmove
    cases hmove
  | wakeUp _ _ hgo | tick _ _ hgo =>
    rw [hcancelled] at hgo
    cases hgo

theorem stopped_of_stopped (w : WorkerStep s) (h : s.before.worker = .stopped) :
    s.after.worker = .stopped := by
  have hnot : s.before.worker.refreshing = false := by
    rw [h]
    rfl
  cases w with
  | aside _ _ hworker => rw [hworker, h]
  | enter _ hpledged =>
    rw [SyncMachine.refreshing_of_pledged hpledged] at hnot
    cases hnot
  | ended _ _ hrefreshing =>
    rw [hrefreshing] at hnot
    cases hnot
  | launch _ hother | launchCancelled _ hother | stop _ hother | wakeUp _ hother
  | tick _ hother =>
    rw [h] at hother
    cases hother
  | abandon _ hstopped => exact hstopped

end WorkerStep

/-! ## §3 Runs -/

/-- Somebody has asked for a refresh, and none has begun since. -/
def Outstanding (history : List (SyncStep L)) : Prop :=
  ∃ h₁ s h₂, history = h₁ ++ s :: h₂ ∧ s.move = .request ∧ ∀ t ∈ h₂, ∀ c, t.move ≠ .enter c

theorem not_outstanding_nil : ¬Outstanding ([] : List (SyncStep L)) := by
  rintro ⟨h₁, s, h₂, h, -⟩
  simp at h

/-- A request that is outstanding has just been made, or was outstanding before. -/
theorem outstanding_concat {history : List (SyncStep L)} {s : SyncStep L}
    (h : Outstanding (history ++ [s])) :
    s.move = .request ∨ Outstanding history ∧ ∀ c, s.move ≠ .enter c := by
  obtain ⟨h₁, t, h₂, hsplit, hrequest, hnone⟩ := h
  rcases List.eq_nil_or_concat h₂ with rfl | ⟨init, last, rfl⟩
  · -- Nothing has happened since the request.
    obtain ⟨-, hlast⟩ := List.append_inj' hsplit rfl
    obtain rfl := List.singleton_inj.1 hlast
    exact .inl hrequest
  · rw [List.concat_eq_append, ← List.cons_append, ← List.append_assoc] at hsplit
    obtain ⟨rfl, hlast⟩ := List.append_inj' hsplit rfl
    obtain rfl := List.singleton_inj.1 hlast
    refine .inr ⟨⟨h₁, t, init, rfl, hrequest, fun u hu => ?_⟩, ?_⟩
    · exact hnone u (by simp [hu])
    · exact hnone s (by simp)

theorem countP_concat (p : SyncStep L → Bool) (history : List (SyncStep L)) (s : SyncStep L) :
    (history ++ [s]).countP p = history.countP p + (p s).toNat := by
  cases h : p s <;> simp [h]

namespace SyncRun

variable {frame : SyncFrame L} {m₀ m : SyncMachine L} {f₀ f : Files} {h : List (SyncStep L)}

theorem orderly (run : SyncRun frame m₀ f₀ h m f) (h₀ : m₀.Orderly) : m.Orderly :=
  run.invariant h₀ SyncMachine.orderly_of_step

theorem workerStep_of_mem (run : SyncRun frame m₀ f₀ h m f) (h₀ : m₀.Orderly) {s : SyncStep L}
    (hs : s ∈ h) : WorkerStep s := by
  induction run with
  | nil => cases hs
  | snoc run hstep ih =>
    rcases List.mem_append.1 hs with hs | hs
    · exact ih hs
    · obtain rfl := List.mem_singleton.1 hs
      exact SyncMachine.workerStep_of_step (run.orderly h₀) (SyncMachine.step_of_step? hstep)

theorem orderly_start (setting : SyncSetting) (f : Files) (ns : String) (now : Instant) :
    (SyncMachine.start (L := L) setting f ns now).1.Orderly :=
  ⟨[], rfl, List.nodup_nil, by simp [SyncMachine.start, WorkerPhase.refreshing], nofun, nofun⟩

/-- Who is not cancelled at the end never was. -/
theorem not_cancelled (run : SyncRun frame m₀ f₀ h m f) (hgo : m.cancelled = false) :
    m₀.cancelled = false := by
  induction run with
  | nil => exact hgo
  | snoc _ hstep ih =>
    refine ih (Bool.eq_false_iff.2 fun hcancelled => ?_)
    rw [SyncMachine.cancelled_of_step (SyncMachine.step_of_step? hstep) hcancelled] at hgo
    cases hgo

/-- **No request is lost**: as long as no refresh begins, the request is in the slot, or a refresh
lies ahead of the worker. -/
theorem wake_or_due (run : SyncRun frame m₀ f₀ h m f) (h₀ : m₀.Orderly)
    (hworker : ∀ s ∈ h, s.move ≠ .abandon workerId) (hgo : m.cancelled = false)
    (hrequest : Outstanding h) : m.wake = true ∨ m.due = true := by
  induction run with
  | nil => exact absurd hrequest not_outstanding_nil
  | snoc run hstep ih =>
    have step := SyncMachine.step_of_step? hstep
    have w := SyncMachine.workerStep_of_step (run.orderly h₀) step
    rcases outstanding_concat hrequest with rfl | ⟨hbefore, hmove⟩
    · -- A request fills the slot.
      cases hstep
      exact .inl rfl
    · have hgo' := (SyncRun.snoc .nil hstep).not_cancelled hgo
      have hheld := ih (fun s hs => hworker s (List.mem_append_left _ hs)) hgo' hbefore
      exact w.wake_or_due hgo' (hmove workerId) (hworker _ (by simp)) hheld

/-- **What lies ahead of the worker begins** before the worker waits for something else. -/
theorem begins_of_due (run : SyncRun frame m₀ f₀ h m f) (h₀ : m₀.Orderly)
    (hgo : m.cancelled = false) (hdue : m₀.due = true) :
    (∃ s ∈ h, s.move = .enter workerId) ∨ m.due = true ∨ m.worker = .stopped := by
  induction run with
  | nil => exact .inr (.inl hdue)
  | @snoc _ _ _ _ _ _ move _ run hstep ih =>
    have w := SyncMachine.workerStep_of_step (run.orderly h₀) (SyncMachine.step_of_step? hstep)
    have hgo' := (SyncRun.snoc .nil hstep).not_cancelled hgo
    -- It has begun before, begins now, still lies ahead, or was given up with the worker.
    rcases ih hgo' with ⟨s, hs, hbegun⟩ | hahead | hstopped
    · exact .inl ⟨s, List.mem_append_left _ hs, hbegun⟩
    · by_cases hmove : move = .enter workerId
      · exact .inl ⟨_, List.mem_append_right _ (List.mem_singleton_self _), hmove⟩
      · exact .inr (w.due_or_stopped hgo' hmove hahead)
    · exact .inr (.inr (w.stopped_of_stopped hstopped))

/-- A refresh of the worker begins only for what it has taken, and once for each. -/
theorem begins_le (run : SyncRun frame m₀ f₀ h m f) (h₀ : m₀.Orderly) :
    h.countP SyncStep.begins + m.due.toNat
      ≤ m₀.due.toNat + h.countP SyncStep.wokeUp + h.countP SyncStep.ticked := by
  induction run with
  | nil => simp
  | snoc run hstep ih =>
    have w := SyncMachine.workerStep_of_step (run.orderly h₀) (SyncMachine.step_of_step? hstep)
    have hstep := w.begins_due
    dsimp only at hstep
    rw [countP_concat, countP_concat, countP_concat]
    omega

/-- Where nobody asks, at most the request in the slot is taken. -/
theorem wokeUps_le (run : SyncRun frame m₀ f₀ h m f) (h₀ : m₀.Orderly)
    (hnone : ∀ s ∈ h, s.move ≠ .request) :
    h.countP SyncStep.wokeUp + m.wake.toNat ≤ m₀.wake.toNat := by
  induction run with
  | nil => simp
  | snoc run hstep ih =>
    have w := SyncMachine.workerStep_of_step (run.orderly h₀) (SyncMachine.step_of_step? hstep)
    have hstep := w.wokeUp_wake (hnone _ (by simp))
    have hbefore := ih fun s hs => hnone s (List.mem_append_left _ hs)
    dsimp only at hstep
    rw [countP_concat]
    omega

/-- A worker that is cancelled takes nothing, and begins only what it has taken on before. -/
theorem of_cancelled (run : SyncRun frame m₀ f₀ h m f) (h₀ : m₀.Orderly)
    (hcancelled : m₀.cancelled = true) :
    m.cancelled = true
      ∧ (∀ s ∈ h, s.move = .take → s.after = { s.before with worker := .stopped })
      ∧ h.countP SyncStep.begins + m.pledged.toNat ≤ m₀.pledged.toNat := by
  induction run with
  | nil => exact ⟨hcancelled, fun _ hs => absurd hs List.not_mem_nil, by simp⟩
  | snoc run hstep ih =>
    obtain ⟨hbefore, htakes, hbegun⟩ := ih
    have step := SyncMachine.step_of_step? hstep
    have w := SyncMachine.workerStep_of_step (run.orderly h₀) step
    have hone := w.begins_pledged hbefore
    refine ⟨SyncMachine.cancelled_of_step step hbefore, fun s hs htake => ?_, ?_⟩
    · rcases List.mem_append.1 hs with hs | hs
      · exact htakes s hs htake
      · obtain rfl := List.mem_singleton.1 hs
        exact w.stops_of_cancelled hbefore htake
    · dsimp only at hone
      rw [countP_concat]
      omega

/-- What lies ahead of the worker can begin, whoever stands before it in the line. -/
theorem exists_begins (hm : m.Orderly) (hgo : m.cancelled = false) (hdue : m.due = true) :
    ∃ h' m' f', SyncRun frame m f h' m' f' ∧ Undisturbed h'
      ∧ ∃ s ∈ h', s.move = .enter workerId := by
  -- A worker that has taken on a refresh stands in the line, where everybody comes to his turn.
  have hpledged {m : SyncMachine L} {f : Files} (hm : m.Orderly) (h : m.pledged = true) :
      ∃ h' m' f', SyncRun frame m f h' m' f' ∧ Undisturbed h'
        ∧ ∃ s ∈ h', s.move = .enter workerId := by
    obtain ⟨q, hq⟩ := hm
    have hline := hq.worker_iff.2 (SyncMachine.refreshing_of_pledged h)
    refine hq.exists_enter hline fun a ha hself => ?_
    simp [SyncMachine.pledged, SyncMachine.workerRuns_of_some ha, hself] at h
  rcases SyncMachine.due_eq_true_iff.1 hdue with hcreated | h
  · -- A worker that has not begun does so first.
    have hstep : m.step? frame 0 f .launch
        = some (m.launch frame.setting.refreshInterval 0, f, []) := by
      simp [SyncMachine.step?, hcreated]
    have step := SyncMachine.step_of_step? hstep
    have w := SyncMachine.workerStep_of_step hm step
    have hstays : (m.launch frame.setting.refreshInterval 0).pledged = true := by
      obtain ⟨q, hq⟩ := hm
      have hfree := hq.workerRuns_eq_false (by rw [hcreated]; rfl)
      unfold SyncMachine.launch
      rw [if_neg (by simp [hgo])]
      exact SyncMachine.pledged_of_initial rfl hfree
    obtain ⟨h', m', f', run, hquiet, s, hs, hmove⟩ :=
      hpledged (SyncMachine.orderly_of_step hm step) hstays
    refine ⟨_, m', f', (SyncRun.snoc .nil hstep).append run, undisturbed_append ?_ hquiet, s,
      List.mem_append_right _ hs, hmove⟩
    simp [Undisturbed]
  · exact hpledged hm h

/-- **Requests are served.** In every run in which the worker is not torn down:
* as long as no refresh has begun since a request and the worker is not cancelled, the slot is full,
  or a refresh lies ahead of the worker, which begins before the worker waits again, and can begin;
* of all requests that come while the worker does not wait one is taken later, so that at most one
  refresh begins besides those that lay ahead and those that the schedule asks for;
* a worker that is cancelled takes neither a request nor a tick, and has at most the refresh that it
  had taken on. -/
theorem requests_served {ns : String} {now : Instant}
    (run : SyncRun frame (SyncMachine.start frame.setting f₀ ns now).1 f₀ h m f)
    (hworker : ∀ s ∈ h, s.move ≠ .abandon workerId) :
    (m.cancelled = false → Outstanding h →
      m.wake = true
        ∨ m.due = true
          ∧ (∀ h' m' f', SyncRun frame m f h' m' f' → m'.cancelled = false → m'.worker = .idle →
            ∃ s ∈ h', s.move = .enter workerId)
          ∧ ∃ h' m' f', SyncRun frame m f h' m' f' ∧ Undisturbed h'
            ∧ ∃ s ∈ h', s.move = .enter workerId)
    ∧ (∀ during after m₁ f₁ m₂ f₂, SyncRun frame m f during m₁ f₁ →
        SyncRun frame m₁ f₁ after m₂ f₂ → (∀ s ∈ during, s.before.worker ≠ .idle) →
        (∀ s ∈ after, s.move ≠ .request) →
        (during ++ after).countP SyncStep.wokeUp ≤ 1
          ∧ (during ++ after).countP SyncStep.begins
            ≤ m.due.toNat + (during ++ after).countP SyncStep.ticked + 1)
    ∧ (m.cancelled = true → ∀ h' m' f', SyncRun frame m f h' m' f' →
        (∀ s ∈ h', s.move = .take → s.after = { s.before with worker := .stopped })
          ∧ h'.countP SyncStep.begins + m.workerRuns.toNat ≤ m.worker.refreshing.toNat) := by
  have hstart := orderly_start (L := L) frame.setting f₀ ns now
  have horderly := run.orderly hstart
  refine ⟨fun hgo hrequest => ?_, fun during after m₁ f₁ m₂ f₂ run₁ run₂ hbusy hnone => ?_,
    fun hcancelled h' m' f' run' => ?_⟩
  · rcases run.wake_or_due hstart hworker hgo hrequest with hwake | hdue
    · exact .inl hwake
    · refine .inr ⟨hdue, fun h' m' f' run' hgo' hidle => ?_, exists_begins horderly hgo hdue⟩
      -- A worker that waits has nothing ahead of it, and one that has ended does not wait.
      rcases run'.begins_of_due horderly hgo' hdue with hbegun | hahead | hstopped
      · exact hbegun
      · rw [SyncMachine.due_of_idle hidle] at hahead
        cases hahead
      · rw [hidle] at hstopped
        cases hstopped
  · have horderly₁ := run₁.orderly horderly
    -- While the worker does not wait it takes nothing; afterwards at most what the slot holds.
    have hnothing : during.countP SyncStep.wokeUp = 0 := by
      refine List.countP_eq_zero.2 fun s hs => ?_
      rw [(run₁.workerStep_of_mem horderly hs).wokeUp_of_not_idle (hbusy s hs)]
      exact Bool.false_ne_true
    have hlater := run₂.wokeUps_le horderly₁ hnone
    have hslot := Bool.toNat_le m₁.wake
    have hbegun := (run₁.append run₂).begins_le horderly
    simp only [List.countP_append] at hbegun ⊢
    exact ⟨by omega, by omega⟩
  · obtain ⟨-, htakes, hbegun⟩ := run'.of_cancelled horderly hcancelled
    have hown := horderly.refreshing_of_workerRuns
    -- Either its refresh is under way, and none is left to begin, or it is still to come.
    refine ⟨htakes, ?_⟩
    unfold SyncMachine.pledged at hbegun
    cases hruns : m.workerRuns with
    | true => simp_all
    | false =>
      simp [hruns] at hbegun ⊢
      omega

/-- Two requests come while the first refresh is under way; the worker takes them together, and its
next refresh begins before it waits again. -/
theorem requests_served_together :
    ∃ (h : List (SyncStep Unit)) (m : SyncMachine Unit) (f : Files),
      SyncRun .plain (SyncMachine.start SyncFrame.plain.setting {} "app" 0).1 {} h m f
        ∧ (∀ s ∈ h, s.move ≠ .abandon workerId) ∧ Outstanding h
        ∧ m.cancelled = false ∧ m.wake = false ∧ m.due = true
        ∧ (∀ h' m' f', SyncRun .plain m f h' m' f' → m'.cancelled = false → m'.worker = .idle →
          ∃ s ∈ h', s.move = .enter workerId)
        ∧ ∃ h' m' f', SyncRun .plain m f h' m' f' ∧ Undisturbed h'
          ∧ ∃ s ∈ h', s.move = .enter workerId := by
  have hplayed := SyncRun.exists_of_play? .plain
    (SyncMachine.start SyncFrame.plain.setting {} "app" 0).1 {}
    [(0, .launch), (0, .enter workerId), (0, .request), (0, .request), (0, .permit),
      (0, .answer (.ok .notFound) {}), (0, .take)]
    (fun seen => seen.1.length == 7 && !seen.2.1.cancelled && !seen.2.1.wake && seen.2.1.due)
    (by decide)
  obtain ⟨h, m, f, run, hmoves, hseen⟩ := hplayed
  simp only [Bool.and_eq_true, beq_iff_eq, Bool.not_eq_true'] at hseen
  obtain ⟨⟨⟨hlength, hgo⟩, hempty⟩, hdue⟩ := hseen
  have hworker : ∀ s ∈ h, s.move ≠ .abandon workerId := by
    have hall : ∀ move ∈ h.map SyncStep.move, move ≠ .abandon workerId := by simp [hmoves]
    exact fun s hs => hall _ (List.mem_map_of_mem hs)
  have hrequest : Outstanding h := by
    refine ⟨h.take 3, h[3], h.drop 4, by simp, ?_, ?_⟩
    · have hfourth := congrArg (·[3]?) hmoves
      simpa [List.getElem?_eq_getElem (show 3 < h.length by omega)] using hfourth
    · have hrest : ∀ move ∈ (h.drop 4).map SyncStep.move, ∀ c, move ≠ .enter c := by
        rw [List.map_drop, hmoves]
        simp
      exact fun t ht => hrest _ (List.mem_map_of_mem ht)
  rcases (run.requests_served hworker).1 hgo hrequest with hwake | ⟨-, hbefore, hcan⟩
  · rw [hempty] at hwake
    cases hwake
  · exact ⟨h, m, f, run, hworker, hrequest, hgo, hempty, hdue, hbefore, hcan⟩

end SyncRun

end LiveConfig
