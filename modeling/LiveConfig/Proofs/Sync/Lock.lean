import LiveConfig.Proofs.Sync.Step

/-!
# The line at the lock

Who wants to refresh a namespace stands in one line. The first in the line holds the lock, and only
he may have a refresh under way. The worker stands in the line exactly while one of its refreshes is
under way or due.

## Main statements

- `Permits.request_line`, `Permits.release_line`: the lock is a line, whoever comes or goes.
- `SyncMachine.inLine_of_step`: every move keeps the line.
- `SyncMachine.InLine.exists_enter`: whoever stands in the line can come to his refresh.
-/

namespace LiveConfig

variable {L : Type}

/-! ## §1 Lines -/

namespace Permits

/-- A lock that the first of a line holds, while the others wait in their order. -/
def line (q : List Nat) : Permits := ⟨1, q.take 1, q.drop 1⟩

@[simp] theorem holds_line {q : List Nat} {id : Nat} :
    (line q).holds id = true ↔ q.head? = some id := by
  cases q with
  | nil => simp [holds, line]
  | cons first rest => simp [holds, line, eq_comm]

@[simp] theorem asked_line (q : List Nat) (id : Nat) : (line q).asked id = q.contains id := by
  cases q with
  | nil => rfl
  | cons first rest => simp [asked, line]

/-- Who asks goes to the end of the line. -/
theorem request_line (q : List Nat) (id : Nat) : (line q).request id = line (q ++ [id]) := by
  cases q <;> simp [request, grant, line]

/-- Who gives up or is done leaves the line. -/
theorem release_line (q : List Nat) (id : Nat) :
    (line q).release id = line (q.filter (· ≠ id)) := by
  cases q with
  | nil => rfl
  | cons first rest =>
    by_cases h : first = id
    · simp [release, grant, line, h]
    · simp [release, grant, line, h]

end Permits

/-! ## §2 The invariant -/

/-- Whether one of the worker's refreshes is under way or due. -/
def WorkerPhase.refreshing : WorkerPhase → Bool
  | .initial | .busy => true
  | _ => false

/-- A refresh that delivers has somebody left to call. -/
def RefreshPhase.CanGoOn : RefreshPhase L → Prop
  | .delivering _ left _ => left ≠ []
  | _ => True

namespace SyncMachine

/-- **Everybody stands in one line**, whose first holds the lock. -/
structure InLine (q : List Nat) (m : SyncMachine L) : Prop where
  lock_eq : m.lock = .line q
  nodup : q.Nodup
  worker_iff : workerId ∈ q ↔ m.worker.refreshing = true
  first : ∀ a, m.active = some a → q.head? = some a.caller
  can_go_on : ∀ a, m.active = some a → a.phase.CanGoOn

/-- Some line stands at the lock. -/
def Orderly (m : SyncMachine L) : Prop := ∃ q, m.InLine q

section Parts

variable {m : SyncMachine L} {q : List Nat} {caller : Nat}

/-- The worker is in no other refresh than its own. -/
theorem InLine.refreshing_of_active {a : ActiveRefresh L} (hm : m.InLine q)
    (ha : m.active = some a) (hworker : a.caller = workerId) : m.worker.refreshing = true :=
  hm.worker_iff.1 (hworker ▸ List.mem_of_mem_head? (hm.first a ha))

/-- The first in the line has a refresh under way. -/
theorem inLine_of_active {a : ActiveRefresh L} (hlock : m.lock = .line q) (hnodup : q.Nodup)
    (hworker : workerId ∈ q ↔ m.worker.refreshing = true) (hactive : m.active = some a)
    (hfirst : q.head? = some a.caller) (hgo : a.phase.CanGoOn) : m.InLine q where
  lock_eq := hlock
  nodup := hnodup
  worker_iff := hworker
  first := forall_active_of_some hactive hfirst
  can_go_on := forall_active_of_some hactive hgo

theorem InLine.with_sync (hm : m.InLine q) (sync : Sync L) : { m with sync }.InLine q :=
  ⟨hm.lock_eq, hm.nodup, hm.worker_iff, hm.first, hm.can_go_on⟩

/-- After a refresh everybody moves up. -/
theorem inLine_letGo (hlock : m.lock = .line q) (hnodup : q.Nodup)
    (hworker : workerId ∈ q ↔ m.worker.refreshing = true) :
    (m.letGo caller).InLine (q.filter (· ≠ caller)) where
  lock_eq := by rw [lock_letGo, hlock, Permits.release_line]
  nodup := hnodup.filter _
  worker_iff := by
    rw [worker_letGo]
    split
    · next hself => simp [hself, WorkerPhase.refreshing]
    · next hother => simp [hworker, Ne.symm hother]
  first a ha := by simp at ha
  can_go_on a ha := by simp at ha

theorem InLine.proceed {r : Remaining} (hm : m.InLine q) (hfirst : q.head? = some caller) :
    (m.proceed caller r).1.Orderly := by
  cases r with
  | nothing => exact ⟨_, inLine_letGo hm.lock_eq hm.nodup hm.worker_iff⟩
  | saving | delivering =>
    exact ⟨q, inLine_of_active hm.lock_eq hm.nodup hm.worker_iff rfl hfirst trivial⟩

theorem InLine.tell {changes : ChangeSet} {left : List (Registration L)} {outcome : RefreshOutcome}
    (hm : m.InLine q) (hfirst : q.head? = some caller) :
    (m.tell caller changes left outcome).1.Orderly := by
  cases left with
  | nil => exact ⟨_, inLine_letGo hm.lock_eq hm.nodup hm.worker_iff⟩
  | cons next left =>
    exact ⟨q, inLine_of_active hm.lock_eq hm.nodup hm.worker_iff rfl hfirst (List.cons_ne_nil _ _)⟩

/-- Somebody new joins at the end. -/
theorem InLine.join (hm : m.InLine q) (hnew : caller ∉ q) :
    (q ++ [caller]).Nodup ∧ ∀ a, m.active = some a → (q ++ [caller]).head? = some a.caller := by
  refine ⟨List.nodup_append.2 ⟨hm.nodup, by simp, ?_⟩, fun a ha => ?_⟩
  · rintro x hx y hy rfl
    exact hnew (List.mem_singleton.1 hy ▸ hx)
  · rw [List.head?_append, hm.first a ha]
    rfl

end Parts

variable {frame : SyncFrame L} {now : Instant} {m m' : SyncMachine L} {f f' : Files}
  {move : SyncMove L} {events : List (SyncEvent L)} {q : List Nat}

/-- **Every move keeps the line**, whoever makes it. -/
theorem orderly_of_step (hm : m.Orderly) (step : m.Step frame now f move m' f' events) :
    m'.Orderly := by
  obtain ⟨q, hq⟩ := hm
  cases step with
  | @call caller hother hnew =>
    -- Nobody asks twice, so nobody stands in the line twice.
    have hfresh : caller ∉ q := by simpa [hq.lock_eq] using hnew
    obtain ⟨hnodup, hfirst⟩ := hq.join hfresh
    refine ⟨q ++ [caller], ?_, hnodup, ?_, hfirst, hq.can_go_on⟩
    · exact hq.lock_eq ▸ Permits.request_line ..
    · simp [hq.worker_iff, Ne.symm hother]
  | launch hcreated =>
    -- A worker that has not begun stands nowhere, and joins with its first refresh.
    have hfresh : workerId ∉ q := by simp [hq.worker_iff, hcreated, WorkerPhase.refreshing]
    obtain ⟨hnodup, hfirst⟩ := hq.join hfresh
    refine ⟨q ++ [workerId], ?_, hnodup, ?_, hfirst, hq.can_go_on⟩
    · exact hq.lock_eq ▸ Permits.request_line ..
    · simp [WorkerPhase.refreshing]
  | launchCancelled hcreated =>
    refine ⟨q, hq.lock_eq, hq.nodup, ?_, hq.first, hq.can_go_on⟩
    simp [hq.worker_iff, hcreated, WorkerPhase.refreshing]
  | stop hidle =>
    refine ⟨q, hq.lock_eq, hq.nodup, ?_, hq.first, hq.can_go_on⟩
    simp [hq.worker_iff, hidle, WorkerPhase.refreshing]
  | wakeUp hidle | tick hidle =>
    have hfresh : workerId ∉ q := by simp [hq.worker_iff, hidle, WorkerPhase.refreshing]
    obtain ⟨hnodup, hfirst⟩ := hq.join hfresh
    refine ⟨q ++ [workerId], ?_, hnodup, ?_, hfirst, hq.can_go_on⟩
    · exact hq.lock_eq ▸ Permits.request_line ..
    · simp [WorkerPhase.refreshing]
  | enter hholds =>
    -- Who holds the lock is the first, and stays so while the refresh is under way.
    have hfirst := Permits.holds_line.1 (hq.lock_eq ▸ hholds)
    exact ⟨q, inLine_of_active hq.lock_eq hq.nodup hq.worker_iff rfl hfirst trivial⟩
  | permit hactive =>
    exact ⟨q, inLine_of_active hq.lock_eq hq.nodup hq.worker_iff rfl (hq.first _ hactive :) trivial⟩
  | answer hactive => exact (hq.with_sync _).proceed (hq.first _ hactive :)
  | saved hactive =>
    exact ⟨q, inLine_of_active hq.lock_eq hq.nodup hq.worker_iff rfl (hq.first _ hactive :) trivial⟩
  | gather hactive => exact hq.tell (hq.first _ hactive :)
  | deliver hactive => exact (hq.with_sync _).tell (hq.first _ hactive :)
  | @abandon caller =>
    -- The line closes up. A refresh that is left under way is another caller's, who stays first.
    refine ⟨q.filter (· ≠ caller), ?_, hq.nodup.filter _, ?_, fun a ha => ?_, fun a ha => ?_⟩
    · rw [abandon, hq.lock_eq, Permits.release_line]
    · by_cases hself : caller = workerId
      · simp [abandon, hself, WorkerPhase.refreshing]
      · simp [abandon, hself, hq.worker_iff, Ne.symm hself]
    · obtain ⟨ha, hother⟩ := Option.filter_eq_some_iff.1 ha
      obtain ⟨rest, rfl⟩ := List.head?_eq_some_iff.1 (hq.first a ha)
      have hstays : a.caller ≠ caller := of_decide_eq_true hother
      simp [hstays]
    · exact hq.can_go_on a (Option.filter_eq_some_iff.1 ha).1
  | _ => exact ⟨q, hq.lock_eq, hq.nodup, hq.worker_iff, hq.first, hq.can_go_on⟩

end SyncMachine

/-! ## §3 Nobody waits in vain -/

/-- Nobody gives up, and nobody cancels the worker. -/
def Undisturbed (history : List (SyncStep L)) : Prop :=
  ∀ s ∈ history, s.move ≠ .cancel ∧ ∀ caller, s.move ≠ .abandon caller

theorem undisturbed_append {h h' : List (SyncStep L)} (hh : Undisturbed h) (hh' : Undisturbed h') :
    Undisturbed (h ++ h') :=
  fun s hs => (List.mem_append.1 hs).elim (hh s) (hh' s)

namespace SyncMachine

variable {frame : SyncFrame L} {m m' : SyncMachine L} {f f' : Files} {events : List (SyncEvent L)}
  {q : List Nat}

/-- The caller can bring his refresh to an end, after which the others have moved up. -/
def CanFinish (frame : SyncFrame L) (caller : Nat) (q : List Nat) (m : SyncMachine L) (f : Files) :
    Prop :=
  ∃ h m' f', SyncRun frame m f h m' f' ∧ Undisturbed h ∧ m'.active = none
    ∧ m'.InLine (q.filter (· ≠ caller))

section CanFinish

variable {caller : Nat} {changes : ChangeSet} {outcome : RefreshOutcome}

/-- What can be finished after a move can be finished before it. -/
theorem CanFinish.of_step (now : Instant) (move : SyncMove L) (h : CanFinish frame caller q m' f')
    (hmove : move ≠ .cancel ∧ ∀ c, move ≠ .abandon c)
    (hstep : m.step? frame now f move = some (m', f', events)) : CanFinish frame caller q m f := by
  obtain ⟨h, m₁, f₁, run, hc, hfree, hline⟩ := h
  have hfirst : Undisturbed [⟨now, move, m, m', f', events⟩] := by simpa [Undisturbed] using hmove
  exact ⟨_, m₁, f₁, (SyncRun.snoc .nil hstep).append run, undisturbed_append hfirst hc,
    hfree, hline⟩

section Phases

variable (hlock : m.lock = .line q) (hnodup : q.Nodup)
  (hworker : workerId ∈ q ↔ m.worker.refreshing = true)
include hlock hnodup hworker

theorem canFinish_letGo : CanFinish frame caller q (m.letGo caller) f :=
  ⟨[], _, f, .nil, by simp [Undisturbed], active_letGo .., inLine_letGo hlock hnodup hworker⟩

theorem canFinish_tell {left : List (Registration L)} :
    CanFinish frame caller q (m.tell caller changes left outcome).1 f := by
  induction left generalizing m with
  | nil => exact canFinish_letGo hlock hnodup hworker
  | cons next left ih =>
    -- The listener may edit the registry, which the line does not depend on.
    have hnext : CanFinish frame caller q ({ m with
        sync := (m.sync.deliver frame.react changes next).1
        active := some ⟨caller, .delivering changes (next :: left) outcome⟩ }.tell
          caller changes left outcome).1 f := ih hlock hworker
    exact hnext.of_step 0 .deliver ⟨nofun, nofun⟩ rfl

theorem canFinish_committed :
    CanFinish frame caller q { m with active := some ⟨caller, .committed changes outcome⟩ } f :=
  CanFinish.of_step 0 .gather (canFinish_tell hlock hnodup hworker) ⟨nofun, nofun⟩ rfl

theorem canFinish_fetching {flight : Flight} :
    CanFinish frame caller q { m with active := some ⟨caller, .fetching flight⟩ } f := by
  -- Any answer will do; this one leaves nothing to save and nobody to call.
  have hdone : CanFinish frame caller q ({ m with
      sync := { m.sync with backoff := {} }.notFound 0
      active := some ⟨caller, .fetching flight⟩ }.letGo caller) f :=
    canFinish_letGo hlock hnodup hworker
  exact hdone.of_step 0 (.answer (.ok .notFound) {}) ⟨nofun, nofun⟩ rfl

end Phases

/-- **Every refresh can be brought to an end.** -/
theorem InLine.canFinish {a : ActiveRefresh L} (hm : m.InLine q) (ha : m.active = some a) :
    CanFinish frame a.caller q m f := by
  have hgo := hm.can_go_on a ha
  obtain ⟨hlock, hnodup, hworker, -, -⟩ := hm
  -- Taken apart, the namespace is literally one with this refresh under way.
  obtain ⟨sync, lock, active, wake, worker, initialized, cancelled, nextTick, detached⟩ := m
  obtain ⟨caller, phase⟩ := a
  obtain rfl : active = some ⟨caller, phase⟩ := ha
  cases phase with
  | queued =>
    exact CanFinish.of_step 0 .permit (canFinish_fetching hlock hnodup hworker) ⟨nofun, nofun⟩ rfl
  | fetching => exact canFinish_fetching hlock hnodup hworker
  | saving =>
    exact CanFinish.of_step 0 (.saved none) (canFinish_committed hlock hnodup hworker)
      ⟨nofun, nofun⟩ rfl
  | committed => exact canFinish_committed hlock hnodup hworker
  | delivering changes left outcome =>
    cases left with
    | nil => exact absurd rfl hgo
    | cons next left =>
      -- Telling the rest of the listeners is what the refresh is about to do anyway.
      have hall : CanFinish frame caller q (SyncMachine.tell caller changes (next :: left) outcome
          ⟨sync, lock, some ⟨caller, .delivering changes (next :: left) outcome⟩, wake, worker,
            initialized, cancelled, nextTick, detached⟩).1 f :=
        canFinish_tell hlock hnodup hworker
      exact hall

theorem InLine.step?_enter {first : Nat} {rest : List Nat} (hm : m.InLine (first :: rest))
    (hfree : m.active = none) (now : Instant) :
    m.step? frame now f (.enter first) = some (m.enter first, f, []) := by
  have hholds : m.lock.holds first = true := by simp [hm.lock_eq]
  simp [step?, hholds, hfree]

/-- The first in the line can be done with his refresh, whether he has begun it or not. -/
theorem InLine.exists_done {first : Nat} {rest : List Nat} (hm : m.InLine (first :: rest)) :
    ∃ h m' f', SyncRun frame m f h m' f' ∧ Undisturbed h ∧ m'.active = none ∧ m'.InLine rest := by
  have hrest : (first :: rest).filter (· ≠ first) = rest := by
    have hfresh := (List.nodup_cons.1 hm.nodup).1
    rw [List.filter_cons_of_neg (by simp), List.filter_eq_self]
    intro x hx
    have hother : x ≠ first := fun h => hfresh (h ▸ hx)
    simpa using hother
  have hfinish : CanFinish frame first (first :: rest) m f := by
    cases hactive : m.active with
    | some a =>
      obtain rfl : first = a.caller := by simpa using hm.first a hactive
      exact hm.canFinish hactive
    | none =>
      have hentered : (m.enter first).InLine (first :: rest) :=
        inLine_of_active hm.lock_eq hm.nodup hm.worker_iff rfl rfl trivial
      have hend : CanFinish frame first (first :: rest) (m.enter first) f := hentered.canFinish rfl
      exact hend.of_step 0 (.enter first) ⟨nofun, nofun⟩ (hm.step?_enter hactive 0)
  rwa [CanFinish, hrest] at hfinish

/-- **Whoever stands in the line can come to his refresh**, though all before him come first. -/
theorem InLine.exists_enter {id : Nat} (hm : m.InLine q) (hid : id ∈ q)
    (hwaits : ∀ a, m.active = some a → a.caller ≠ id) :
    ∃ h m' f', SyncRun frame m f h m' f' ∧ Undisturbed h ∧ ∃ t ∈ h, t.move = .enter id := by
  induction q generalizing m f with
  | nil => cases hid
  | cons first rest ih =>
    by_cases hfirst : first = id
    · subst hfirst
      -- Only the first could have a refresh under way, and that is the one who waits.
      have hfree : m.active = none := by
        refine Option.eq_none_iff_forall_ne_some.2 fun a ha => hwaits a ha ?_
        simpa [eq_comm] using hm.first a ha
      refine ⟨_, _, f, .snoc .nil (hm.step?_enter hfree 0), by simp [Undisturbed], ?_⟩
      exact ⟨_, List.mem_singleton_self _, rfl⟩
    · -- The first one refreshes, and the rest of the line moves up.
      obtain ⟨h, m', f', run, hc, hfree, hline⟩ := hm.exists_done
      have hrest := (List.mem_cons.1 hid).resolve_left fun h => hfirst h.symm
      obtain ⟨h', m'', f'', run', hc', t, ht, hmove⟩ := ih (f := f') hline hrest (by simp [hfree])
      exact ⟨h ++ h', m'', f'', run.append run', undisturbed_append hc hc', t,
        List.mem_append_right _ ht, hmove⟩

end CanFinish

end SyncMachine

end LiveConfig
