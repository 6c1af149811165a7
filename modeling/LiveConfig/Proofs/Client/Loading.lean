import LiveConfig.Proofs.Client.Registration
import LiveConfig.Proofs.Sync.Wake
import LiveConfig.Scenario.Session

/-!
# Waiting for the first refresh

Who loads a namespace waits until the first refresh of its worker has ended. A worker that is
cancelled before it begins, that finishes, or that is told to stop later leaves nobody waiting. Only
a worker that is taken away before its first refresh has ended does, and then for ever.

## Main statements

- `SyncMachine.readiness_of_step`: what a move does to the worker and to those who wait.
- `ClientRun.loaded_iff_not_cut_short`: when those who wait for an ended worker go on.
-/

namespace LiveConfig

/-! ## §1 One namespace -/

/-- The first refresh of the worker lies before it or is under way. -/
def WorkerPhase.unready : WorkerPhase → Bool
  | .created | .initial => true
  | .idle | .busy | .stopped => false

namespace SyncMachine

variable {L : Type}

/-- What a move does to the worker and to those who wait for its first refresh. -/
inductive Readiness (m : SyncMachine L) (move : SyncMove L) (m' : SyncMachine L) : Prop
  /-- The worker is as ready as it was. -/
  | kept (hmove : move ≠ .abandon workerId) (hunready : m'.worker.unready = m.worker.unready)
      (hstopped : m'.worker = .stopped ↔ m.worker = .stopped)
      (hsame : m'.initialized = m.initialized)
  /-- A refresh of the worker has ended, or there is none to wait for. -/
  | ready (hmove : move ≠ .abandon workerId) (hlive : m.worker ≠ .stopped)
      (hidle : m'.worker = .idle) (hdone : m'.initialized = true)
  | finished (hmove : move ≠ .abandon workerId) (hidle : m.worker = .idle)
      (hstopped : m'.worker = .stopped) (hsame : m'.initialized = m.initialized)
  /-- The worker is taken away. -/
  | taken (hmove : move = .abandon workerId) (hstopped : m'.worker = .stopped)
      (hsame : m'.initialized = m.initialized)

variable {frame : SyncFrame L} {now : Instant} {m m' : SyncMachine L} {f f' : Files}
  {move : SyncMove L} {events : List (SyncEvent L)} {q : List Nat}

theorem initialized_letGo (caller : Nat) (m : SyncMachine L) :
    (m.letGo caller).initialized = (caller == workerId || m.initialized) := by
  unfold letGo workerAfter
  split
  · next h => simp [h]
  · next h => simp [h]

/-- A refresh that ends concerns those who wait only if it is the worker's. -/
theorem Readiness.of_letGo {a : ActiveRefresh L} {last : SyncMachine L} (hline : m.InLine q)
    (hactive : m.active = some a) (hworker : last.worker = m.worker)
    (hsame : last.initialized = m.initialized) (hmove : move ≠ .abandon workerId) :
    Readiness m move (last.letGo a.caller) := by
  by_cases hself : a.caller = workerId
  · have hrefreshing := hline.refreshing_of_active hactive hself
    refine .ready hmove (fun hstopped => ?_) ?_ ?_
    · rw [hstopped] at hrefreshing
      cases hrefreshing
    · rw [worker_letGo, if_pos hself]
    · simp [initialized_letGo, hself]
  · have hkept : (last.letGo a.caller).worker = m.worker := by
      rw [worker_letGo, if_neg hself, hworker]
    refine .kept hmove (by rw [hkept]) (by rw [hkept]) ?_
    simp [initialized_letGo, hself, hsame]

/-- **What a move does to the worker and to those who wait for its first refresh.** -/
theorem readiness_of_step (hm : m.Orderly) (step : m.Step frame now f move m' f' events) :
    Readiness m move m' := by
  obtain ⟨q, hq⟩ := hm
  cases step with
  | launch hcreated => exact .kept nofun (by rw [hcreated]; rfl) (by simp [hcreated]) rfl
  | launchCancelled hcreated => exact .ready nofun (by simp [hcreated]) rfl rfl
  | stop hidle => exact .finished nofun hidle rfl rfl
  | wakeUp hidle | tick hidle =>
    exact .kept nofun (by rw [hidle]; rfl) (by simp [hidle]) rfl
  | @answer _ _ _ _ _ _ remaining hactive =>
    -- Here and below the refresh ends only when nothing of it is left.
    cases remaining with
    | nothing => exact .of_letGo hq hactive rfl rfl nofun
    | saving | delivering => exact .kept nofun rfl Iff.rfl rfl
  | @gather _ changes _ hactive =>
    cases hleft : m.sync.view.listeners.concerned changes with
    | nil => exact .of_letGo hq hactive rfl rfl nofun
    | cons => exact .kept nofun rfl Iff.rfl rfl
  | @deliver _ _ _ left _ hactive =>
    cases left with
    | nil => exact .of_letGo hq hactive rfl rfl nofun
    | cons => exact .kept nofun rfl Iff.rfl rfl
  | @abandon caller =>
    by_cases hself : caller = workerId
    · subst hself
      exact .taken rfl rfl rfl
    · have hkept : (m.abandon caller).worker = m.worker := if_neg hself
      exact .kept (by simpa using hself) (by rw [hkept]) (by rw [hkept]) rfl
  | _ => exact .kept nofun rfl Iff.rfl rfl

end SyncMachine

namespace Simulation

open Scenario

/-! ## §2 One client -/

/-- Nobody needs to wait for the namespace with a number any more. -/
def World.loaded (sync : Nat) (w : World) : Bool :=
  ((w.machine? sync).map SyncMachine.initialized).getD true

/-- The worker of the namespace with a number is taken away before its first refresh has ended. -/
def ClientStep.CutsShort (sync : Nat) (s : ClientStep) : Prop :=
  s.move = .move sync (.abandon workerId)
    ∧ ∃ m, s.before.machine? sync = some m ∧ m.worker.unready = true

/-- **How a namespace stands to its past**: it is ready if its worker has got so far and nothing has
cut its first refresh short. -/
structure Accounted (h : List ClientStep) (n : Nat) (m : SyncMachine Script) : Prop where
  uncut : m.worker ≠ .stopped → ∀ s ∈ h, ¬s.CutsShort n
  initialized_iff : m.initialized = true ↔
    m.worker.unready = false ∧ ∀ s ∈ h, ¬s.CutsShort n

section Steps

variable {h : List ClientStep} {s : ClientStep} {n : Nat} {frame : SyncFrame Script}
  {now : Instant} {m m' : SyncMachine Script} {f f' : Files} {move : SyncMove Script}
  {events : List (SyncEvent Script)}

theorem not_cut_concat :
    (∀ t ∈ h ++ [s], ¬t.CutsShort n) ↔ (∀ t ∈ h, ¬t.CutsShort n) ∧ ¬s.CutsShort n := by
  simp [or_imp, forall_and]

theorem Accounted.concat (hm : Accounted h n m) (hs : ¬s.CutsShort n) :
    Accounted (h ++ [s]) n m := by
  refine ⟨fun hlive => not_cut_concat.2 ⟨hm.uncut hlive, hs⟩, ?_⟩
  rw [not_cut_concat, hm.initialized_iff]
  simp [hs]

theorem Accounted.step (hm : Accounted h n m) (horderly : m.Orderly)
    (step : m.Step frame now f move m' f' events)
    (hs : s.CutsShort n ↔ move = .abandon workerId ∧ m.worker.unready = true) :
    Accounted (h ++ [s]) n m' := by
  refine ⟨?_, ?_⟩ <;> rw [not_cut_concat, hs]
  · intro hlive
    cases SyncMachine.readiness_of_step horderly step with
    | kept hmove _ hstopped => exact ⟨hm.uncut fun h => hlive (hstopped.2 h), fun h => hmove h.1⟩
    | ready hmove hbefore => exact ⟨hm.uncut hbefore, fun h => hmove h.1⟩
    | finished _ _ hstopped | taken _ hstopped => exact absurd hstopped hlive
  · -- Only a worker that comes to rest changes the left side, and it has not been cut short.
    cases SyncMachine.readiness_of_step horderly step with
    | kept hmove hunready _ hsame =>
      rw [hsame, hunready, hm.initialized_iff]
      simp [hmove]
    | ready hmove hbefore hidle hdone =>
      have huncut := hm.uncut hbefore
      simpa [hdone, hidle, WorkerPhase.unready, hmove] using huncut
    | finished hmove hidle hstopped hsame =>
      rw [hsame, hstopped, hm.initialized_iff, hidle]
      simp [WorkerPhase.unready, hmove]
    | taken hmove hstopped hsame =>
      rw [hsame, hstopped, hm.initialized_iff]
      simp [WorkerPhase.unready, hmove, and_comm]

end Steps

namespace ClientRun

variable {w₀ w w' : World} {h h' : List ClientStep} {ns : String} {sync n : Nat}
  {m : SyncMachine Script}

theorem orderly (run : ClientRun w₀ h w) (hfresh : w₀.Fresh) (hm : w.machine? n = some m) :
    m.Orderly :=
  run.machine_invariant hfresh (SyncRun.orderly_start ..) SyncMachine.orderly_of_step hm

/-- **Every namespace stands to its past as it should**, and one that is not there has none. -/
theorem accounted (run : ClientRun w₀ h w) (hfresh : w₀.Fresh) (n : Nat) :
    (∀ m, w.machine? n = some m → Accounted h n m) ∧
      (w.machine? n = none → ∀ s ∈ h, ¬s.CutsShort n) := by
  induction run with
  | nil =>
    refine ⟨fun m hm => ?_, fun _ s hs => absurd hs List.not_mem_nil⟩
    simp [World.machine?, hfresh.machines_eq] at hm
  | @snoc h w w' move run step ih =>
    obtain ⟨hthere, hnone⟩ := ih
    have hbecomes : w.Becomes n move (w'.machine? n) := World.becomes_of_step step
    generalize w'.machine? n = after at hbecomes
    cases hbecomes with
    | kept hother =>
      -- Only a move of the namespace itself cuts its worker short.
      have hs : ¬ClientStep.CutsShort n ⟨move, w, w'⟩ := fun hcut => hother _ hcut.1
      exact ⟨fun m hm => (hthere m hm).concat hs,
        fun hgone => not_cut_concat.2 ⟨hnone hgone, hs⟩⟩
    | @moved m m' own f events hm hstep =>
      refine ⟨fun m₁ hm₁ => ?_, fun hgone => by cases hgone⟩
      cases hm₁
      refine (hthere m hm).step (run.orderly hfresh hm) hstep ?_
      simp [ClientStep.CutsShort, hm]
    | @told m m' own f events hm hstep =>
      refine ⟨fun m₁ hm₁ => ?_, fun hgone => by cases hgone⟩
      cases hm₁
      refine (hthere m hm).step (run.orderly hfresh hm) hstep ?_
      simp [ClientStep.CutsShort]
    | @made own _ _ hnew =>
      refine ⟨fun m₁ hm₁ => ?_, fun hgone => by cases hgone⟩
      cases hm₁
      have hs : ¬ClientStep.CutsShort n ⟨.lookUp own, w, w'⟩ := by simp [ClientStep.CutsShort]
      have hpast := not_cut_concat.2 ⟨hnone hnew, hs⟩
      refine ⟨fun _ => hpast, ?_⟩
      simp [SyncMachine.start, WorkerPhase.unready]

/-- Where the worker has ended, those who wait go on at once or never. -/
theorem loaded_of_stopped (run : ClientRun w h' w') (hm : w.machine? n = some m)
    (horderly : m.Orderly) (hstopped : m.worker = .stopped) :
    w'.loaded n = m.initialized := by
  -- A worker that has ended stays so, and nobody else lets those who wait go on.
  suffices hends : ∃ m', w'.machine? n = some m' ∧ m'.Orderly ∧ m'.worker = .stopped ∧
      m'.initialized = m.initialized by
    obtain ⟨m', hm', -, -, hsame⟩ := hends
    simp [World.loaded, hm', hsame]
  induction run with
  | nil => exact ⟨m, hm, horderly, hstopped, rfl⟩
  | @snoc _ w₁ w₂ move _ step ih =>
    obtain ⟨m₁, hm₁, horderly₁, hstopped₁, hsame₁⟩ := ih
    have hbecomes : w₁.Becomes n move (w₂.machine? n) := World.becomes_of_step step
    generalize w₂.machine? n = after at hbecomes
    cases hbecomes with
    | kept => exact ⟨m₁, hm₁, horderly₁, hstopped₁, hsame₁⟩
    | moved hbefore hstep | told hbefore hstep =>
      obtain rfl := Option.some.inj (hm₁.symm.trans hbefore)
      refine ⟨_, rfl, SyncMachine.orderly_of_step horderly₁ hstep, ?_⟩
      cases SyncMachine.readiness_of_step horderly₁ hstep with
      | kept _ _ hstays hsame => exact ⟨hstays.2 hstopped₁, hsame.trans hsame₁⟩
      | ready _ hlive => exact absurd hstopped₁ hlive
      | finished _ _ hstays hsame | taken _ hstays hsame => exact ⟨hstays, hsame.trans hsame₁⟩
    | made hnew =>
      rw [hm₁] at hnew
      cases hnew

theorem step_withNamespace {given : String} (h : w.obtain given = (.ok (ns, sync), w))
    (act : String → Nat → Client SessionResult) :
    (withNamespace given act).step w = .next w (act ns sync) := by
  unfold withNamespace
  change Activity.Step.next (w.obtain given).2 ((Activity.done (w.obtain given).1).bind _) = _
  rw [h]
  rfl

/-- A load of a registered namespace waits at once, until nobody needs to. -/
theorem step_load (hw : w.Sound) (hidle : w.registry.call? 0 = none) {given : String}
    (hname : Namespace.normalize given = .ok ns) (hfind : w.registry.find? ns = some sync)
    (state : SessionState) :
    ∃ rest, (SessionStep.act state (.load given)).step w = .next w rest
      ∧ ∀ now w', rest.runnable now w' = w'.loaded sync := by
  refine ⟨_, step_withNamespace (World.obtain_registered hw hidle hname hfind) _, ?_⟩
  exact fun now w' => Bool.or_false _

/-- **When those who load a namespace go on.** In every run of a client, whatever its namespaces
do: once the worker of a registered namespace has ended, everybody who waits for its first refresh
goes on, and so does everybody who loads it later, exactly if the worker was not taken away before
its first refresh had ended. Otherwise they wait for ever. -/
theorem loaded_iff_not_cut_short (run : ClientRun w₀ h w) (hfresh : w₀.Fresh)
    (hfind : w.registry.find? ns = some sync) :
    ∃ m, w.machine? sync = some m ∧ m.sync.ns = ns ∧ (m.worker = .stopped →
      (m.initialized = true ↔ ∀ s ∈ h, ¬s.CutsShort sync) ∧
      ∀ h' w', ClientRun w h' w' → w'.loaded sync = m.initialized ∧
        ∀ state given, Namespace.normalize given = .ok ns → w'.registry.call? 0 = none →
          ∃ rest, (SessionStep.act state (.load given)).step w' = .next w' rest ∧
            ∀ now h'' w'', ClientRun w' h'' w'' → rest.runnable now w'' = m.initialized) := by
  obtain ⟨m, hm, hns⟩ := run.exists_machine hfresh hfind
  have horderly := run.orderly hfresh hm
  have hinitialized := ((run.accounted hfresh sync).1 m hm).initialized_iff
  refine ⟨m, hm, hns, fun hstopped => ⟨?_, fun h' w' run' => ?_⟩⟩
  · rw [hinitialized, hstopped]
    simp [WorkerPhase.unready]
  · refine ⟨run'.loaded_of_stopped hm horderly hstopped, fun state given hname hidle => ?_⟩
    have hsound := (run.append run').sound (World.sound_of_fresh hfresh)
    obtain ⟨rest, hstep, hwaits⟩ :=
      step_load hsound hidle hname (run'.find?_mono hfind) state
    refine ⟨rest, hstep, fun now h'' w'' run'' => ?_⟩
    rw [hwaits]
    exact (run'.append run'').loaded_of_stopped hm horderly hstopped

/-- A worker is done with its first refresh, is cancelled, and ends. -/
theorem loaded_iff_not_cut_short_ended_worker :
    ∃ (h : List ClientStep) (w : World) (m : SyncMachine Script),
      ClientRun (World.ofConfig { appId := "demo" }) h w ∧ w.registry.find? "app" = some 0
        ∧ w.machine? 0 = some m ∧ m.worker = .stopped ∧ (∀ s ∈ h, ¬s.CutsShort 0)
        ∧ ∀ state, ∃ rest, (SessionStep.act state (.load "app")).step w = .next w rest
          ∧ ∀ now, rest.runnable now w = true := by
  obtain ⟨h, w, run, -, hseen⟩ := exists_of_play? (World.ofConfig { appId := "demo" })
    (ClientMove.settingUp "app" ++ [.move 0 .launch, .move 0 (.enter workerId), .move 0 .permit,
      .move 0 (.answer (.ok .notFound) {}), .move 0 .cancel, .move 0 .take])
    (fun seen => seen.2.registry.find? "app" == some 0
      && ((seen.2.machine? 0).map fun m => (m.worker, m.initialized)) == some (.stopped, true)
      && (seen.2.registry.call? 0).isNone)
    (by decide +kernel)
  simp only [Bool.and_eq_true, beq_iff_eq, Option.isNone_iff_eq_none] at hseen
  obtain ⟨⟨hfind, hended⟩, hidle⟩ := hseen
  obtain ⟨m, hm, -, hreturns⟩ := run.loaded_iff_not_cut_short (World.fresh_ofConfig _) hfind
  rw [hm, Option.map_some, Option.some.injEq, Prod.mk.injEq] at hended
  obtain ⟨hstopped, hinitialized⟩ := hended
  obtain ⟨hiff, hlater⟩ := hreturns hstopped
  refine ⟨h, w, m, run, hfind, hm, hstopped, hiff.1 hinitialized, fun state => ?_⟩
  obtain ⟨-, hload⟩ := hlater [] w .nil
  obtain ⟨rest, hstep, hgoes⟩ := hload state "app" (by decide +kernel) hidle
  exact ⟨rest, hstep, fun now => (hgoes now [] w .nil).trans hinitialized⟩

/-- **Whoever loads a namespace may wait for ever after a shutdown**: a shutdown cancels everything
while the first refresh is under way, and takes the worker away when the server has still not
answered. -/
theorem unloaded_after_shutdown :
    ∃ (h : List ClientStep) (before after : World),
      ClientRun (World.ofConfig { appId := "demo" }) h before
        ∧ after = before.cancel.drop (.worker 0) ∧ (∃ h', ClientRun before h' after)
        ∧ after.cancelled = true ∧ after.registry.entries = [("app", 0)]
        ∧ (after.machine? 0).map SyncMachine.worker = some .stopped
        ∧ (∀ h' w, ClientRun after h' w → w.loaded 0 = false)
        ∧ ∀ state, ∃ rest, (SessionStep.act state (.load "app")).step after = .next after rest
          ∧ ∀ now h' w, ClientRun after h' w → rest.runnable now w = false := by
  obtain ⟨h, before, run, -, hseen⟩ := exists_of_play? (World.ofConfig { appId := "demo" })
    (ClientMove.settingUp "app" ++ [.move 0 .launch, .move 0 (.enter workerId), .move 0 .permit])
    (fun seen =>
      let after := seen.2.cancel.drop (.worker 0)
      after.cancelled && after.registry.entries == [("app", 0)]
        && ((after.machine? 0).map fun m => (m.worker, m.initialized)) == some (.stopped, false)
        && (after.registry.call? 0).isNone)
    (by decide +kernel)
  simp only [Bool.and_eq_true, beq_iff_eq, Option.isNone_iff_eq_none] at hseen
  obtain ⟨⟨⟨hcancelled, hentries⟩, hended⟩, hidle⟩ := hseen
  -- The shutdown is a run itself, so that what runs keep holds after it.
  obtain ⟨h', run'⟩ := trans (cancel before) (drop (.worker 0) before.cancel)
  generalize hafter : before.cancel.drop (.worker 0) = after at *
  obtain ⟨m, hm, hstopped⟩ := Option.map_eq_some_iff.1 hended
  rw [Prod.mk.injEq] at hstopped
  have hwhole := run.append run'
  have horderly := hwhole.orderly (World.fresh_ofConfig _) hm
  have hnever (h' : List ClientStep) (w : World) (run' : ClientRun after h' w) :
      w.loaded 0 = false :=
    (run'.loaded_of_stopped hm horderly hstopped.1).trans hstopped.2
  refine ⟨h, before, after, run, hafter.symm, ⟨h', run'⟩, hcancelled, hentries, ?_, hnever,
    fun state => ?_⟩
  · rw [hm, Option.map_some, hstopped.1]
  · have hfind : after.registry.find? "app" = some 0 := by
      rw [Registry.find?, hentries]
      rfl
    have hname : Namespace.normalize "app" = .ok "app" := by decide +kernel
    have hsound := hwhole.sound (World.sound_of_fresh (World.fresh_ofConfig _))
    obtain ⟨rest, hstep, hwaits⟩ := step_load hsound hidle hname hfind state
    exact ⟨rest, hstep, fun now h' w run' => (hwaits now w).trans (hnever h' w run')⟩

end ClientRun

end Simulation

end LiveConfig
