import LiveConfig.Proofs.Sync.Course

/-!
# Refreshes that are given up

A caller may give up wherever he waits: for the lock, for a permit of the pool, for the server or
for the disk. Who waits for the lock has done nothing yet. A refresh under way has taken the
messages that were announced, and its snapshot is shown before the disk has answered; nothing of
that is taken back, and nobody finishes it.

## Main statements

- `SyncMachine.early_of_step`: what a refresh has not done before it comes to its listeners.
- `SyncRun.abandoned_atomic_iff`: when a refresh that is given up is undone or carried out.
- `SyncRun.abandoned_halfway`: it may be neither.
-/

namespace LiveConfig

open Messages

variable {L : Type}

/-! ## §1 Refreshes that have not come to their listeners -/

/-- No fetch ends. -/
def Unanswered (h : List (SyncStep L)) : Prop :=
  ∀ s ∈ h, ∀ result backoff, s.move ≠ .answer result backoff

/-- Where a refresh waits for somebody. -/
def RefreshPhase.Awaits : RefreshPhase L → Prop
  | .queued _ | .fetching _ | .saving .. => True
  | .committed .. | .delivering .. => False

/-- What a refresh that has the history `h` since it took the messages `taken` has left undone:
before its answer it holds these messages, and before the disk has answered it has told nobody. -/
def RefreshPhase.Early (taken : Option Messages) (h : List (SyncStep L)) : RefreshPhase L → Prop
  | .queued flight | .fetching flight =>
    flight.messages = taken ∧ Unanswered h ∧ ∀ id, received id h = []
  | .saving .. => ∀ id, received id h = []
  | .committed .. | .delivering .. => True

theorem RefreshPhase.Early.concat {taken : Option Messages} {h : List (SyncStep L)}
    {s : SyncStep L} {phase : RefreshPhase L} (hearly : phase.Early taken h)
    (hmove : ∀ result backoff, s.move ≠ .answer result backoff)
    (hcalls : ∀ id, calls id s.events = []) : phase.Early taken (h ++ [s]) := by
  have hreceived (hnone : ∀ id, received id h = []) (id : Nat) :
      received id (h ++ [s]) = [] := by
    rw [received_concat, hnone, hcalls, List.append_nil]
  cases phase with
  | queued | fetching =>
    obtain ⟨hmessages, hunanswered, hnone⟩ := hearly
    refine ⟨hmessages, ?_, hreceived hnone⟩
    intro t ht
    rcases List.mem_append.1 ht with ht | ht
    · exact hunanswered t ht
    · obtain rfl := List.mem_singleton.1 ht
      exact hmove
  | saving => exact hreceived hearly
  | committed | delivering => trivial

namespace SyncMachine

/-- What the refresh under way has left undone. -/
def Early (taken : Option Messages) (h : List (SyncStep L)) (m : SyncMachine L) : Prop :=
  ∀ a, m.active = some a → a.phase.Early taken h

variable {frame : SyncFrame L} {now : Instant} {m m' : SyncMachine L} {f f' : Files}
  {move : SyncMove L} {events : List (SyncEvent L)} {taken : Option Messages}
  {h : List (SyncStep L)}

theorem early_of_none (hidle : m.active = none) : m.Early taken h := forall_active_of_none hidle

theorem early_of_some {a : ActiveRefresh L} (hactive : m.active = some a)
    (hearly : a.phase.Early taken h) : m.Early taken h :=
  forall_active_of_some hactive hearly

/-- Whoever goes on to his listeners is not early any more, or has ended. -/
theorem early_tell {caller : Nat} {changes : ChangeSet} {left : List (Registration L)}
    {outcome : RefreshOutcome} : (m.tell caller changes left outcome).1.Early taken h := by
  cases left with
  | nil => exact early_of_none (active_letGo ..)
  | cons => exact early_of_some rfl trivial

theorem early_of_enter {caller : Nat} (step : m.Step frame now f (.enter caller) m' f' events) :
    m'.Early m.sync.pending [] := by
  cases step
  exact early_of_some rfl ⟨rfl, fun _ hs => absurd hs List.not_mem_nil, fun _ => rfl⟩

/-- **What a refresh has left undone** it goes on to leave undone until it is further, whoever moves
meanwhile. -/
theorem early_of_step (hm : m.Early taken h) (step : m.Step frame now f move m' f' events)
    (hmove : ∀ caller, move ≠ .enter caller) :
    m'.Early taken (h ++ [⟨now, move, m, m', f', events⟩]) := by
  -- Only its own moves bring a refresh further; every other leaves it where it is or takes it away.
  by_cases hrefreshes : move.refreshes = true
  · cases step with
    | enter => exact absurd rfl (hmove _)
    | permit hactive =>
      have hearly : RefreshPhase.Early .. := hm _ hactive
      exact early_of_some rfl (hearly.concat nofun fun _ => rfl)
    | @answer _ _ _ _ _ _ remaining hactive hanswer =>
      obtain ⟨-, -, hnone⟩ := hm _ hactive
      cases remaining with
      | nothing => exact early_of_none (active_letGo ..)
      | saving =>
        -- The answer is there, but nobody has been called.
        refine early_of_some rfl fun id => ?_
        rw [received_concat, hnone, calls_append, hanswer.calls_eq_nil, calls_proceed]
        rfl
      | delivering => exact early_of_some rfl trivial
    | saved => exact early_of_some rfl trivial
    | gather | deliver => exact early_tell
    | _ => cases hrefreshes
  · rw [Bool.not_eq_true] at hrefreshes
    obtain ⟨haside, rfl, -⟩ := aside_of_step step hrefreshes
    intro a ha
    rcases haside.active_eq with hsame | hdropped
    · have hother : ∀ result backoff, move ≠ .answer result backoff := by
        rintro result backoff rfl
        cases hrefreshes
      exact (hm a (hsame ▸ ha)).concat hother fun _ => rfl
    · rw [hdropped] at ha
      cases ha

end SyncMachine

theorem SyncRun.early {frame : SyncFrame L} {m₀ m : SyncMachine L} {f₀ f : Files}
    {h : List (SyncStep L)} {taken : Option Messages} (run : SyncRun frame m₀ f₀ h m f)
    (h₀ : m₀.Early taken []) (hnone : NoEnter h) : m.Early taken h := by
  induction run with
  | nil => exact h₀
  | snoc _ hstep ih =>
    obtain ⟨hnone, hlast⟩ := noEnter_append.1 hnone
    exact SyncMachine.early_of_step (ih hnone) (SyncMachine.step_of_step? hstep)
      (hlast _ (List.mem_singleton_self _))

/-! ## §2 What is left of a refresh -/

/-- The refresh that began with a step is undone: the same snapshot is shown as before, and at least
the messages that it has taken wait again. -/
structure Undone (e : SyncStep L) (m : SyncMachine L) : Prop where
  shown_eq : m.shown = e.before.shown
  waiting_le : ∀ k, highest? k e.before.waiting ≤ highest? k m.waiting

/-- The refresh that began with a step is carried out: what is shown has been delivered by its
fetch, and everybody who listens to what that changes has been told. -/
structure CarriedOut (e : SyncStep L) (since : List (SyncStep L)) (m : SyncMachine L) : Prop where
  delivered : Delivered m.shown since
  told : ∀ r ∈ m.sync.view.listeners.concerned (ChangeSet.diff e.before.shown m.shown),
    ChangeSet.diff e.before.shown m.shown ∈ received r.id since

/-- What spares a refresh that is given up from being left halfway: everything that it has taken was
announced again meanwhile, or nobody listens to what it has shown. -/
def RefreshPhase.Spared (m : SyncMachine L) : RefreshPhase L → Prop
  | .queued flight | .fetching flight =>
    ∀ k, highest? k flight.messages.toList ≤ highest? k m.waiting
  | .saving _ changes => m.sync.view.listeners.concerned changes = []
  | .committed .. | .delivering .. => True

section Left

variable {e : SyncStep L} {since : List (SyncStep L)} {m : SyncMachine L}

/-- Without an answer a refresh can only be undone, and is so if its messages wait. -/
theorem undone_or_carriedOut_of_unanswered (hshown : m.shown = e.before.shown)
    (hunanswered : Unanswered since) :
    Undone e m ∨ CarriedOut e since m
      ↔ ∀ k, highest? k e.before.waiting ≤ highest? k m.waiting := by
  constructor
  · rintro (hundone | hcarried)
    · exact hundone.waiting_le
    · obtain ⟨s, hs, backoff, hmove⟩ := hcarried.delivered
      exact absurd hmove (hunanswered s hs _ _)
  · intro hwaiting
    exact .inl ⟨hshown, hwaiting⟩

/-- A refresh that has shown what it fetched and told nobody is carried out if nobody listens. -/
theorem undone_or_carriedOut_of_untold (hdelivered : Delivered m.shown since)
    (hnone : ∀ id, received id since = []) :
    Undone e m ∨ CarriedOut e since m
      ↔ m.sync.view.listeners.concerned (ChangeSet.diff e.before.shown m.shown) = [] := by
  constructor
  · rintro (hundone | hcarried)
    · -- What is as before concerns nobody.
      have hempty : (ChangeSet.diff e.before.shown m.shown).isEmpty = true := by
        rw [hundone.shown_eq]
        exact ChangeSet.isEmpty_diff_iff.2 fun _ => rfl
      simp [Listeners.concerned, hempty]
    · rw [List.eq_nil_iff_forall_not_mem]
      intro r hr
      have htold := hcarried.told r hr
      rw [hnone] at htold
      exact List.not_mem_nil htold
  · intro hnobody
    refine .inr ⟨hdelivered, fun r hr => ?_⟩
    rw [hnobody] at hr
    exact absurd hr List.not_mem_nil

end Left

/-! ## §3 Giving up -/

namespace SyncMachine

variable (caller : Nat) (m : SyncMachine L)

@[simp] theorem shown_abandon : (m.abandon caller).shown = m.shown := rfl

@[simp] theorem waiting_abandon : (m.abandon caller).waiting = m.waiting := rfl

@[simp] theorem listeners_abandon :
    (m.abandon caller).sync.view.listeners = m.sync.view.listeners := rfl

/-- Who runs no refresh takes none away. -/
theorem active_abandon_of_ne (hother : ∀ phase, m.active ≠ some ⟨caller, phase⟩) :
    (m.abandon caller).active = m.active := by
  cases hactive : m.active with
  | none => simp [abandon, hactive]
  | some a =>
    obtain ⟨holder, phase⟩ := a
    have hne : holder ≠ caller := by
      rintro rfl
      exact hother phase hactive
    simp [abandon, hactive, hne]

end SyncMachine

namespace SyncRun

variable {frame : SyncFrame L} {m₀ m : SyncMachine L} {f₀ f : Files} {h : List (SyncStep L)}

/-- A refresh that waits has begun, and giving it up leaves it undone or carried out if and only if
it is spared. -/
theorem exists_spared_iff (run : SyncRun frame m₀ f₀ h m f) (h₀ : m₀.active = none) {caller : Nat}
    {phase : RefreshPhase L} (hactive : m.active = some ⟨caller, phase⟩) (hawaits : phase.Awaits) :
    ∃ (h₁ since : List (SyncStep L)) (e : SyncStep L), h = h₁ ++ e :: since
      ∧ e.move = .enter caller ∧ NoEnter since
      ∧ (Undone e (m.abandon caller) ∨ CarriedOut e since (m.abandon caller)
          ↔ phase.Spared m) := by
  obtain ⟨h₁, since, e, rfl, henter, hnone, hcourse⟩ := run.exists_course h₀ hactive
  -- The history is cut where the refresh began: what it has left undone counts from there.
  obtain ⟨g, run₁, begins⟩ := run.exists_before
  rw [henter] at begins
  have hearly := run.cut.2.early (SyncMachine.early_of_enter begins) hnone _ hactive
  have hcourse := hcourse _ hactive
  refine ⟨h₁, since, e, rfl, henter, hnone, ?_⟩
  cases phase with
  | queued flight | fetching flight =>
    -- Nothing is shown yet, so it is the messages that decide.
    obtain ⟨hmessages, hunanswered, -⟩ := hearly
    obtain ⟨-, hshown, -⟩ := hcourse
    have htaken : flight.messages.toList = e.before.waiting := congrArg Option.toList hmessages
    have hiff := undone_or_carriedOut_of_unanswered (m := m.abandon caller) hshown hunanswered
    rw [hiff, RefreshPhase.Spared, htaken]
    rfl
  | saving snapshot changes =>
    -- The snapshot is shown and cannot be taken back, so it is the listeners who decide.
    obtain ⟨-, rfl, hdelivered, -⟩ := hcourse
    exact undone_or_carriedOut_of_untold (m := m.abandon caller) hdelivered hearly
  | committed | delivering => cases hawaits

/-- **When giving up is atomic.** In every state that a run leads to: who gives up without a refresh
of his own leaves what is shown, what waits and the refresh under way as they are. Who gives up a
refresh while it waits for the pool, the server or the disk leaves it undone or carried out if and
only if it is spared: before its answer, if the messages that it took when it began were announced
again; after its answer, if nobody listens to what it has shown. -/
theorem abandoned_atomic_iff {ns : String} {now : Instant}
    (run : SyncRun frame (SyncMachine.start frame.setting f₀ ns now).1 f₀ h m f) (caller : Nat) :
    ((∀ phase, m.active ≠ some ⟨caller, phase⟩) →
        (m.abandon caller).shown = m.shown ∧ (m.abandon caller).waiting = m.waiting
          ∧ (m.abandon caller).active = m.active)
      ∧ ∀ phase, m.active = some ⟨caller, phase⟩ → phase.Awaits →
        ∃ (h₁ since : List (SyncStep L)) (e : SyncStep L), h = h₁ ++ e :: since
          ∧ e.move = .enter caller ∧ NoEnter since
          ∧ (Undone e (m.abandon caller) ∨ CarriedOut e since (m.abandon caller)
              ↔ phase.Spared m) := by
  refine ⟨fun hother => ⟨rfl, rfl, m.active_abandon_of_ne caller hother⟩, ?_⟩
  intro phase hactive hawaits
  exact run.exists_spared_iff rfl hactive hawaits

/-- What a refresh had taken was announced again, so nothing is lost when it is given up. -/
theorem abandoned_atomic_iff_announced_again :
    ∃ (h₁ since : List (SyncStep Unit)) (e : SyncStep Unit) (m : SyncMachine Unit) (f : Files),
      SyncRun .plain (SyncMachine.start SyncFrame.plain.setting {} "app" 0).1 {}
          (h₁ ++ e :: since) m f
        ∧ e.move = .enter 1 ∧ (∃ flight, m.active = some ⟨1, .fetching flight⟩)
        ∧ (Undone e (m.abandon 1) ∨ CarriedOut e since (m.abandon 1)) := by
  let flight : Flight := ⟨some (.ofList [("m", 7)]), .empty "app"⟩
  have hplayed := SyncRun.exists_of_play? .plain
    (SyncMachine.start SyncFrame.plain.setting {} "app" 0).1 {}
    [(0, .announce flight.messages), (0, .call 1), (0, .enter 1), (0, .permit),
      (0, .announce flight.messages)]
    (fun seen => seen.2.1.active == some ⟨1, .fetching flight⟩
      && seen.2.1.sync.pending == flight.messages)
    (by decide)
  obtain ⟨h, m, f, run, -, hseen⟩ := hplayed
  simp only [Bool.and_eq_true, beq_iff_eq] at hseen
  obtain ⟨hactive, hpending⟩ := hseen
  have hspared : RefreshPhase.Spared m (.fetching flight) := by
    intro k
    rw [SyncMachine.waiting, hpending]
    exact id_le_rfl
  obtain ⟨-, hwaits⟩ := run.abandoned_atomic_iff 1
  obtain ⟨h₁, since, e, rfl, henter, -, hiff⟩ := hwaits _ hactive trivial
  exact ⟨h₁, since, e, m, f, run, henter, ⟨flight, hactive⟩, hiff.2 hspared⟩

/-- **Giving up leaves things halfway**: a refresh that is given up during its fetch takes the
announced messages with it, and one that is given up while the disk works has shown a release that
nobody who listens is told about. -/
theorem abandoned_halfway :
    (∃ (h₁ since : List (SyncStep Unit)) (e : SyncStep Unit) (m : SyncMachine Unit) (f : Files),
      SyncRun .plain (SyncMachine.start SyncFrame.plain.setting {} "app" 0).1 {}
          (h₁ ++ e :: since) m f
        ∧ e.move = .enter 1 ∧ NoEnter since ∧ (∃ flight, m.active = some ⟨1, .fetching flight⟩)
        ∧ ¬(Undone e (m.abandon 1) ∨ CarriedOut e since (m.abandon 1)))
      ∧ ∃ (h₁ since : List (SyncStep Unit)) (e : SyncStep Unit) (m : SyncMachine Unit) (f : Files),
        SyncRun .plain (SyncMachine.start SyncFrame.plain.setting {} "app" 0).1 {}
            (h₁ ++ e :: since) m f
          ∧ e.move = .enter 1 ∧ NoEnter since
          ∧ (∃ snapshot changes, m.active = some ⟨1, .saving snapshot changes⟩)
          ∧ ¬(Undone e (m.abandon 1) ∨ CarriedOut e since (m.abandon 1)) := by
  constructor
  · let flight : Flight := ⟨some (.ofList [("m", 7)]), .empty "app"⟩
    have hplayed := SyncRun.exists_of_play? .plain
      (SyncMachine.start SyncFrame.plain.setting {} "app" 0).1 {}
      [(0, .announce flight.messages), (0, .call 1), (0, .enter 1), (0, .permit)]
      (fun seen => seen.2.1.active == some ⟨1, .fetching flight⟩ && seen.2.1.sync.pending == none)
      (by decide)
    obtain ⟨h, m, f, run, -, hseen⟩ := hplayed
    simp only [Bool.and_eq_true, beq_iff_eq] at hseen
    obtain ⟨hactive, hpending⟩ := hseen
    have hlost : ¬RefreshPhase.Spared m (.fetching flight) := by
      intro hspared
      have hwaits := hspared "m"
      have htaken : highest? "m" flight.messages.toList = some 7 := by decide
      rw [SyncMachine.waiting, hpending, htaken] at hwaits
      simp at hwaits
    obtain ⟨h₁, since, e, rfl, henter, hnone, hiff⟩ :=
      run.exists_spared_iff rfl hactive trivial
    exact ⟨h₁, since, e, m, f, run, henter, hnone, ⟨flight, hactive⟩, fun h => hlost (hiff.1 h)⟩
  · let release : Snapshot := ⟨"app", some "1", .remote, .ofList [("a", "x")]⟩
    let changes := ChangeSet.diff (.empty "app") release
    have hplayed := SyncRun.exists_of_play? .plain
      (SyncMachine.start SyncFrame.plain.setting {} "app" 0).1 {}
      [(0, .subscribe () {}), (0, .call 1), (0, .enter 1), (0, .permit),
        (0, .answer (.ok (.updated release)) {})]
      (fun seen => seen.2.1.active == some ⟨1, .saving release changes⟩
        && seen.2.1.sync.view.listeners.concerned changes != [])
      (by decide)
    obtain ⟨h, m, f, run, -, hseen⟩ := hplayed
    simp only [Bool.and_eq_true, beq_iff_eq, bne_iff_ne] at hseen
    obtain ⟨hactive, hconcerned⟩ := hseen
    obtain ⟨h₁, since, e, rfl, henter, hnone, hiff⟩ :=
      run.exists_spared_iff rfl hactive trivial
    exact ⟨h₁, since, e, m, f, run, henter, hnone, ⟨release, changes, hactive⟩,
      fun h => hconcerned (hiff.1 h)⟩

end SyncRun

end LiveConfig
