import LiveConfig.Proofs.Fetch.Results
import LiveConfig.Proofs.Sync.Announcements
import LiveConfig.Proofs.Sync.Delivery

/-!
# The course of a refresh

What a refresh has done since it began, read off the phase in which it stands. Whoever else moves
meanwhile, one refresh runs at a time, so everything that happens to the view and to the files
between its beginning and its end is its own doing; only the disk may still finish what a refresh
that was given up had asked for.

## Main statements

- `SyncMachine.aside_of_step`: a move that is none of the refresh's own changes nothing of it.
- `SyncMachine.course_of_step`: what a refresh has done stays true.
- `SyncRun.exists_course`: for every refresh under way there is the step with which it began.
-/

namespace LiveConfig

variable {L : Type}

/-! ## §1 Stretches of a history -/

/-- No refresh begins. -/
def NoEnter (h : List (SyncStep L)) : Prop := ∀ s ∈ h, ∀ caller, s.move ≠ .enter caller

/-- A snapshot stays shown, and nobody is called. -/
def Silent (shown : Snapshot) (h : List (SyncStep L)) : Prop :=
  ∀ s ∈ h, s.after.shown = shown ∧ ∀ id, calls id s.events = []

/-- The files after a history. -/
def filesAfter (f : Files) (h : List (SyncStep L)) : Files := h.foldl (fun _ s => s.files) f

/-- Nothing is written, unless the disk does what a refresh that was given up had asked for. -/
def Untouched : Files → List (SyncStep L) → Prop
  | _, [] => True
  | f, s :: rest => ((∀ fault, s.move ≠ .settled fault) → s.files = f) ∧ Untouched s.files rest

/-- Every fetch ended as fetches of the namespace end. -/
def Fetched (c : FetchConfig) (ns : String) (h : List (SyncStep L)) : Prop :=
  ∀ s ∈ h, ∀ result backoff, s.move = .answer result backoff → c.Yields ns result

/-- Which fetches have ended can be read off the moves. -/
theorem fetched_iff_moves {c : FetchConfig} {ns : String} {h : List (SyncStep L)} :
    Fetched c ns h ↔ ∀ move ∈ h.map SyncStep.move, ∀ result backoff,
      move = .answer result backoff → c.Yields ns result := by
  simp [Fetched]

section Stretches

variable {h h' : List (SyncStep L)} {s : SyncStep L} {f : Files} {shown : Snapshot}

theorem noEnter_iff_moves :
    NoEnter h ↔ ∀ move ∈ h.map SyncStep.move, ∀ caller, move ≠ .enter caller := by
  simp [NoEnter]

theorem noEnter_append : NoEnter (h ++ h') ↔ NoEnter h ∧ NoEnter h' := List.forall_mem_append

theorem silent_append : Silent shown (h ++ h') ↔ Silent shown h ∧ Silent shown h' :=
  List.forall_mem_append

theorem silent_concat (hsilent : Silent shown h) (hshown : s.after.shown = shown)
    (hcalls : ∀ id, calls id s.events = []) : Silent shown (h ++ [s]) := by
  refine silent_append.2 ⟨hsilent, fun t ht => ?_⟩
  obtain rfl := List.mem_singleton.1 ht
  exact ⟨hshown, hcalls⟩

@[simp] theorem filesAfter_concat : filesAfter f (h ++ [s]) = s.files := by
  simp [filesAfter]

theorem untouched_append :
    Untouched f (h ++ h') ↔ Untouched f h ∧ Untouched (filesAfter f h) h' := by
  induction h generalizing f with
  | nil => simp [Untouched, filesAfter]
  | cons s rest ih =>
    rw [List.cons_append, Untouched, Untouched, ih, and_assoc]
    rfl

theorem untouched_concat : Untouched f (h ++ [s])
    ↔ Untouched f h ∧ ((∀ fault, s.move ≠ .settled fault) → s.files = filesAfter f h) := by
  rw [untouched_append]
  simp [Untouched]

/-- Where the disk has nothing to finish, untouched files are the same. -/
theorem filesAfter_of_untouched (huntouched : Untouched f h)
    (hsettled : ∀ s ∈ h, ∀ fault, s.move ≠ .settled fault) : filesAfter f h = f := by
  induction h generalizing f with
  | nil => rfl
  | cons s rest ih =>
    have hfiles : s.files = f := huntouched.1 (hsettled s List.mem_cons_self)
    have hrest := ih huntouched.2 fun t ht => hsettled t (List.mem_cons_of_mem s ht)
    exact hrest.trans hfiles

theorem SyncRun.filesAfter_eq {frame : SyncFrame L} {m₀ m : SyncMachine L} {f₀ : Files}
    (run : SyncRun frame m₀ f₀ h m f) : filesAfter f₀ h = f := by
  cases run with
  | nil => rfl
  | snoc => exact filesAfter_concat

end Stretches

/-! ## §2 Moves beside a refresh -/

/-- Whether a move is one with which a refresh goes on. -/
def SyncMove.refreshes : SyncMove L → Bool
  | .enter _ | .permit | .answer _ _ | .saved _ | .gather | .deliver => true
  | _ => false

namespace SyncMachine

variable {frame : SyncFrame L} {now : Instant} {m m' : SyncMachine L} {f f' : Files}
  {move : SyncMove L} {events : List (SyncEvent L)}

/-- What a move leaves as it is that belongs to no refresh; it may drop the refresh under way. -/
structure Aside (m m' : SyncMachine L) : Prop where
  active_eq : m'.active = m.active ∨ m'.active = none
  shown_eq : m'.shown = m.shown
  ns_eq : m'.sync.ns = m.sync.ns
  lastConfirmed_eq : m'.sync.lastConfirmed = m.sync.lastConfirmed

/-- **A move that is none of the refresh's own** changes nothing of it, and shows nothing. -/
theorem aside_of_step (step : m.Step frame now f move m' f' events)
    (hmove : move.refreshes = false) :
    Aside m m' ∧ events = [] ∧ ((∀ fault, move ≠ .settled fault) → f' = f) := by
  cases step with
  | enter | permit | answer | saved | gather | deliver => cases hmove
  | announce => exact ⟨⟨.inl rfl, by simp [shown], by simp, by simp⟩, rfl, fun _ => rfl⟩
  | @abandon caller =>
    have hactive : (m.abandon caller).active = m.active ∨ (m.abandon caller).active = none := by
      cases hrefresh : m.active with
      | none => simp [abandon, hrefresh]
      | some a => by_cases hown : a.caller = caller <;> simp [abandon, hrefresh, hown]
    exact ⟨⟨hactive, rfl, rfl, rfl⟩, rfl, fun _ => rfl⟩
  | settled => exact ⟨⟨.inl rfl, rfl, rfl, rfl⟩, rfl, fun h => absurd rfl (h _)⟩
  | _ => exact ⟨⟨.inl rfl, rfl, rfl, rfl⟩, rfl, fun _ => rfl⟩

end SyncMachine

/-! ## §3 What a refresh has done -/

/-- The files after the disk was asked to save a snapshot. -/
def SyncSetting.filesSaved (setting : SyncSetting) (fault : Option CacheStore.Fault) (ns : String)
    (snapshot : Snapshot) (f : Files) : Files :=
  match setting.cache with
  | none => f
  | some c => (c.saveWith fault f ns snapshot).1

theorem Sync.files_save (setting : SyncSetting) (fault : Option CacheStore.Fault)
    (snapshot : Snapshot) (f : Files) (s : Sync L) :
    (s.save setting fault snapshot f).1 = setting.filesSaved fault s.ns snapshot f := by
  cases hcache : setting.cache with
  | none => simp only [Sync.save, SyncSetting.filesSaved, hcache]
  | some c =>
    simp only [Sync.save, SyncSetting.filesSaved, hcache]
    split <;> simp_all

/-- A fetch has delivered a snapshot. -/
def Delivered (snapshot : Snapshot) (h : List (SyncStep L)) : Prop :=
  ∃ s ∈ h, ∃ backoff, s.move = .answer (.ok (.updated snapshot)) backoff

/-- A release was fetched and then saved, and what was saved is still on disk. -/
def Stored (setting : SyncSetting) (ns : String) (f : Files) (snapshot : Snapshot)
    (h : List (SyncStep L)) : Prop :=
  ∃ h₁ s h₂ fault, h = h₁ ++ s :: h₂ ∧ Delivered snapshot h₁ ∧ Untouched f h₁
    ∧ s.move = .saved fault ∧ s.files = setting.filesSaved fault ns snapshot (filesAfter f h₁)
    ∧ Untouched s.files h₂

/-- A fetch failed, and what was shown gave way to an empty snapshot. -/
def Emptied (ns : String) (f : Files) (shown : Snapshot) (h : List (SyncStep L)) : Prop :=
  shown = .empty ns ∧ Untouched f h
    ∧ ∃ s ∈ h, (∃ e backoff, s.move = .answer (.error e) backoff)
      ∧ .observed (.fallbackExpired ns) ∈ s.events

/-- A refresh has replaced `first`, and its outcome says why: it has stored a release, or it has
failed. -/
def Replaced (setting : SyncSetting) (ns : String) (first : Snapshot) (f : Files)
    (h : List (SyncStep L)) (shown : Snapshot) (changes : ChangeSet) (outcome : RefreshOutcome) :
    Prop :=
  changes = ChangeSet.diff first shown
    ∧ ((∃ n, outcome = .updated n) ∧ Stored setting ns f shown h
      ∨ outcome = .failed ∧ Emptied ns f shown h)

/-- **What a refresh has done** to come to a phase, if `first` was shown when it began and `f` was
on disk: nothing before its answer; afterwards it has replaced what was shown, saved a release, and
goes on to tell what has changed. -/
def RefreshPhase.Course (setting : SyncSetting) (ns : String) (first : Snapshot) (f : Files)
    (h : List (SyncStep L)) (shown : Snapshot) : RefreshPhase L → Prop
  | .queued flight | .fetching flight =>
    flight.previous = first ∧ shown = first ∧ Silent first h ∧ Untouched f h
  | .saving snapshot changes =>
    snapshot = shown ∧ changes = ChangeSet.diff first shown ∧ Delivered shown h ∧ Untouched f h
  | .committed changes outcome | .delivering changes _ outcome =>
    Replaced setting ns first f h shown changes outcome

section Extend

variable {setting : SyncSetting} {ns : String} {first shown : Snapshot} {f : Files}
  {h : List (SyncStep L)} {s : SyncStep L}

theorem Delivered.concat (hd : Delivered shown h) : Delivered shown (h ++ [s]) := by
  obtain ⟨t, ht, hmove⟩ := hd
  exact ⟨t, List.mem_append_left _ ht, hmove⟩

theorem Stored.concat (hs : Stored setting ns f shown h)
    (hfiles : (∀ fault, s.move ≠ .settled fault) → s.files = filesAfter f h) :
    Stored setting ns f shown (h ++ [s]) := by
  obtain ⟨h₁, d, h₂, fault, rfl, hdelivered, hbefore, hmove, hsaved, hafter⟩ := hs
  refine ⟨h₁, d, h₂ ++ [s], fault, by simp, hdelivered, hbefore, hmove, hsaved, ?_⟩
  refine untouched_concat.2 ⟨hafter, fun hsettled => ?_⟩
  rw [hfiles hsettled]
  simp [filesAfter]

theorem Emptied.concat (he : Emptied ns f shown h)
    (hfiles : (∀ fault, s.move ≠ .settled fault) → s.files = filesAfter f h) :
    Emptied ns f shown (h ++ [s]) := by
  obtain ⟨hempty, huntouched, t, ht, hexpired⟩ := he
  exact ⟨hempty, untouched_concat.2 ⟨huntouched, hfiles⟩, t, List.mem_append_left _ ht, hexpired⟩

theorem Replaced.concat {changes : ChangeSet} {outcome : RefreshOutcome}
    (hr : Replaced setting ns first f h shown changes outcome)
    (hfiles : (∀ fault, s.move ≠ .settled fault) → s.files = filesAfter f h) :
    Replaced setting ns first f (h ++ [s]) shown changes outcome := by
  obtain ⟨hchanges, ⟨hupdated, hstored⟩ | ⟨hfailed, hemptied⟩⟩ := hr
  · exact ⟨hchanges, .inl ⟨hupdated, hstored.concat hfiles⟩⟩
  · exact ⟨hchanges, .inr ⟨hfailed, hemptied.concat hfiles⟩⟩

/-- A step that shows nothing and writes nothing leaves a refresh where it stands. -/
theorem RefreshPhase.Course.concat {phase : RefreshPhase L}
    (hcourse : phase.Course setting ns first f h shown) (hshown : s.after.shown = shown)
    (hcalls : ∀ id, calls id s.events = [])
    (hfiles : (∀ fault, s.move ≠ .settled fault) → s.files = filesAfter f h) :
    phase.Course setting ns first f (h ++ [s]) shown := by
  cases phase with
  | queued | fetching =>
    obtain ⟨hprevious, hfirst, hsilent, huntouched⟩ := hcourse
    exact ⟨hprevious, hfirst, silent_concat hsilent (hshown.trans hfirst) hcalls,
      untouched_concat.2 ⟨huntouched, hfiles⟩⟩
  | saving =>
    obtain ⟨hsnapshot, hchanges, hdelivered, huntouched⟩ := hcourse
    exact ⟨hsnapshot, hchanges, hdelivered.concat, untouched_concat.2 ⟨huntouched, hfiles⟩⟩
  | committed | delivering => exact Replaced.concat hcourse hfiles

end Extend

namespace SyncMachine

/-- What the refresh under way has done, if there is one. -/
def Course (setting : SyncSetting) (ns : String) (first : Snapshot) (f : Files)
    (h : List (SyncStep L)) (m : SyncMachine L) : Prop :=
  ∀ a, m.active = some a → a.phase.Course setting ns first f h m.shown

section Parts

variable {setting : SyncSetting} {ns : String} {first : Snapshot} {f : Files}
  {h : List (SyncStep L)} {m : SyncMachine L} {a : ActiveRefresh L} {caller : Nat}

theorem course_of_none (hidle : m.active = none) : m.Course setting ns first f h :=
  forall_active_of_none hidle

theorem course_of_some (hactive : m.active = some a)
    (hcourse : a.phase.Course setting ns first f h m.shown) : m.Course setting ns first f h :=
  forall_active_of_some hactive hcourse

theorem course_tell {changes : ChangeSet} {left : List (Registration L)} {outcome : RefreshOutcome}
    (hr : Replaced setting ns first f h m.shown changes outcome) :
    (m.tell caller changes left outcome).1.Course setting ns first f h := by
  cases left with
  | nil => exact course_of_none (active_letGo ..)
  | cons => exact course_of_some rfl hr

end Parts

variable {frame : SyncFrame L} {now : Instant} {m m' : SyncMachine L} {f f' g : Files}
  {move : SyncMove L} {events : List (SyncEvent L)} {first : Snapshot} {h : List (SyncStep L)}

/-- **What a refresh has done stays true**, whoever moves, until another one begins. -/
theorem course_of_step (hm : m.Course frame.setting m.sync.ns first g h)
    (hfiles : filesAfter g h = f) (step : m.Step frame now f move m' f' events)
    (hmove : ∀ caller, move ≠ .enter caller) :
    m'.Course frame.setting m.sync.ns first g (h ++ [⟨now, move, m, m', f', events⟩]) := by
  by_cases hrefreshes : move.refreshes = true
  · -- The refresh itself goes on.
    cases step with
    | enter => exact absurd rfl (hmove _)
    | permit hactive =>
      have hcourse : RefreshPhase.Course .. := hm _ hactive
      exact course_of_some rfl (hcourse.concat rfl (fun _ => rfl) fun _ => hfiles.symm)
    | answer hactive hanswer =>
      obtain ⟨-, hfirst, hsilent, huntouched⟩ := hm _ hactive
      have hkept {s : SyncStep L} (hs : s.files = f) : Untouched g (h ++ [s]) :=
        untouched_concat.2 ⟨huntouched, fun _ => hs.trans hfiles.symm⟩
      cases hanswer with
      | released =>
        refine course_of_some rfl ⟨rfl, ?_, ⟨_, List.mem_concat_self, _, rfl⟩, hkept rfl⟩
        rw [← hfirst]
        rfl
      | expired =>
        refine course_of_some rfl ⟨?_, .inr ⟨rfl, rfl, hkept rfl, _, List.mem_concat_self,
          ⟨_, _, rfl⟩, by simp⟩⟩
        rw [← hfirst]
        rfl
      -- Whatever else the answer is, the refresh has ended.
      | _ => exact course_of_none (active_letGo ..)
    | saved hactive =>
      obtain ⟨rfl, hchanges, hdelivered, huntouched⟩ := hm _ hactive
      refine course_of_some rfl ⟨hchanges, .inl ⟨⟨_, rfl⟩, h, _, [], _, rfl, hdelivered, huntouched,
        rfl, ?_, trivial⟩⟩
      rw [Sync.files_save, hfiles]
      rfl
    | gather hactive =>
      have hr : Replaced .. := hm _ hactive
      exact course_tell (hr.concat fun _ => hfiles.symm)
    | deliver hactive =>
      have hr : Replaced .. := hm _ hactive
      exact course_tell (hr.concat fun _ => hfiles.symm)
    | _ => cases hrefreshes
  · -- Somebody else moves, which leaves the refresh where it stands, or gives it up.
    rw [Bool.not_eq_true] at hrefreshes
    obtain ⟨haside, rfl, hkept⟩ := aside_of_step step hrefreshes
    intro a ha
    rcases haside.active_eq with hsame | hdropped
    · have hcourse := hm a (hsame ▸ ha)
      rw [haside.shown_eq]
      exact hcourse.concat haside.shown_eq (fun _ => rfl) fun hsettled =>
        (hkept hsettled).trans hfiles.symm
    · rw [hdropped] at ha
      cases ha

theorem course_of_enter {caller : Nat} (step : m.Step frame now f (.enter caller) m' f' events) :
    m'.Course frame.setting m.sync.ns m.shown f' [] := by
  cases step
  exact course_of_some rfl ⟨rfl, rfl, fun _ hs => absurd hs List.not_mem_nil, trivial⟩

/-- A refresh under way was under way before the move, unless it begins with it. -/
theorem active_of_step (step : m.Step frame now f move m' f' events)
    (hmove : ∀ caller, move ≠ .enter caller) {a : ActiveRefresh L} (ha : m'.active = some a) :
    ∃ b, m.active = some b ∧ b.caller = a.caller := by
  by_cases hrefreshes : move.refreshes = true
  · cases step with
    | enter => exact absurd rfl (hmove _)
    | permit hactive =>
      cases ha
      exact ⟨_, hactive, rfl⟩
    | @answer _ _ _ _ _ _ remaining hactive =>
      cases remaining with
      | nothing => simp [proceed] at ha
      | saving | delivering =>
        cases ha
        exact ⟨_, hactive, rfl⟩
    | saved hactive =>
      cases ha
      exact ⟨_, hactive, rfl⟩
    | @gather _ changes _ hactive =>
      cases hleft : m.sync.view.listeners.concerned changes with
      | nil => simp [hleft, tell] at ha
      | cons =>
        rw [hleft] at ha
        cases ha
        exact ⟨_, hactive, rfl⟩
    | @deliver _ _ _ left _ hactive =>
      cases left with
      | nil => simp [tell] at ha
      | cons =>
        cases ha
        exact ⟨_, hactive, rfl⟩
    | _ => cases hrefreshes
  · rw [Bool.not_eq_true] at hrefreshes
    obtain ⟨haside, -, -⟩ := aside_of_step step hrefreshes
    rcases haside.active_eq with hsame | hdropped
    · exact ⟨a, hsame ▸ ha, rfl⟩
    · rw [hdropped] at ha
      cases ha

theorem ns_of_step (step : m.Step frame now f move m' f' events) : m'.sync.ns = m.sync.ns := by
  by_cases hrefreshes : move.refreshes = true
  · cases step with
    | answer _ hanswer =>
      rw [sync_proceed]
      cases hanswer <;> simp [Sync.confirmed, Sync.notFound]
    | gather => rw [sync_tell]
    | deliver =>
      rw [sync_tell]
      rfl
    | enter | permit | saved => rfl
    | _ => cases hrefreshes
  · rw [Bool.not_eq_true] at hrefreshes
    exact (aside_of_step step hrefreshes).1.ns_eq

end SyncMachine

/-! ## §4 Runs -/

theorem SyncMachine.ns_start (setting : SyncSetting) (f : Files) (ns : String) (now : Instant) :
    (SyncMachine.start (L := L) setting f ns now).1.sync.ns = ns := by
  unfold SyncMachine.start Sync.start
  dsimp only
  split <;> rfl

theorem SyncMachine.lastConfirmed_start (setting : SyncSetting) (f : Files) (ns : String)
    (now : Instant) :
    (SyncMachine.start (L := L) setting f ns now).1.sync.lastConfirmed = now := by
  unfold SyncMachine.start Sync.start
  dsimp only
  split <;> rfl

/-- Whose refresh has ended, and how. -/
def SyncEvent.outcome? : SyncEvent L → Option (Nat × RefreshOutcome)
  | .ended caller outcome => some (caller, outcome)
  | _ => none

theorem SyncEvent.outcome?_eq_some_iff {e : SyncEvent L} {caller : Nat} {outcome : RefreshOutcome} :
    e.outcome? = some (caller, outcome) ↔ e = .ended caller outcome := by
  cases e <;> simp [outcome?]

/-- Releases are saved right below the top, and listeners do nothing but listen. -/
def SyncFrame.stored : SyncFrame Unit where
  setting := { cache := some ⟨[], "", "demo", "default"⟩ }
  react _ _ := {}

/-- Entries are kept in the order in which they are sent. -/
def FetchConfig.demo : FetchConfig := { appId := "demo", cluster := "default", keepOrder := true }

/-- Moves in front of a refresh, its beginning, what it does and how it ends: a run that plays them
can be cut in the same way. -/
theorem SyncRun.exists_refresh_of_play? (frame : SyncFrame L) (m : SyncMachine L) (f : Files)
    (front between : List (Instant × SyncMove L)) (begins ends : Instant × SyncMove L)
    (seen : List (SyncStep L) × SyncMachine L × Files → Bool)
    (h : (m.play? frame f (front ++ begins :: between ++ [ends])).any seen = true) :
    ∃ h₁ since e t m' f', SyncRun frame m f (h₁ ++ e :: since ++ [t]) m' f'
      ∧ h₁.map SyncStep.move = front.map Prod.snd ∧ e.move = begins.2
      ∧ since.map SyncStep.move = between.map Prod.snd ∧ t.move = ends.2
      ∧ seen (h₁ ++ e :: since ++ [t], m', f') = true := by
  obtain ⟨h, m', f', run, hmoves, hseen⟩ := SyncRun.exists_of_play? frame m f _ seen h
  simp only [List.map_append, List.map_cons, List.map_nil, List.map_eq_append_iff,
    List.map_eq_cons_iff, List.map_eq_nil_iff] at hmoves
  obtain ⟨_, _, rfl, ⟨h₁, _, rfl, hfront, e, since, rfl, henter, hsince⟩, t, _, rfl, hends, rfl⟩ :=
    hmoves
  exact ⟨h₁, since, e, t, m', f', run, hfront, henter, hsince, hends, hseen⟩

namespace SyncRun

variable {frame : SyncFrame L} {m₀ m : SyncMachine L} {f₀ f : Files} {h : List (SyncStep L)}

theorem ns_eq (run : SyncRun frame m₀ f₀ h m f) : m.sync.ns = m₀.sync.ns :=
  run.invariant (P := fun m => m.sync.ns = m₀.sync.ns) rfl fun hm step =>
    (SyncMachine.ns_of_step step).trans hm

/-- A run can be cut in front of any of its steps. -/
theorem exists_before {h₁ h₂ : List (SyncStep L)} {s : SyncStep L}
    (run : SyncRun frame m₀ f₀ (h₁ ++ s :: h₂) m f) :
    ∃ g, SyncRun frame m₀ f₀ h₁ s.before g
      ∧ s.before.Step frame s.moment g s.move s.after s.files s.events := by
  have hcut := run.cut.1
  generalize hh : h₁ ++ [s] = h at hcut
  cases hcut with
  | nil => simp at hh
  | snoc front hstep =>
    obtain ⟨rfl, hs⟩ := List.append_inj' hh rfl
    cases s
    cases hs
    exact ⟨_, front, SyncMachine.step_of_step? hstep⟩

/-- What a refresh has done since its beginning, as long as no other one begins. -/
theorem course {first : Snapshot} (run : SyncRun frame m₀ f₀ h m f)
    (h₀ : m₀.Course frame.setting m₀.sync.ns first f₀ []) (hnone : NoEnter h) :
    m.Course frame.setting m₀.sync.ns first f₀ h := by
  induction run with
  | nil => exact h₀
  | snoc run hstep ih =>
    obtain ⟨hnone, hlast⟩ := noEnter_append.1 hnone
    rw [← run.ns_eq] at ih ⊢
    exact SyncMachine.course_of_step (ih hnone) run.filesAfter_eq (SyncMachine.step_of_step? hstep)
      (hlast _ (List.mem_singleton_self _))

/-- **Every refresh under way has begun**, and what it has done since then is all that has been done
to the view and, but for writes of refreshes that were given up, to the files. -/
theorem exists_course (run : SyncRun frame m₀ f₀ h m f) (h₀ : m₀.active = none)
    {a : ActiveRefresh L} (ha : m.active = some a) :
    ∃ (h₁ h₂ : List (SyncStep L)) (e : SyncStep L), h = h₁ ++ e :: h₂
      ∧ e.move = .enter a.caller ∧ NoEnter h₂
      ∧ m.Course frame.setting m₀.sync.ns e.before.shown e.files h₂ := by
  induction run generalizing a with
  | nil =>
    rw [h₀] at ha
    cases ha
  | @snoc history m m' f f' now move events run hstep ih =>
    have step := SyncMachine.step_of_step? hstep
    by_cases hbegins : ∃ caller, move = .enter caller
    · -- The refresh begins here, and has done nothing yet.
      obtain ⟨caller, rfl⟩ := hbegins
      have hcourse := SyncMachine.course_of_enter step
      rw [run.ns_eq] at hcourse
      refine ⟨history, [], _, rfl, ?_, fun _ hs => absurd hs List.not_mem_nil, hcourse⟩
      cases step
      cases ha
      rfl
    · -- It is the one that was under way before, with the same beginning.
      have hmove : ∀ caller, move ≠ .enter caller := fun caller heq => hbegins ⟨caller, heq⟩
      obtain ⟨b, hb, hcaller⟩ := SyncMachine.active_of_step step hmove ha
      obtain ⟨h₁, h₂, e, rfl, henter, hnone, hcourse⟩ := ih hb
      rw [← run.ns_eq] at hcourse ⊢
      have hlonger := SyncMachine.course_of_step hcourse run.cut.2.filesAfter_eq step hmove
      refine ⟨h₁, h₂ ++ [_], e, by simp, henter.trans (congrArg _ hcaller), ?_, hlonger⟩
      refine noEnter_append.2 ⟨hnone, fun s hs => ?_⟩
      obtain rfl := List.mem_singleton.1 hs
      exact hmove

/-- Without a beginning there is no refresh. -/
theorem active_eq_none (run : SyncRun frame m₀ f₀ h m f) (h₀ : m₀.active = none)
    (hnone : NoEnter h) : m.active = none := by
  cases hactive : m.active with
  | none => rfl
  | some a =>
    obtain ⟨h₁, h₂, e, rfl, henter, -⟩ := run.exists_course h₀ hactive
    exact absurd henter (hnone e (by simp) _)

end SyncRun

end LiveConfig
