import LiveConfig.Proofs.ChangeSet
import LiveConfig.Proofs.Sync.Step

/-!
# Delivery of changes

Whatever the server answers and whoever refreshes, the change sets that go out to the listeners are
the differences of what was shown, in order and without a gap. A listener who replays what it is
told holds what is shown.

## The invariant

A refresh knows what was shown when it began, and later which change set has yet to go out. Between
the moment at which a snapshot is shown and the moment at which the last listener has been called,
the change set is owed: replaying it as well leads to what is shown.

## Main statements

- `SyncMachine.fits_of_step`: what a refresh knows stays true.
- `SyncRun.relevant_dispatched`: every difference goes out once, in order.
- `SyncRun.replay_received`: a listener that has been told all that it is owed holds what is shown.
-/

namespace LiveConfig

variable {L : Type}

/-! ## §1 What a history says about changes -/

/-- The change sets in which something changes. -/
def ChangeSet.relevant (l : List ChangeSet) : List ChangeSet := l.filter fun c => !c.isEmpty

/-- The change set whose listeners a step looks up. -/
def SyncStep.dispatched? (s : SyncStep L) : Option ChangeSet :=
  match s.move, s.before.active with
  | .gather, some ⟨_, .committed changes _⟩ => some changes
  | _, _ => none

/-- The change sets that have been dispatched, the oldest first. -/
def dispatched (history : List (SyncStep L)) : List ChangeSet :=
  history.filterMap SyncStep.dispatched?

/-- Every replacement of what is shown: the snapshot before it and the one after it. -/
def commits (history : List (SyncStep L)) : List (Snapshot × Snapshot) :=
  (history.map fun s => (s.before.shown, s.after.shown)).filter fun p => p.1 ≠ p.2

/-- Each replacement takes the place of what the one before it left. -/
def Linked (first : Snapshot) : List (Snapshot × Snapshot) → Snapshot → Prop
  | [], last => first = last
  | p :: rest, last => p.1 = first ∧ Linked p.2 rest last

/-- The change set with which an event calls the listener with a number. -/
def SyncEvent.received? (id : Nat) : SyncEvent L → Option ChangeSet
  | .called recipient changes _ _ => if recipient.id = id then some changes else none
  | _ => none

/-- The change sets with which events call the listener with a number. -/
def calls (id : Nat) (events : List (SyncEvent L)) : List ChangeSet :=
  events.filterMap (SyncEvent.received? id)

/-- The change sets that the listener with a number has received, the oldest first. -/
def received (id : Nat) (history : List (SyncStep L)) : List ChangeSet :=
  history.flatMap fun s => calls id s.events

/-- The change sets that a refresh has shown but whose listeners it has not looked up. -/
def RefreshPhase.undelivered : RefreshPhase L → List ChangeSet
  | .saving _ changes | .committed changes _ => [changes]
  | _ => []

/-- The change sets that a refresh has yet to call the listener with a number with. -/
def RefreshPhase.owed (id : Nat) : RefreshPhase L → List ChangeSet
  | .saving _ changes | .committed changes _ => [changes]
  | .delivering changes left _ => if id ∈ left.map Registration.id then [changes] else []
  | _ => []

namespace SyncMachine

/-- The change sets that have been shown but whose listeners have not been looked up. -/
def undelivered (m : SyncMachine L) : List ChangeSet :=
  (m.active.map fun a => a.phase.undelivered).getD []

/-- The change sets that the listener with a number has yet to receive. -/
def owed (id : Nat) (m : SyncMachine L) : List ChangeSet :=
  (m.active.map fun a => a.phase.owed id).getD []

end SyncMachine

theorem SyncStep.dispatched?_gather {s : SyncStep L} {caller : Nat} {changes : ChangeSet}
    {outcome : RefreshOutcome} (hmove : s.move = .gather)
    (hactive : s.before.active = some ⟨caller, .committed changes outcome⟩) :
    s.dispatched? = some changes := by
  rw [SyncStep.dispatched?, hmove, hactive]

section Lists

variable (id : Nat) (l l' : List ChangeSet) (c : ChangeSet)

@[simp] theorem ChangeSet.relevant_append :
    ChangeSet.relevant (l ++ l') = ChangeSet.relevant l ++ ChangeSet.relevant l' :=
  List.filter_append ..

/-- Snapshots with one content differ in nothing relevant. -/
theorem ChangeSet.relevant_diff {old new : Snapshot} (h : ∀ k, old.get? k = new.get? k) :
    ChangeSet.relevant [ChangeSet.diff old new] = [] := by
  simp [ChangeSet.relevant, ChangeSet.isEmpty_diff_iff.2 h]

@[simp] theorem calls_append (events more : List (SyncEvent L)) :
    calls id (events ++ more) = calls id events ++ calls id more :=
  List.filterMap_append

theorem dispatched_concat (history : List (SyncStep L)) (s : SyncStep L) :
    dispatched (history ++ [s]) = dispatched history ++ s.dispatched?.toList := by
  cases h : s.dispatched? <;> simp [dispatched, h]

theorem commits_concat (history : List (SyncStep L)) (s : SyncStep L) :
    commits (history ++ [s]) = commits history
      ++ if s.before.shown = s.after.shown then [] else [(s.before.shown, s.after.shown)] := by
  by_cases h : s.before.shown = s.after.shown <;> simp [commits, h]

theorem received_concat (history : List (SyncStep L)) (s : SyncStep L) :
    received id (history ++ [s]) = received id history ++ calls id s.events := by
  simp [received]

end Lists

theorem Linked.concat {first mid last : Snapshot} {l : List (Snapshot × Snapshot)}
    (h : Linked first l mid) : Linked first (l ++ [(mid, last)]) last := by
  induction l generalizing first with
  | nil => exact ⟨h.symm, rfl⟩
  | cons p rest ih => exact ⟨h.1, ih h.2⟩

/-! ## §2 What an answer changes -/

/-- The change sets that a refresh goes on with. -/
def Remaining.changes : Remaining → List ChangeSet
  | .nothing _ => []
  | .saving _ changes | .delivering changes _ => [changes]

/-- **An answer keeps the content**, or leaves the refresh with what it changes. -/
theorem Sync.Answer.keeps_or_changes {setting : SyncSetting} {now : Instant} {flight : Flight}
    {s s' : Sync L} {result : FetchResult} {events : List (SyncEvent L)} {remaining : Remaining}
    (answer : Answer setting now flight s result s' events remaining)
    (hprevious : flight.previous = s.view.snapshot) :
    remaining.changes = [] ∧ (∀ k, s'.view.snapshot.get? k = s.view.snapshot.get? k)
      ∨ remaining.changes = [ChangeSet.diff s.view.snapshot s'.view.snapshot] := by
  cases answer with
  -- The release from the cache gives way to one that says the same.
  | recognised _ _ hsame => exact .inl ⟨rfl, fun k => (ChangeSet.isEmpty_diff_iff.1 hsame k).symm⟩
  | upgraded => exact .inl ⟨rfl, fun k => by rw [← hprevious]; rfl⟩
  | released => exact .inr rfl
  | expired => exact .inr rfl
  | current | unmodified | missing => exact .inl ⟨rfl, fun _ => rfl⟩
  | failed => exact .inl ⟨rfl, fun k => by simp⟩

theorem Sync.Answer.calls_eq_nil {setting : SyncSetting} {now : Instant} {flight : Flight}
    {s s' : Sync L} {result : FetchResult} {events : List (SyncEvent L)} {remaining : Remaining}
    (answer : Answer setting now flight s result s' events remaining) (id : Nat) :
    calls id events = [] := by
  -- A failure is shown to observers and written down at most.
  have hfailed (e : FetchError) :
      calls id ((s.queueMessages flight.messages).failed setting now e).2 = [] := by
    cases h : ((s.queueMessages flight.messages).failureLog.record setting.failureLogInterval now).2
      <;> simp [calls, Sync.failed, h, SyncEvent.received?]
  cases answer with
  | failed => exact hfailed _
  | expired => rw [calls_append, hfailed]; rfl
  | _ => rfl

theorem Listeners.nodup_concerned (c : ChangeSet) (r : Listeners L) :
    ((r.concerned c).map Registration.id).Nodup := by
  unfold Listeners.concerned
  split
  · simp
  · exact (List.filter_sublist.map Registration.id).nodup r.distinct

/-- Who listens to everything is concerned by every change. -/
theorem Listeners.mem_concerned {c : ChangeSet} {r : Listeners L} {e : Registration L}
    (he : e ∈ r.entries) (hfilter : e.filter.isEmpty = true) (hc : c.isEmpty = false) :
    e ∈ r.concerned c := by
  simp [Listeners.concerned, hc, he, ListenerFilter.matchesChanges, hfilter]

/-! ## §3 What a refresh knows -/

/-- What a refresh knows fits what is shown: before the answer it is what is shown, and afterwards
it is what changed when the present snapshot was shown. No listener is left to call twice. -/
def RefreshPhase.Fits (shown : Snapshot) : RefreshPhase L → Prop
  | .queued flight | .fetching flight => flight.previous = shown
  | .saving _ changes | .committed changes _ => ∃ old, changes = ChangeSet.diff old shown
  | .delivering changes left _ =>
    (∃ old, changes = ChangeSet.diff old shown) ∧ (left.map Registration.id).Nodup

namespace SyncMachine

/-- What the refresh under way knows fits what is shown. -/
def Fits (m : SyncMachine L) : Prop := ∀ a, m.active = some a → a.phase.Fits m.shown

section Parts

variable {m : SyncMachine L} {a : ActiveRefresh L} {caller id : Nat} {changes : ChangeSet}
  {left : List (Registration L)} {outcome : RefreshOutcome}

theorem fits_of_none (h : m.active = none) : m.Fits := forall_active_of_none h

theorem fits_of_some (h : m.active = some a) (hfits : a.phase.Fits m.shown) : m.Fits :=
  forall_active_of_some h hfits

theorem undelivered_of_some (h : m.active = some a) : m.undelivered = a.phase.undelivered := by
  simp [undelivered, h]

theorem owed_of_some (h : m.active = some a) : m.owed id = a.phase.owed id := by
  simp [owed, h]

@[simp] theorem shown_proceed {r : Remaining} : (m.proceed caller r).1.shown = m.shown := by
  simp [shown]

@[simp] theorem undelivered_proceed {r : Remaining} :
    (m.proceed caller r).1.undelivered = r.changes := by
  cases r <;> simp [proceed, undelivered, RefreshPhase.undelivered, Remaining.changes]

@[simp] theorem owed_proceed {r : Remaining} : (m.proceed caller r).1.owed id = r.changes := by
  cases r <;> simp [proceed, owed, RefreshPhase.owed, Remaining.changes]

@[simp] theorem calls_proceed {r : Remaining} : calls id (m.proceed caller r).2 = [] := by
  cases r <;> rfl

@[simp] theorem shown_tell : (m.tell caller changes left outcome).1.shown = m.shown := by
  simp [shown]

@[simp] theorem undelivered_tell : (m.tell caller changes left outcome).1.undelivered = [] := by
  cases left <;> simp [undelivered, tell, RefreshPhase.undelivered]

@[simp] theorem owed_tell : (m.tell caller changes left outcome).1.owed id
    = if id ∈ left.map Registration.id then [changes] else [] := by
  cases left <;> simp [owed, tell, RefreshPhase.owed, eq_comm]

@[simp] theorem calls_tell : calls id (m.tell caller changes left outcome).2 = [] := by
  cases left <;> cases outcome <;> rfl

theorem fits_tell (hold : ∃ old, changes = ChangeSet.diff old m.shown)
    (hnodup : (left.map Registration.id).Nodup) :
    (m.tell caller changes left outcome).1.Fits := by
  cases left with
  | nil => exact fits_of_none (active_letGo ..)
  | cons => exact fits_of_some rfl ⟨hold, hnodup⟩

end Parts

variable {frame : SyncFrame L} {now : Instant} {m m' : SyncMachine L} {f f' : Files}
  {move : SyncMove L} {events : List (SyncEvent L)}

/-- **What a refresh knows stays true**, whoever moves. -/
theorem fits_of_step (hm : m.Fits) (step : m.Step frame now f move m' f' events) : m'.Fits := by
  cases step with
  | announce =>
    intro a ha
    simpa [shown] using hm a ha
  -- A refresh begins from what is shown.
  | enter _ _ => exact fits_of_some rfl rfl
  | permit hactive => exact fits_of_some rfl (hm _ hactive :)
  | answer hactive hanswer =>
    cases hanswer with
    | released => exact fits_of_some rfl ⟨_, rfl⟩
    | expired => exact fits_of_some rfl ⟨_, rfl⟩
    | _ => exact fits_of_none (active_letGo ..)
  | saved hactive => exact fits_of_some rfl (hm _ hactive :)
  | gather hactive => exact fits_tell (hm _ hactive :) (Listeners.nodup_concerned ..)
  | deliver hactive =>
    obtain ⟨hold, hnodup⟩ := hm _ hactive
    exact fits_tell hold (List.nodup_cons.1 hnodup).2
  | abandon =>
    intro a ha
    exact hm a (Option.filter_eq_some_iff.1 ha).1
  | _ => exact hm

/-! ## §4 What goes out -/

/-- Where the content stays and nothing goes out, nothing is due that was not due before. -/
theorem relevant_of_same {s : SyncStep L} (hnothing : s.dispatched? = none)
    (hshown : ∀ k, s.after.shown.get? k = s.before.shown.get? k)
    (hdue : s.after.undelivered = s.before.undelivered) :
    ChangeSet.relevant (s.dispatched?.toList ++ s.after.undelivered)
      = ChangeSet.relevant
          (s.before.undelivered ++ [ChangeSet.diff s.before.shown s.after.shown]) := by
  rw [hnothing, hdue, ChangeSet.relevant_append, ChangeSet.relevant_append,
    ChangeSet.relevant_diff fun k => (hshown k).symm, List.append_nil]
  rfl

/-- **What a move dispatches** and what is due after it are what was due before it and what the move
changes. -/
theorem relevant_of_step (hm : m.Fits) (step : m.Step frame now f move m' f' events)
    (hmove : ∀ caller, move ≠ .abandon caller) :
    ChangeSet.relevant
        ((SyncStep.mk now move m m' f' events).dispatched?.toList ++ m'.undelivered)
      = ChangeSet.relevant (m.undelivered ++ [ChangeSet.diff m.shown m'.shown]) := by
  cases step with
  | announce => exact relevant_of_same rfl (fun _ => by simp [shown]) rfl
  | enter _ hfree =>
    have hdue : m.undelivered = [] := by simp [undelivered, hfree]
    exact relevant_of_same rfl (fun _ => rfl) hdue.symm
  | permit hactive =>
    have hdue : m.undelivered = [] := undelivered_of_some hactive
    exact relevant_of_same rfl (fun _ => rfl) hdue.symm
  | answer hactive hanswer =>
    have hdue : m.undelivered = [] := undelivered_of_some hactive
    have hprevious := hm _ hactive
    rcases hanswer.keeps_or_changes hprevious with ⟨hnothing, hsame⟩ | hchanges
    · -- The content stays, and the refresh has nothing to tell.
      refine relevant_of_same rfl (fun k => ?_) ?_
      · rw [shown_proceed]
        exact hsame k
      · rw [undelivered_proceed, hnothing, hdue]
    · rw [undelivered_proceed, hchanges, hdue, shown_proceed]
      rfl
  | saved hactive =>
    have hdue : m.undelivered = [_] := undelivered_of_some hactive
    exact relevant_of_same rfl (fun _ => rfl) hdue.symm
  | gather hactive =>
    have hdue : m.undelivered = [_] := undelivered_of_some hactive
    -- What was due goes out, and nothing is replaced.
    rw [SyncStep.dispatched?_gather rfl hactive, hdue, undelivered_tell, shown_tell,
      ChangeSet.relevant_append, ChangeSet.relevant_append, ChangeSet.relevant_diff fun _ => rfl]
    rfl
  | deliver hactive =>
    have hdue : m.undelivered = [] := undelivered_of_some hactive
    refine relevant_of_same rfl (fun k => ?_) ?_
    · rw [shown_tell]
      rfl
    · rw [undelivered_tell, hdue]
  | abandon => exact absurd rfl (hmove _)
  | _ => exact relevant_of_same rfl (fun _ => rfl) rfl

end SyncMachine

/-! ## §5 Who stays registered -/

/-- The registry has been edited: no number is given away again, so whoever is registered under an
old number has been registered before. -/
structure Listeners.Later (r r' : Listeners L) : Prop where
  nextId_le : r.nextId ≤ r'.nextId
  mem_of_mem : ∀ e ∈ r'.entries, e.id < r.nextId → e ∈ r.entries

namespace Listeners

theorem later_rfl {r : Listeners L} : r.Later r := ⟨Nat.le_refl _, fun _ he _ => he⟩

theorem Later.trans {r₁ r₂ r₃ : Listeners L} (h : r₁.Later r₂) (h' : r₂.Later r₃) :
    r₁.Later r₃ where
  nextId_le := Nat.le_trans h.nextId_le h'.nextId_le
  mem_of_mem e he hid :=
    h.mem_of_mem e (h'.mem_of_mem e he (Nat.lt_of_lt_of_le hid h.nextId_le)) hid

theorem later_edit (r : Listeners L) (edit : Edit L) : r.Later (r.edit edit) := by
  cases edit with
  | subscribe listener filter =>
    refine ⟨Nat.le_succ _, fun e he hid => ?_⟩
    rcases List.mem_append.1 he with he | he
    · exact he
    · -- The new registration has the first free number.
      obtain rfl := List.mem_singleton.1 he
      exact absurd hid (Nat.lt_irrefl _)
  | unsubscribe id => exact ⟨Nat.le_refl _, fun e he _ => (List.mem_filter.1 he).1⟩

theorem later_foldl_edit (edits : List (Edit L)) (r : Listeners L) :
    r.Later (edits.foldl edit r) := by
  induction edits generalizing r with
  | nil => exact later_rfl
  | cons e rest ih => exact (later_edit r e).trans (ih _)

end Listeners

theorem Sync.Answer.listeners_eq {setting : SyncSetting} {now : Instant} {flight : Flight}
    {s s' : Sync L} {result : FetchResult} {events : List (SyncEvent L)} {remaining : Remaining}
    (answer : Answer setting now flight s result s' events remaining) :
    s'.view.listeners = s.view.listeners := by
  cases answer <;> simp [Sync.confirmed, Sync.notFound]

namespace SyncMachine

variable {frame : SyncFrame L} {now : Instant} {m m' : SyncMachine L} {f f' : Files}
  {move : SyncMove L} {events : List (SyncEvent L)}

theorem later_of_step (step : m.Step frame now f move m' f' events) :
    m.sync.view.listeners.Later m'.sync.view.listeners := by
  cases step with
  | announce => simpa using Listeners.later_rfl
  | answer _ hanswer =>
    have hsame := hanswer.listeners_eq
    simpa [hsame] using Listeners.later_rfl
  | gather => simpa using Listeners.later_rfl
  -- The listener that is called may edit the registry.
  | deliver => simpa [Sync.deliver, Listeners.call] using Listeners.later_foldl_edit ..
  | @subscribe listener filter => exact Listeners.later_edit _ (.subscribe listener filter)
  | @unsubscribe id => exact Listeners.later_edit _ (.unsubscribe id)
  | _ => exact Listeners.later_rfl

end SyncMachine

/-! ## §6 What a listener holds -/

theorem Sync.calls_save (setting : SyncSetting) (fault : Option CacheStore.Fault)
    (snapshot : Snapshot) (f : Files) (s : Sync L) (id : Nat) :
    calls id (s.save setting fault snapshot f).2 = [] := by
  unfold Sync.save
  split
  · rfl
  · split <;> rfl

theorem Sync.calls_deliver (react : L → ChangeSet → Listeners.Reaction L) (changes : ChangeSet)
    (recipient : Registration L) (s : Sync L) (id : Nat) :
    calls id (s.deliver react changes recipient).2
      = if recipient.id = id then [changes] else [] := by
  unfold Sync.deliver
  cases h : (s.view.listeners.call react changes recipient).2 <;>
    by_cases hid : recipient.id = id <;> simp [calls, h, hid, SyncEvent.received?]

namespace SyncMachine

variable {frame : SyncFrame L} {now : Instant} {m m' : SyncMachine L} {f f' : Files}
  {move : SyncMove L} {events : List (SyncEvent L)}

/-- Who starts from what is shown can replay what he is owed as well. -/
theorem get?_replay_owed_shown (hm : m.Fits) (id : Nat) (k : String) :
    (ChangeSet.replay (m.owed id) m.shown.entries).get? k = m.shown.get? k := by
  have hagain {changes : ChangeSet} (hold : ∃ old, changes = ChangeSet.diff old m.shown) :
      (changes.apply m.shown.entries).get? k = m.shown.get? k := by
    obtain ⟨old, rfl⟩ := hold
    exact ChangeSet.get?_apply_diff_of_agree (fun _ => .inr rfl) k
  cases hactive : m.active with
  | none => simp [owed, hactive]; rfl
  | some a =>
    rw [owed_of_some hactive]
    have hfits := hm a hactive
    obtain ⟨caller, phase⟩ := a
    cases phase with
    | queued | fetching => rfl
    | saving | committed => exact hagain hfits
    | delivering =>
      simp only [RefreshPhase.owed]
      split
      · exact hagain hfits.1
      · rfl

/-- **A move keeps the account of a listener** to everything: what it holds, with what it is owed,
is what is shown. -/
theorem get?_replay_of_step (hm : m.Fits) (step : m.Step frame now f move m' f' events)
    (hmove : ∀ caller, move ≠ .abandon caller) {r : Registration L}
    (hfilter : r.filter.isEmpty = true) (hr : r ∈ m.registered) {e : Entries}
    (he : ∀ k, (ChangeSet.replay (m.owed r.id) e).get? k = m.shown.get? k) (k : String) :
    (ChangeSet.replay (calls r.id events ++ m'.owed r.id) e).get? k = m'.shown.get? k := by
  cases step with
  | @announce messages =>
    have hshown : (m.sync.queueMessages messages).view = m.sync.view := by simp
    exact (he k).trans (congrArg (·.snapshot.get? k) hshown.symm)
  | enter _ hfree =>
    have howed : m.owed r.id = [] := by simp [owed, hfree]
    rw [howed] at he
    exact he k
  | permit hactive =>
    rw [owed_of_some hactive] at he
    exact he k
  | answer hactive hanswer =>
    rw [owed_of_some hactive] at he
    have hprevious := hm _ hactive
    rw [calls_append, hanswer.calls_eq_nil, calls_proceed, owed_proceed, shown_proceed]
    rcases hanswer.keeps_or_changes hprevious with ⟨hnothing, hsame⟩ | hchanges
    · rw [hnothing]
      exact (he k).trans (hsame k).symm
    · -- What was held until now is what was shown until now.
      rw [hchanges]
      exact ChangeSet.get?_apply_diff_of_agree (fun j => .inl (he j)) k
  | saved hactive =>
    rw [owed_of_some hactive] at he
    rw [Sync.calls_save]
    exact he k
  | @gather _ changes _ hactive =>
    rw [owed_of_some hactive] at he
    rw [calls_tell, owed_tell, shown_tell, List.nil_append]
    cases hempty : changes.isEmpty with
    | true =>
      -- Nobody is called, and nobody misses anything.
      rw [RefreshPhase.owed, ChangeSet.replay_singleton, ChangeSet.apply_of_isEmpty hempty] at he
      have hnobody : m.sync.view.listeners.concerned changes = [] := if_pos hempty
      simpa [hnobody] using he k
    | false =>
      have hmem := List.mem_map_of_mem (f := Registration.id)
        (Listeners.mem_concerned hr hfilter hempty)
      rw [if_pos hmem]
      exact he k
  | @deliver _ changes next left _ hactive =>
    rw [owed_of_some hactive] at he
    -- What a listener was owed it is told now, or is owed still.
    have hnodup := (hm _ hactive).2
    have hcalls : calls r.id (m.sync.deliver frame.react changes next).2
        ++ (if r.id ∈ left.map Registration.id then [changes] else [])
        = if r.id ∈ (next :: left).map Registration.id then [changes] else [] := by
      rw [Sync.calls_deliver]
      by_cases hnext : next.id = r.id
      · -- It is called now and not once more.
        have hlast : r.id ∉ left.map Registration.id := hnext ▸ (List.nodup_cons.1 hnodup).1
        simp [hnext, hlast]
      · have hlater : r.id ≠ next.id := fun h => hnext h.symm
        simp [hnext, hlater]
    rw [calls_append, calls_tell, owed_tell, shown_tell, List.append_nil, hcalls]
    exact he k
  | abandon => exact absurd rfl (hmove _)
  | _ => exact he k

end SyncMachine

/-! ## §7 Runs -/

namespace SyncRun

variable {frame : SyncFrame L} {m₀ m : SyncMachine L} {f₀ f : Files} {h : List (SyncStep L)}

theorem fits (run : SyncRun frame m₀ f₀ h m f) (h₀ : m₀.Fits) : m.Fits :=
  run.invariant h₀ SyncMachine.fits_of_step

/-- What is shown comes from one replacement after the other. -/
theorem linked_commits (run : SyncRun frame m₀ f₀ h m f) : Linked m₀.shown (commits h) m.shown := by
  induction run with
  | nil => exact rfl
  | @snoc _ m m' _ _ _ _ _ _ _ ih =>
    rw [commits_concat]
    split
    · next hsame =>
      rw [List.append_nil]
      exact hsame ▸ ih
    · exact ih.concat

/-- **Every difference goes out once, in order**: what has been dispatched, and what is due, are the
differences that the replacements made. -/
theorem relevant_dispatched (run : SyncRun frame m₀ f₀ h m f) (hc : Completed h)
    (h₀ : m₀.active = none) :
    ChangeSet.relevant (dispatched h ++ m.undelivered)
      = ChangeSet.relevant ((commits h).map fun p => ChangeSet.diff p.1 p.2) := by
  induction run with
  | nil => simp [dispatched, commits, SyncMachine.undelivered, h₀]
  | @snoc history m m' _ _ _ _ _ run hstep ih =>
    obtain ⟨hc, hlast⟩ := completed_append.1 hc
    have hstep := SyncMachine.relevant_of_step (run.fits (SyncMachine.fits_of_none h₀))
      (SyncMachine.step_of_step? hstep) (hlast _ (List.mem_singleton_self _))
    -- A move that replaces nothing makes no difference.
    have hcommit : ChangeSet.relevant ((if m.shown = m'.shown then []
        else [(m.shown, m'.shown)]).map fun p => ChangeSet.diff p.1 p.2)
        = ChangeSet.relevant [ChangeSet.diff m.shown m'.shown] := by
      split
      · next hsame =>
        rw [ChangeSet.relevant_diff fun k => congrArg (·.get? k) hsame]
        rfl
      · rfl
    rw [dispatched_concat, List.append_assoc, ChangeSet.relevant_append, hstep,
      ChangeSet.relevant_append, ← List.append_assoc, ← ChangeSet.relevant_append, ih hc,
      commits_concat, List.map_append, ChangeSet.relevant_append, hcommit]

theorem later (run : SyncRun frame m₀ f₀ h m f) :
    m₀.sync.view.listeners.Later m.sync.view.listeners := by
  induction run with
  | nil => exact Listeners.later_rfl
  | snoc _ hstep ih => exact ih.trans (SyncMachine.later_of_step (SyncMachine.step_of_step? hstep))

/-- **A listener that has been told everything it is owed holds what is shown**, if it listens to
everything from the first moment of the run to the last. -/
theorem replay_received (run : SyncRun frame m₀ f₀ h m f) (hc : Completed h) (h₀ : m₀.Fits)
    {r : Registration L} (hfilter : r.filter.isEmpty = true) (hr₀ : r ∈ m₀.registered)
    (hr : r ∈ m.registered) (k : String) :
    (ChangeSet.replay (received r.id h ++ m.owed r.id) m₀.shown.entries).get? k
      = m.shown.get? k := by
  induction run generalizing k with
  | nil => exact SyncMachine.get?_replay_owed_shown h₀ r.id k
  | snoc run hstep ih =>
    obtain ⟨hc, hlast⟩ := completed_append.1 hc
    have step := SyncMachine.step_of_step? hstep
    -- Numbers are not given away again, so it was registered before this step as well.
    have hknown := Nat.lt_of_lt_of_le (m₀.sync.view.listeners.id_lt r hr₀) run.later.nextId_le
    have hbefore := (SyncMachine.later_of_step step).mem_of_mem r hr hknown
    have hheld := ih hc hbefore
    simp only [ChangeSet.replay_append] at hheld
    rw [received_concat, List.append_assoc, ChangeSet.replay_append]
    exact SyncMachine.get?_replay_of_step (run.fits h₀) step
      (hlast _ (List.mem_singleton_self _)) hfilter hbefore hheld k

/-- **The chain of changes.** In every run in which nobody gives up, whatever the server answers and
whatever the policy for outdated content is, the replacements of what is shown follow one another;
the change sets that go out are the differences they make, in order and without a gap; and whoever
listens to everything, from any moment on, holds what is shown when no refresh is under way, if he
replays on what was shown at that moment all that he has been told since. -/
theorem dispatched_chain_replays {ns : String} {now : Instant}
    (run : SyncRun frame (SyncMachine.start frame.setting f₀ ns now).1 f₀ h m f)
    (hc : Completed h) :
    Linked (SyncMachine.start (L := L) frame.setting f₀ ns now).1.shown (commits h) m.shown
      ∧ ChangeSet.relevant (dispatched h ++ m.undelivered)
        = ChangeSet.relevant ((commits h).map fun p => ChangeSet.diff p.1 p.2)
      ∧ (m.active = none → m.undelivered = [])
      ∧ ∀ (h₁ h₂ : List (SyncStep L)) (s : SyncStep L) (r : Registration L), h = h₁ ++ s :: h₂ →
          r.filter.isEmpty = true → r ∈ s.after.registered → r ∈ m.registered → m.active = none →
          ∀ k, (ChangeSet.replay (received r.id h₂) s.after.shown.entries).get? k
            = m.shown.get? k := by
  have hstart : (SyncMachine.start (L := L) frame.setting f₀ ns now).1.active = none := rfl
  refine ⟨run.linked_commits, run.relevant_dispatched hc hstart, fun hidle => ?_, ?_⟩
  · simp [SyncMachine.undelivered, hidle]
  · rintro h₁ h₂ s r rfl hfilter hr₁ hr hidle k
    -- The run is cut after the step at whose end the listener is there.
    obtain ⟨run₁, run₂⟩ := run.cut
    have hfits := run₁.fits (SyncMachine.fits_of_none hstart)
    have hcompleted : Completed h₂ := fun t ht => hc t (by simp [ht])
    have hheld := run₂.replay_received hcompleted hfits hfilter hr₁ hr k
    have howed : m.owed r.id = [] := by simp [SyncMachine.owed, hidle]
    rwa [howed, List.append_nil] at hheld

/-- A listener that comes between the moment at which a first release is shown and the moment at
which its changes go out replays it together with the next release. -/
theorem dispatched_chain_replays_late_listener :
    ∃ (h : List (SyncStep Unit)) (m : SyncMachine Unit) (f : Files),
      SyncRun .plain (SyncMachine.start SyncFrame.plain.setting {} "app" 0).1 {} h m f
        ∧ Completed h ∧ m.active = none ∧ (received 1 h).length = 2
        ∧ ChangeSet.relevant (dispatched h ++ m.undelivered)
          = ChangeSet.relevant ((commits h).map fun p => ChangeSet.diff p.1 p.2)
        ∧ ∃ (h₁ h₂ : List (SyncStep Unit)) (s : SyncStep Unit), h = h₁ ++ s :: h₂
          ∧ s.after.undelivered.length = 1
          ∧ ∀ k, (ChangeSet.replay (received 1 h₂) s.after.shown.entries).get? k
            = m.shown.get? k := by
  have hplayed := SyncRun.exists_of_play? .plain
    (SyncMachine.start SyncFrame.plain.setting {} "app" 0).1 {}
    [(0, .launch), (0, .enter workerId), (0, .permit),
      (0, .answer (.ok (.updated ⟨"app", some "1", .remote, .ofList [("a", "x")]⟩)) {}),
      (0, .subscribe () {}), (0, .saved none), (0, .gather), (0, .deliver),
      (0, .call 1), (0, .enter 1), (0, .permit),
      (0, .answer (.ok (.updated ⟨"app", some "2", .remote, .ofList [("b", "y")]⟩)) {}),
      (0, .saved none), (0, .gather), (0, .deliver)]
    (fun seen => seen.2.1.active.isNone && (received 1 seen.1).length == 2
      && seen.2.1.registered.contains ⟨1, (), {}⟩
      && seen.1[4]?.any fun s => s.after.registered.contains ⟨1, (), {}⟩
        && s.after.undelivered.length == 1)
    (by decide)
  obtain ⟨h, m, f, run, hmoves, hseen⟩ := hplayed
  simp only [Bool.and_eq_true, Option.isNone_iff_eq_none, beq_iff_eq, List.contains_iff_mem,
    Option.any_eq_true] at hseen
  obtain ⟨⟨⟨hidle, htwice⟩, hr⟩, s, hs, hr₁, hlate⟩ := hseen
  have hcompleted : Completed h := by simp [completed_iff_moves, hmoves]
  obtain ⟨-, hgoes, -, hreplay⟩ := run.dispatched_chain_replays hcompleted
  obtain ⟨hlt, rfl⟩ := List.getElem?_eq_some_iff.1 hs
  have hsplit : h = h.take 4 ++ h[4] :: h.drop 5 := by simp
  exact ⟨h, m, f, run, hcompleted, hidle, htwice, hgoes, _, _, _, hsplit, hlate,
    hreplay _ _ _ ⟨1, (), {}⟩ hsplit rfl hr₁ hr hidle⟩

end SyncRun

end LiveConfig
