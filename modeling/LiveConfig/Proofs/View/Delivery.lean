import LiveConfig.View.Calls

/-!
# What a dispatch delivers

A dispatch reaches those who were registered when it began and whom the changes concern, each of
them once and in the order of registration, whatever they do to the registry and however they fail.

## Main statements

- `ListenerFilter.matchesChanges_iff`: whom changes concern.
- `Dispatch.foldl_call`: what the calls of a dispatch come to.
- `View.dispatch_listeners`: a dispatch on a view is a delivery to its registry.
- `View.delivers_perform`: what a dispatch delivers.
-/

namespace LiveConfig

open Listeners

variable {L : Type}

/-! ## §1 Whom changes concern -/

namespace ListenerFilter

/-- Nothing is filtered, or a changed key is named or has one of the beginnings. -/
def Concerned (f : ListenerFilter) (c : ChangeSet) : Prop :=
  (f.keys = [] ∧ f.starts = [])
    ∨ ∃ key ∈ c.keys, key ∈ f.keys ∨ ∃ start ∈ f.starts, start.toList <+: key.toList

/-- **Whom changes concern.** -/
theorem matchesChanges_iff (f : ListenerFilter) (c : ChangeSet) :
    f.matchesChanges c = true ↔ f.Concerned c := by
  simp [matchesChanges, isEmpty, matchesKey, Concerned]

instance (f : ListenerFilter) (c : ChangeSet) : Decidable (f.Concerned c) :=
  decidable_of_iff _ (matchesChanges_iff f c)

end ListenerFilter

namespace Listeners

/-- Those who are registered and whom changes concern, in the order of registration. -/
def audience (c : ChangeSet) (r : Listeners L) : List (Registration L) :=
  r.entries.filter fun e => decide (e.filter.Concerned c)

theorem concerned_of_isEmpty {c : ChangeSet} (h : c.isEmpty = true) (r : Listeners L) :
    r.concerned c = [] := by
  simp [concerned, h]

theorem concerned_eq_audience {c : ChangeSet} (h : c.isEmpty = false) (r : Listeners L) :
    r.concerned c = r.audience c := by
  simp only [concerned, h, Bool.false_eq_true, if_false, audience]
  apply List.filter_congr
  intro e _
  rw [Bool.eq_iff_iff, ListenerFilter.matchesChanges_iff, decide_eq_true_eq]

theorem nodup_audience (c : ChangeSet) (r : Listeners L) :
    ((r.audience c).map Registration.id).Nodup :=
  (List.filter_sublist.map Registration.id).nodup r.distinct

end Listeners

/-! ## §2 A dispatch -/

/-- The call of a listener that an event shows: whom, with which changes, and how he failed. -/
def SyncEvent.call? : SyncEvent L → Option (Registration L × ChangeSet × Option String)
  | .called recipient changes _ failure => some (recipient, changes, failure)
  | _ => none

/-- The namespace of which an event says that a listener has failed. -/
def SyncEvent.panicOf? : SyncEvent L → Option String
  | .observed (.listenerPanic ns) => some ns
  | _ => none

namespace Dispatch

variable (changes : ChangeSet) (behave : Registration L → Reaction L)

/-- **What the calls of a dispatch come to.** -/
theorem foldl_call (left : List (Registration L)) (d : Dispatch L) :
    (left.foldl (fun d e => d.call changes e (behave e)) d).view
        = { d.view with
          listeners := (left.flatMap fun e => (behave e).edits).foldl edit d.view.listeners }
      ∧ (left.foldl (fun d e => d.call changes e (behave e)) d).edits
        = d.edits ++ d.view.listeners.answers (left.flatMap fun e => (behave e).edits)
      ∧ (left.foldl (fun d e => d.call changes e (behave e)) d).events
        = d.events ++ left.flatMap (fun e => d.view.callEvents changes e (behave e).failure)
      ∧ (left.foldl (fun d e => d.call changes e (behave e)) d).completed
        = d.completed + left.countP fun e => (behave e).failure.isNone := by
  induction left generalizing d with
  | nil => simp [answers]
  | cons e left ih =>
    obtain ⟨hview, hedits, hevents, hcompleted⟩ := ih (d.call changes e (behave e))
    simp only [List.foldl_cons, List.flatMap_cons, List.foldl_append]
    refine ⟨hview, ?_, ?_, ?_⟩
    · rw [hedits, answers_append]
      exact List.append_assoc ..
    · rw [hevents]
      exact List.append_assoc ..
    · rw [hcompleted, List.countP_cons]
      show d.completed + (behave e).failure.isNone.toNat + _ = _
      have hone : (behave e).failure.isNone.toNat = if (behave e).failure.isNone then 1 else 0 := by
        cases (behave e).failure.isNone <;> rfl
      rw [hone, Nat.add_assoc, Nat.add_comm (List.countP _ _)]

end Dispatch

/-- **To dispatch on a view** is to deliver to its registry, if each listener reacts to the changes
in a way of its own. -/
theorem View.dispatch_listeners (react : L → ChangeSet → Reaction L) (changes : ChangeSet)
    (v : View L) :
    v.listeners.dispatch react changes
      = ((v.dispatch (fun e => react e.listener changes) changes).view.listeners,
        (v.listeners.concerned changes).map fun e => (e, (react e.listener changes).failure)) := by
  have hall (left : List (Registration L)) (r : Listeners L)
      (calls : List (Registration L × Option String)) :
      left.foldl (fun acc e => ((acc.1.call react changes e).1,
          acc.2 ++ [(e, (acc.1.call react changes e).2)])) (r, calls)
        = ((left.flatMap fun e => (react e.listener changes).edits).foldl edit r,
          calls ++ left.map fun e => (e, (react e.listener changes).failure)) := by
    induction left generalizing r calls with
    | nil => simp
    | cons e left ih =>
      rw [List.foldl_cons, ih]
      simp [Listeners.call, List.foldl_append]
  obtain ⟨hview, -, -, -⟩ := Dispatch.foldl_call changes (fun e => react e.listener changes)
    (v.listeners.concerned changes) { view := v }
  exact (hall _ v.listeners []).trans (congrArg (·, _) (congrArg View.listeners hview).symm)

section Events

variable (v : View L) (changes : ChangeSet) (called : List (Registration L))
  (failure : Registration L → Option String)

theorem filterMap_call?_callEvents :
    (called.flatMap fun e => v.callEvents changes e (failure e)).filterMap SyncEvent.call?
      = called.map fun e => (e, changes, failure e) := by
  have hone (e : Registration L) : (v.callEvents changes e (failure e)).filterMap SyncEvent.call?
      = [(e, changes, failure e)] := by
    cases hfailure : failure e <;> rfl
  induction called with
  | nil => rfl
  | cons e called ih =>
    rw [List.flatMap_cons, List.filterMap_append, ih, hone, List.map_cons, List.singleton_append]

theorem filterMap_panicOf?_callEvents :
    (called.flatMap fun e => v.callEvents changes e (failure e)).filterMap SyncEvent.panicOf?
      = List.replicate (called.countP fun e => (failure e).isSome) v.ns := by
  have hone (e : Registration L) :
      (v.callEvents changes e (failure e)).filterMap SyncEvent.panicOf?
        = List.replicate (failure e).isSome.toNat v.ns := by
    cases hfailure : failure e <;> rfl
  induction called with
  | nil => rfl
  | cons e called ih =>
    rw [List.flatMap_cons, List.filterMap_append, ih, hone, List.countP_cons,
      List.replicate_append_replicate, Nat.add_comm]
    cases (failure e).isSome <;> rfl

end Events

/-- **What a dispatch delivers.** -/
structure ListeningStep.Delivers (changes : ChangeSet) (behave : Registration L → Reaction L)
    (s : ListeningStep L) : Prop where
  /-- An empty change set calls nobody and changes nothing. -/
  nobody : changes.isEmpty = true →
    s.after = s.before ∧ s.edits = [] ∧ s.events = [] ∧ s.completed = 0
  /-- Otherwise all those are called who are registered when the dispatch begins and whom the
  changes concern, in the order of registration, whatever they do and however they fail. -/
  called : changes.isEmpty = false → s.events.filterMap SyncEvent.call?
    = (s.before.listeners.audience changes).map fun e => (e, changes, (behave e).failure)
  /-- Nobody is called twice. -/
  once : ((s.events.filterMap SyncEvent.call?).map fun c => c.1.id).Nodup
  /-- Those who do not fail are counted. -/
  completed : changes.isEmpty = false → s.completed
    = (s.before.listeners.audience changes).countP fun e => (behave e).failure.isNone
  /-- Each failure is observed. -/
  panics : changes.isEmpty = false → s.events.filterMap SyncEvent.panicOf?
    = List.replicate
        ((s.before.listeners.audience changes).countP fun e => (behave e).failure.isSome)
        s.before.ns

namespace View

/-- **What a dispatch delivers.** -/
theorem delivers_perform (v : View L) (changes : ChangeSet) (behave : Registration L → Reaction L) :
    (v.perform (.dispatch changes behave)).Delivers changes behave := by
  obtain ⟨-, -, hevents, hcompleted⟩ :=
    Dispatch.foldl_call changes behave (v.listeners.concerned changes) { view := v }
  have hcalls : (v.perform (.dispatch changes behave)).events.filterMap SyncEvent.call?
      = (v.listeners.concerned changes).map fun e => (e, changes, (behave e).failure) :=
    (congrArg _ hevents).trans (filterMap_call?_callEvents ..)
  have hcount : (v.perform (.dispatch changes behave)).completed
      = (v.listeners.concerned changes).countP fun e => (behave e).failure.isNone :=
    hcompleted.trans (Nat.zero_add _)
  have hpanics : (v.perform (.dispatch changes behave)).events.filterMap SyncEvent.panicOf?
      = List.replicate ((v.listeners.concerned changes).countP
          fun e => (behave e).failure.isSome) v.ns :=
    (congrArg _ hevents).trans (filterMap_panicOf?_callEvents ..)
  refine ⟨fun hempty => ?_, fun hfull => ?_, ?_, fun hfull => ?_, fun hfull => ?_⟩
  · have hnobody := concerned_of_isEmpty hempty v.listeners
    simp [perform, dispatch, hnobody]
  · rw [hcalls, concerned_eq_audience hfull]
    rfl
  · rw [hcalls, List.map_map]
    cases hempty : changes.isEmpty with
    | true => simp [concerned_of_isEmpty hempty]
    | false =>
      rw [concerned_eq_audience hempty]
      exact nodup_audience changes v.listeners
  · rw [hcount, concerned_eq_audience hfull]
    rfl
  · rw [hpanics, concerned_eq_audience hfull]
    rfl

end View

end LiveConfig
