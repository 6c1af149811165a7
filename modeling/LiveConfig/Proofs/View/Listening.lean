import LiveConfig.Proofs.Sync.Dispatch
import LiveConfig.Proofs.View.Registry

/-!
# Who hears of a change

Calls on a view, one after the other, with listeners that edit the registry while they are called,
and fail: how the registry answers, and what is delivered, in every history of calls.

## Main statements

- `View.accounts_of_history`: the registry is accounted for at every call.
- `View.listening`: what is delivered, and how the registry answers, in every history.
-/

namespace LiveConfig

open Listeners

variable {L : Type}

namespace View

/-! ## §1 The registry in a history -/

/-- Every call makes changes to the registry one after the other, and keeps their answers. -/
theorem exists_edits_perform (v : View L) (call : ViewCall L) :
    ∃ es : List (Edit L), (v.perform call).edits = v.listeners.answers es
      ∧ (v.perform call).after.listeners = es.foldl edit v.listeners := by
  cases call with
  | subscribe listener filter => exact ⟨[.subscribe listener filter], rfl, rfl⟩
  | unsubscribe id => exact ⟨[.unsubscribe id], rfl, rfl⟩
  | dispatch changes behave =>
    obtain ⟨hview, hedits, -, -⟩ :=
      Dispatch.foldl_call changes behave (v.listeners.concerned changes) { view := v }
    exact ⟨_, hedits, congrArg View.listeners hview⟩

/-- **The registry is accounted for** before and after every call of a history. -/
theorem accounts_of_history {v : View L} {edits : List (EditAnswer L)} {calls : List (ViewCall L)}
    {h₁ h₂ : List (ListeningStep L)} {s : ListeningStep L} (h : Accounts edits v.listeners)
    (hsplit : v.history calls = h₁ ++ s :: h₂) :
    Accounts (edits ++ h₁.flatMap ListeningStep.edits) s.before.listeners
      ∧ Accounts (edits ++ (h₁ ++ [s]).flatMap ListeningStep.edits) s.after.listeners := by
  induction calls generalizing v edits h₁ with
  | nil => simp [history] at hsplit
  | cons call calls ih =>
    obtain ⟨es, hedits, hafter⟩ := v.exists_edits_perform call
    have hnext : Accounts (edits ++ (v.perform call).edits) (v.perform call).after.listeners := by
      rw [hedits, hafter]
      exact accounts_answers h es
    cases h₁ with
    | nil =>
      obtain ⟨rfl, -⟩ := List.cons.inj hsplit
      have hbefore : (v.perform call).before = v := by cases call <;> rfl
      rw [hbefore]
      exact ⟨by simpa using h, by simpa using hnext⟩
    | cons first h₁ =>
      obtain ⟨rfl, hrest⟩ := List.cons.inj hsplit
      simpa [List.append_assoc] using ih hnext hrest

/-- The account of a whole history. -/
theorem accounts_history {v : View L} {edits : List (EditAnswer L)} (calls : List (ViewCall L))
    (h : Accounts edits v.listeners) :
    ∃ r : Listeners L, Accounts (edits ++ (v.history calls).flatMap ListeningStep.edits) r := by
  rcases List.eq_nil_or_concat (v.history calls) with hnil | ⟨init, last, hlast⟩
  · rw [hnil]
    exact ⟨v.listeners, by simpa using h⟩
  · rw [List.concat_eq_append] at hlast
    obtain ⟨-, hafter⟩ := accounts_of_history h hlast
    rw [hlast]
    exact ⟨_, hafter⟩

theorem eq_perform_of_mem {v : View L} {calls : List (ViewCall L)} {s : ListeningStep L}
    (hs : s ∈ v.history calls) : s = s.before.perform s.call := by
  induction calls generalizing v with
  | nil => cases hs
  | cons call calls ih =>
    rcases List.mem_cons.1 hs with rfl | hs
    · cases call <;> rfl
    · exact ih hs

end View

/-! ## §2 What holds in a history -/

/-- **Listeners hear of changes, and the registry answers**, as they should in a history of calls
on a view. -/
structure Listening (h : List (ListeningStep L)) : Prop where
  /-- Numbers are given in order, so that none is given twice. -/
  ids : (made (h.flatMap ListeningStep.edits)).map Registration.id
    = List.range' 1 (made (h.flatMap ListeningStep.edits)).length
  /-- To remove a number succeeds exactly if it was given before and has not been removed yet,
  whoever removes it. -/
  removal : ∀ (before after : List (EditAnswer L)) (id : Nat) (found : Bool),
    h.flatMap ListeningStep.edits = before ++ .unsubscribed id found :: after →
      (found = true ↔ id ∈ (made before).map Registration.id ∧ removed before id = false)
  /-- Before and after every call those are registered who were and have not been removed, in the
  order of registration. -/
  registered : ∀ (h₁ h₂ : List (ListeningStep L)) (s : ListeningStep L), h = h₁ ++ s :: h₂ →
    s.before.listeners.entries = (made (h₁.flatMap ListeningStep.edits)).filter
        (fun e => !removed (h₁.flatMap ListeningStep.edits) e.id)
      ∧ s.after.listeners.entries = (made ((h₁ ++ [s]).flatMap ListeningStep.edits)).filter
        (fun e => !removed ((h₁ ++ [s]).flatMap ListeningStep.edits) e.id)
  /-- Every dispatch reaches those whom the changes concern. -/
  delivery : ∀ s ∈ h, ∀ (changes : ChangeSet) (behave : Registration L → Reaction L),
    s.call = .dispatch changes behave → s.Delivers changes behave

/-- **What is delivered, and how the registry answers**, in every history of calls on a view. The
dispatches of which this speaks are those with which the refreshes of a namespace end. -/
theorem View.listening (first : Snapshot) (calls : List (ViewCall L)) :
    Listening ((View.ofSnapshot first).history calls)
      ∧ ∀ (frame : SyncFrame L) (now : Instant) (f : Files) (m : SyncMachine L) (caller : Nat)
          (changes : ChangeSet) (outcome : RefreshOutcome),
        m.active = some ⟨caller, .committed changes outcome⟩ →
          m.EndsInDispatch frame now f caller changes outcome := by
  refine ⟨?_, fun _ _ _ _ _ _ _ hactive => SyncMachine.endsInDispatch_of_committed hactive⟩
  have hstart := accounts_ofSnapshot (L := L) first
  obtain ⟨r, haccounts⟩ := View.accounts_history calls hstart
  rw [List.nil_append] at haccounts
  refine ⟨haccounts.ids, haccounts.answered, fun h₁ h₂ s hsplit => ?_,
    fun s hs changes behave hcall => ?_⟩
  · obtain ⟨hbefore, hafter⟩ := View.accounts_of_history hstart hsplit
    exact ⟨hbefore.entries_eq, hafter.entries_eq⟩
  · rw [View.eq_perform_of_mem hs, hcall]
    exact View.delivers_perform ..

/-- Two listeners are told of a new key; the first one removes the second one and fails. -/
def ViewCall.removingAndFailing : List (ViewCall String) :=
  [.subscribe "a" {}, .subscribe "b" {}, .dispatch ⟨"application", none, [("k", .added "v")]⟩
    fun e => if e.id = 1 then { edits := [.unsubscribe 2], failure := some "text" } else {},
    .unsubscribe 2]

/-- The second listener is called all the same, and the first one is not counted. -/
theorem View.listening_removed_meanwhile :
    Listening ((View.ofSnapshot (.empty "application")).history ViewCall.removingAndFailing)
      ∧ ((View.ofSnapshot (.empty "application")).history ViewCall.removingAndFailing).map
          (fun s => (s.completed, s.after.listeners.size)) = [(0, 1), (0, 2), (1, 1), (0, 1)]
      ∧ ∃ m : SyncMachine String, m.sync.view.listeners.size = 1
        ∧ m.active = some ⟨1, .committed ⟨"application", none, [("k", .added "v")]⟩ (.updated 1)⟩
        ∧ m.EndsInDispatch ⟨{}, fun _ _ => { failure := some "text" }⟩ 0 {} 1
            ⟨"application", none, [("k", .added "v")]⟩ (.updated 1) := by
  obtain ⟨hlistening, hends⟩ :=
    View.listening (.empty "application") ViewCall.removingAndFailing
  let view : View String := ((View.ofSnapshot (.empty "application")).subscribe "a" {}).2
  let m : SyncMachine String :=
    { sync := { ns := "application", view, lastConfirmed := 0 }
      active := some ⟨1, .committed ⟨"application", none, [("k", .added "v")]⟩ (.updated 1)⟩ }
  exact ⟨hlistening, by decide, m, by decide, rfl, hends _ 0 {} m 1 _ _ rfl⟩

end LiveConfig
