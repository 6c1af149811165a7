import LiveConfig.Proofs.View.Delivery
import LiveConfig.Sync.Run

/-!
# A refresh dispatches

The listeners of a namespace are called by moves, one at a time. Where nothing comes in between, the
moves from the look-up of the listeners to the end of the refresh are one dispatch on its view.

## Main statements

- `SyncMachine.exists_play_of_tell`: the calls that are left, one after the other.
- `SyncMachine.endsInDispatch_of_committed`: a refresh that has committed ends in a dispatch.
-/

namespace LiveConfig

open Listeners

variable {L : Type}

/-- To call one listener is the same for a namespace and for its view. -/
theorem Sync.deliver_eq (react : L → ChangeSet → Reaction L) (changes : ChangeSet)
    (e : Registration L) (s : Sync L) :
    s.deliver react changes e
      = ({ s with
          view.listeners := (react e.listener changes).edits.foldl edit s.view.listeners },
        s.view.callEvents changes e (react e.listener changes).failure) :=
  rfl

namespace SyncMachine

theorem play?_cons {frame : SyncFrame L} {now : Instant} {m m₁ m' : SyncMachine L}
    {f f₁ f' : Files} {move : SyncMove L} {moves : List (Instant × SyncMove L)}
    {events : List (SyncEvent L)} {history : List (SyncStep L)}
    (hstep : m.step? frame now f move = some (m₁, f₁, events))
    (hrest : m₁.play? frame f₁ moves = some (history, m', f')) :
    m.play? frame f ((now, move) :: moves)
      = some (⟨now, move, m, m₁, f₁, events⟩ :: history, m', f') := by
  simp only [play?, hstep, hrest, Option.bind_eq_bind, Option.bind_some, Option.pure_def]

/-- **The calls that are left**, one after the other. -/
theorem exists_play_of_tell (frame : SyncFrame L) (now : Instant) (f : Files) (caller : Nat)
    (changes : ChangeSet) (outcome : RefreshOutcome) (left : List (Registration L))
    (m : SyncMachine L) :
    ∃ history m', (m.tell caller changes left outcome).1.play? frame f
        (List.replicate left.length (now, .deliver)) = some (history, m', f)
      ∧ m'.sync.view =
        { m.sync.view with
          listeners := (left.flatMap fun e => (frame.react e.listener changes).edits).foldl edit
            m.sync.view.listeners }
      ∧ (m.tell caller changes left outcome).2 ++ history.flatMap SyncStep.events
        = (left.flatMap fun e =>
            m.sync.view.callEvents changes e (frame.react e.listener changes).failure)
          ++ m.sync.concluded outcome ++ [.ended caller outcome] := by
  induction left generalizing m with
  | nil => exact ⟨[], m.letGo caller, rfl, by simp, by simp [tell]⟩
  | cons next left ih =>
    -- The listener is called by one move; the registry is as he leaves it.
    let waiting : SyncMachine L :=
      { m with active := some ⟨caller, .delivering changes (next :: left) outcome⟩ }
    let called : SyncMachine L :=
      { waiting with sync := (m.sync.deliver frame.react changes next).1 }
    have hstep : waiting.step? frame now f .deliver
        = some ((called.tell caller changes left outcome).1, f,
          (m.sync.deliver frame.react changes next).2
            ++ (called.tell caller changes left outcome).2) := rfl
    obtain ⟨history, m', hplay, hview, hevents⟩ := ih called
    refine ⟨_, m', play?_cons hstep hplay, ?_, ?_⟩
    · rw [hview, List.flatMap_cons, List.foldl_append]
      simp only [called, Sync.deliver_eq]
    · show [] ++ ((m.sync.deliver frame.react changes next).2
          ++ (called.tell caller changes left outcome).2 ++ history.flatMap SyncStep.events) = _
      rw [List.nil_append, List.append_assoc, hevents, List.flatMap_cons]
      simp only [called, Sync.deliver_eq, List.append_assoc]
      rfl

/-- A refresh ends in a dispatch on the view of its namespace: the moves that look up the listeners
and call them can be made one after the other, and lead to the view and show the events of it. -/
def EndsInDispatch (frame : SyncFrame L) (now : Instant) (f : Files) (caller : Nat)
    (changes : ChangeSet) (outcome : RefreshOutcome) (m : SyncMachine L) : Prop :=
  ∃ history m', m.play? frame f ((now, .gather) ::
      List.replicate (m.sync.view.listeners.concerned changes).length (now, .deliver))
        = some (history, m', f)
    ∧ m'.sync.view
      = (m.sync.view.dispatch (fun e => frame.react e.listener changes) changes).view
    ∧ history.flatMap SyncStep.events
      = (m.sync.view.dispatch (fun e => frame.react e.listener changes) changes).events
        ++ m.sync.concluded outcome ++ [.ended caller outcome]

/-- **A refresh that has committed ends in a dispatch.** -/
theorem endsInDispatch_of_committed {frame : SyncFrame L} {now : Instant} {f : Files} {caller : Nat}
    {changes : ChangeSet} {outcome : RefreshOutcome} {m : SyncMachine L}
    (hactive : m.active = some ⟨caller, .committed changes outcome⟩) :
    m.EndsInDispatch frame now f caller changes outcome := by
  obtain ⟨history, m', hplay, hview, hevents⟩ :=
    exists_play_of_tell frame now f caller changes outcome
      (m.sync.view.listeners.concerned changes) m
  obtain ⟨hdispatched, -, hcalls, -⟩ := Dispatch.foldl_call changes
    (fun e => frame.react e.listener changes) (m.sync.view.listeners.concerned changes)
    { view := m.sync.view }
  have hstep : m.step? frame now f .gather
      = some ((m.tell caller changes (m.sync.view.listeners.concerned changes) outcome).1, f,
        (m.tell caller changes (m.sync.view.listeners.concerned changes) outcome).2) := by
    simp only [step?, hactive]
  refine ⟨_, m', play?_cons hstep hplay, hview.trans hdispatched.symm, ?_⟩
  rw [List.flatMap_cons, hevents]
  exact congrArg (· ++ _ ++ _) hcalls.symm

end SyncMachine

end LiveConfig
