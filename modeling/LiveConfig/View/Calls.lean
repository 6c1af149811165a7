import LiveConfig.Sync.Event

/-!
# Calls on a view

Listeners are registered and removed, and change sets are dispatched to them, one call after the
other. A listener that is called may itself register and remove listeners, and may fail. Every
change of the registry keeps its answer, whoever makes it.

## Main statements

- `Listeners.answers_append`: changes are answered one after the other.
-/

namespace LiveConfig

variable {L : Type}

namespace Listeners

/-! ## §1 Answers of the registry -/

/-- What the registry answers to a change. -/
inductive EditAnswer (L : Type)
  | subscribed (e : Registration L)
  | unsubscribed (id : Nat) (found : Bool)

/-- The registration that a change has made. -/
def EditAnswer.registration? : EditAnswer L → Option (Registration L)
  | .subscribed e => some e
  | .unsubscribed .. => none

/-- Whether a change has removed a registration. -/
def EditAnswer.removes (id : Nat) : EditAnswer L → Bool
  | .subscribed _ => false
  | .unsubscribed other found => other == id && found

/-- The answer to a change. -/
def answer (r : Listeners L) : Edit L → EditAnswer L
  | .subscribe listener filter => .subscribed ⟨(r.subscribe listener filter).1, listener, filter⟩
  | .unsubscribe id => .unsubscribed id (r.unsubscribe id).1

/-- The answers to changes that are made one after the other. -/
def answers (r : Listeners L) : List (Edit L) → List (EditAnswer L)
  | [] => []
  | e :: rest => r.answer e :: (r.edit e).answers rest

theorem answers_append (r : Listeners L) (edits edits' : List (Edit L)) :
    r.answers (edits ++ edits') = r.answers edits ++ (edits.foldl edit r).answers edits' := by
  induction edits generalizing r with
  | nil => rfl
  | cons e edits ih => simp only [List.cons_append, answers, List.foldl_cons, ih]

end Listeners

/-! ## §2 Dispatches -/

open Listeners

/-- A dispatch under way. -/
structure Dispatch (L : Type) where
  view : View L
  /-- What the changes that the listeners made to the registry were answered with. -/
  edits : List (EditAnswer L) := []
  events : List (SyncEvent L) := []
  /-- How many listeners have been called and have not failed. -/
  completed : Nat := 0

/-- What is shown of the call of a listener. -/
def View.callEvents (changes : ChangeSet) (e : Registration L) (failure : Option String)
    (v : View L) : List (SyncEvent L) :=
  .called e changes v.snapshot failure :: match failure with
    | none => []
    | some text =>
      [.logged (SyncEvent.panicLine v.ns e.id text), .observed (.listenerPanic v.ns)]

/-- Call one listener, which reacts in some way. -/
def Dispatch.call (changes : ChangeSet) (e : Registration L) (reaction : Reaction L)
    (d : Dispatch L) : Dispatch L :=
  let (listeners, failure) := d.view.listeners.call (fun _ _ => reaction) changes e
  { view := { d.view with listeners }
    edits := d.edits ++ d.view.listeners.answers reaction.edits
    events := d.events ++ d.view.callEvents changes e failure
    completed := d.completed + failure.isNone.toNat }

namespace View

/-- **Dispatch a change set** to those who are registered now and whom it concerns, one after the
other. -/
def dispatch (behave : Registration L → Reaction L) (changes : ChangeSet) (v : View L) :
    Dispatch L :=
  (v.listeners.concerned changes).foldl (fun d e => d.call changes e (behave e)) { view := v }

end View

/-! ## §3 Calls -/

/-- A call on a view. -/
inductive ViewCall (L : Type)
  | subscribe (listener : L) (filter : ListenerFilter)
  | unsubscribe (id : Nat)
  /-- A dispatch during which each listener reacts in some way of its own. -/
  | dispatch (changes : ChangeSet) (behave : Registration L → Reaction L)

/-- A call with what comes of it. -/
structure ListeningStep (L : Type) where
  call : ViewCall L
  before : View L
  after : View L
  /-- The answers to all changes of the registry, those that listeners make included. -/
  edits : List (EditAnswer L)
  events : List (SyncEvent L) := []
  /-- What a dispatch returns. -/
  completed : Nat := 0

namespace View

/-- Make a call. -/
def perform (v : View L) (call : ViewCall L) : ListeningStep L :=
  match call with
  | .subscribe listener filter =>
    let (id, after) := v.subscribe listener filter
    { call, before := v, after, edits := [.subscribed ⟨id, listener, filter⟩] }
  | .unsubscribe id =>
    let (found, after) := v.unsubscribe id
    { call, before := v, after, edits := [.unsubscribed id found] }
  | .dispatch changes behave =>
    let d := v.dispatch behave changes
    { call, before := v, after := d.view, edits := d.edits, events := d.events,
      completed := d.completed }

/-- **Make calls one after the other.** -/
def history (v : View L) : List (ViewCall L) → List (ListeningStep L)
  | [] => []
  | call :: rest => v.perform call :: (v.perform call).after.history rest

end View

end LiveConfig
