import LiveConfig.ChangeSet

/-!
# Listeners

Who is told about the changes of a namespace: a registry of listeners with filters, and the delivery
of a change set to those that it concerns.

## Reactions

A listener that is called may edit the registry it stands in, and may fail. Both are part of its
`Reaction`. A delivery goes to the listeners that were registered when it began, whatever they do.

## Main statements

- `subscribe_id`: a new registration gets a number that no registration has had.
- `unsubscribe_found_iff`: removing succeeds exactly when the number is registered.
-/

namespace LiveConfig

/-! ## §1 Filters -/

/-- The changes that concern a listener: those of some keys and those of keys with some beginnings.
An empty filter lets everything through. -/
structure ListenerFilter where
  keys : List String := []
  /-- Beginnings of keys. -/
  starts : List String := []
deriving DecidableEq, Repr, Inhabited

namespace ListenerFilter

/-- Whether nothing is filtered. -/
def isEmpty (f : ListenerFilter) : Bool := f.keys.isEmpty && f.starts.isEmpty

/-- Whether a key is named, or begins as one of the beginnings. -/
def matchesKey (f : ListenerFilter) (key : String) : Bool :=
  f.keys.contains key || f.starts.any fun s => s.toList.isPrefixOf key.toList

/-- **Whether a change set concerns a listener.** -/
def matchesChanges (f : ListenerFilter) (c : ChangeSet) : Bool :=
  f.isEmpty || c.keys.any f.matchesKey

end ListenerFilter

/-! ## §2 The registry -/

/-- One listener that is registered under a number. -/
structure Registration (L : Type) where
  id : Nat
  listener : L
  filter : ListenerFilter
deriving DecidableEq, Repr

/-- The registered listeners, in the order of their registration. Numbers below `nextId` have been
given away.

A program gives them away from a counter of 64 bits, which starts anew only after 2 ^ 64
registrations; no registry lives to see that. -/
structure Listeners (L : Type) where
  nextId : Nat := 1
  entries : List (Registration L) := []
  id_lt : ∀ e ∈ entries, e.id < nextId := by simp
  /-- No number is registered twice. -/
  distinct : (entries.map Registration.id).Nodup := by simp
deriving DecidableEq, Repr

namespace Listeners

variable {L : Type}

/-- Register a listener: its number and the registry. -/
def subscribe (listener : L) (filter : ListenerFilter) (r : Listeners L) : Nat × Listeners L :=
  (r.nextId,
    { nextId := r.nextId + 1
      entries := r.entries ++ [⟨r.nextId, listener, filter⟩]
      id_lt := by
        intro e he
        rcases List.mem_append.1 he with he | he
        · exact Nat.lt_succ_of_lt (r.id_lt e he)
        · simp [List.mem_singleton.1 he]
      distinct := by
        refine List.map_append ▸ List.nodup_append.2 ⟨r.distinct, by simp, fun a ha b hb hab => ?_⟩
        obtain ⟨e, he, rfl⟩ := List.mem_map.1 ha
        simp only [List.map_cons, List.map_nil, List.mem_singleton] at hb
        exact Nat.ne_of_lt (r.id_lt e he) (hab.trans hb) })

/-- Remove a registration: whether there was one, and the registry. -/
def unsubscribe (id : Nat) (r : Listeners L) : Bool × Listeners L :=
  let kept := r.entries.filter fun e => e.id ≠ id
  (kept.length ≠ r.entries.length,
    { nextId := r.nextId
      entries := kept
      id_lt := fun e he => r.id_lt e (List.mem_filter.1 he).1
      distinct := (List.filter_sublist.map Registration.id).nodup r.distinct })

/-- How many listeners are registered. -/
def size (r : Listeners L) : Nat := r.entries.length

@[simp] theorem subscribe_id (listener : L) (filter : ListenerFilter) (r : Listeners L) :
    (r.subscribe listener filter).1 = r.nextId := rfl

/-- Removing succeeds exactly when the number is registered. -/
theorem unsubscribe_found_iff (id : Nat) (r : Listeners L) :
    (r.unsubscribe id).1 = true ↔ ∃ e ∈ r.entries, e.id = id := by
  simp only [unsubscribe, decide_eq_true_eq, ne_eq, List.length_filter_eq_length_iff]
  constructor
  · intro h
    exact Classical.byContradiction fun hn => h fun e he => by
      simpa using fun heq => hn ⟨e, he, heq⟩
  · rintro ⟨e, he, rfl⟩ h
    have := h e he
    simp at this

/-! ## §3 Delivery -/

/-- A change that a listener makes to the registry. -/
inductive Edit (L : Type)
  | subscribe (listener : L) (filter : ListenerFilter)
  | unsubscribe (id : Nat)
deriving DecidableEq, Repr

/-- What a listener does when it is called. -/
structure Reaction (L : Type) where
  /-- Its changes to the registry, in order. -/
  edits : List (Edit L) := []
  /-- The text with which it fails, if it fails. -/
  failure : Option String := none
deriving DecidableEq, Repr

/-- Make a change to the registry. -/
def edit (r : Listeners L) : Edit L → Listeners L
  | .subscribe listener filter => (r.subscribe listener filter).2
  | .unsubscribe id => (r.unsubscribe id).2

/-- The registrations that a change set concerns. -/
def concerned (c : ChangeSet) (r : Listeners L) : List (Registration L) :=
  if c.isEmpty then [] else r.entries.filter fun e => e.filter.matchesChanges c

/-- Call one listener: the registry afterwards, and the text with which it failed. -/
def call (react : L → ChangeSet → Reaction L) (c : ChangeSet) (e : Registration L)
    (r : Listeners L) : Listeners L × Option String :=
  let reaction := react e.listener c
  (reaction.edits.foldl edit r, reaction.failure)

/-- **Deliver a change set**: the registry afterwards, and each call with the text with which it
failed. -/
def dispatch (react : L → ChangeSet → Reaction L) (c : ChangeSet) (r : Listeners L) :
    Listeners L × List (Registration L × Option String) :=
  (r.concerned c).foldl
    (fun acc e =>
      let (r, failure) := acc.1.call react c e
      (r, acc.2 ++ [(e, failure)]))
    (r, [])

end Listeners

end LiveConfig
