import LiveConfig.Namespace

/-!
# The registry of namespaces

Which namespaces are synchronised. A namespace is set up when it is first asked for: it is made, put
on the notification channel, given a worker, and entered, all under one lock.

## The machine

Calls look a name up without the lock, and take the lock only if it is not there; then they look
again. Each `RegistryMove` is one stretch of one call.

## Main statements

- `begin_rejected`: a rejected name changes nothing.
-/

namespace LiveConfig

/-! ## §1 Calls -/

/-- Where a call stands. -/
inductive LookupPhase
  /-- It looks the name up. -/
  | reading
  /-- It waits for the lock. -/
  | waiting
  /-- It holds the lock, and looks again. -/
  | holding
  /-- It holds the lock and has made the namespace with a number. -/
  | made (sync : Nat)
  /-- The namespace is on the channel too. -/
  | announced (sync : Nat)
  /-- The namespace has a worker too. -/
  | staffed (sync : Nat)
deriving DecidableEq, Repr

/-- A call for a namespace by its canonical name. -/
structure LookupCall where
  id : Nat
  ns : String
  phase : LookupPhase
deriving DecidableEq, Repr

/-- The registered namespaces, what was done for them, and the calls under way. -/
structure Registry where
  /-- The numbers of the namespaces, by name. -/
  entries : List (String × Nat) := []
  /-- What was put on the channel, in order. -/
  announced : List (String × Nat) := []
  /-- The namespaces that were given a worker, in order. -/
  staffed : List Nat := []
  /-- The next number. -/
  next : Nat := 0
  /-- Who holds the lock. -/
  writer : Option Nat := none
  calls : List LookupCall := []
deriving DecidableEq, Repr

/-- One stretch of a call. -/
inductive RegistryMove
  /-- A call for a name as it was given. -/
  | call (id : Nat) (given : String)
  /-- The call goes on. -/
  | advance (id : Nat)
deriving DecidableEq, Repr

/-- What a stretch shows. -/
inductive RegistryEffect
  | nothing
  | rejected (e : Namespace.InvalidName)
  | made (ns : String) (sync : Nat)
  | announced (ns : String) (sync : Nat)
  | staffed (ns : String) (sync : Nat)
  /-- The call has ended with a namespace. -/
  | found (ns : String) (sync : Nat)
deriving DecidableEq, Repr

namespace Registry

/-- The namespace that is registered under a name. -/
def find? (ns : String) (r : Registry) : Option Nat := r.entries.lookup ns

/-- The registered names. -/
def names (r : Registry) : List String := r.entries.map Prod.fst

/-- The call with a number. -/
def call? (id : Nat) (r : Registry) : Option LookupCall := r.calls.find? fun c => c.id = id

/-- Put a call into another phase. -/
def setPhase (id : Nat) (phase : LookupPhase) (r : Registry) : Registry :=
  { r with calls := r.calls.map fun c => if c.id = id then { c with phase } else c }

/-- End a call, which lets go of the lock if it holds it. -/
def leave (id : Nat) (r : Registry) : Registry :=
  { r with
    calls := r.calls.filter fun c => c.id ≠ id
    writer := if r.writer = some id then none else r.writer }

/-! ## §2 Moves -/

/-- A call for a name: a name that is none ends it. -/
def begin (id : Nat) (given : String) (r : Registry) : Registry × RegistryEffect :=
  match Namespace.normalize given with
  | .error e => (r, .rejected e)
  | .ok ns => ({ r with calls := r.calls ++ [⟨id, ns, .reading⟩] }, .nothing)

/-- The next stretch of a call; none if it has to wait. -/
def advance? (c : LookupCall) (r : Registry) : Option (Registry × RegistryEffect) :=
  match c.phase with
  | .reading =>
    match r.find? c.ns with
    | some sync => some (r.leave c.id, .found c.ns sync)
    | none => some (r.setPhase c.id .waiting, .nothing)
  | .waiting =>
    if r.writer.isSome then none
    else some ({ r.setPhase c.id .holding with writer := some c.id }, .nothing)
  | .holding =>
    -- Another call may have entered the namespace while this one waited.
    match r.find? c.ns with
    | some sync => some (r.leave c.id, .found c.ns sync)
    | none =>
      some ({ r.setPhase c.id (.made r.next) with next := r.next + 1 }, .made c.ns r.next)
  | .made sync =>
    some ({ r.setPhase c.id (.announced sync) with announced := r.announced ++ [(c.ns, sync)] },
      .announced c.ns sync)
  | .announced sync =>
    some ({ r.setPhase c.id (.staffed sync) with staffed := r.staffed ++ [sync] },
      .staffed c.ns sync)
  | .staffed sync =>
    some (({ r with entries := r.entries ++ [(c.ns, sync)] } : Registry).leave c.id,
      .found c.ns sync)

/-- **One move**; none if it is not possible. -/
def step? (r : Registry) : RegistryMove → Option (Registry × RegistryEffect)
  | .call id given => if (r.call? id).isSome then none else some (r.begin id given)
  | .advance id => (r.call? id).bind fun c => r.advance? c

/-- A rejected name changes nothing. -/
theorem begin_rejected (id : Nat) (given : String) (r : Registry) (e : Namespace.InvalidName)
    (h : Namespace.normalize given = .error e) : r.begin id given = (r, .rejected e) := by
  unfold begin
  rw [h]

/-- Let a call that nobody disturbs run to its end: what it shows, in order. -/
def runCall (id : Nat) : Nat → Registry → Registry × List RegistryEffect
  | 0, r => (r, [])
  | fuel + 1, r =>
    match r.step? (.advance id) with
    | none => (r, [])
    | some (r, effect) =>
      let (r, more) := runCall id fuel r
      (r, effect :: more)

/-- The stretches of a call that sets up a namespace. -/
def callLength : Nat := 6

/-- A call that nobody disturbs, from its beginning to its end. -/
def obtain (id : Nat) (given : String) (r : Registry) : Registry × List RegistryEffect :=
  match r.begin id given with
  | (r, .rejected e) => (r, [.rejected e])
  | (r, _) => r.runCall id callLength

end Registry

end LiveConfig
