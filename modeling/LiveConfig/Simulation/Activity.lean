import LiveConfig.Duration

/-!
# Activities

Programs that change a shared world step by step and wait in between, and the clock that they run
on.

## Time

The clock stands still while any activity can go on, and then jumps to the next moment for which one
of them waits. It counts milliseconds; a pause ends at the first whole millisecond that is not too
early.

## Main statements

- `done_bind`: an activity that is done hands its result to the next one.
-/

namespace LiveConfig.Simulation

/-! ## §1 Activities -/

/-- A program over a world `W` that ends with a result. -/
inductive Activity (W α : Type)
  | done (a : α)
  /-- Change the world and go on, knowing what it was before. -/
  | act (change : W → W) (next : W → Activity W α)
  /-- Wait until the world is in a state, or until a moment. -/
  | await (deadline : Option Nat) (ready : W → Bool) (next : Activity W α)
  /-- Go no further, for a reason. -/
  | fail (reason : String)

namespace Activity

variable {W α β : Type}

/-- One activity after another. -/
def bind (a : Activity W α) (next : α → Activity W β) : Activity W β :=
  match a with
  | done a => next a
  | act change k => act change fun w => (k w).bind next
  | await deadline ready k => await deadline ready (k.bind next)
  | fail reason => fail reason

instance : Monad (Activity W) where
  pure := done
  bind := bind

@[simp] theorem done_bind (a : α) (next : α → Activity W β) : (done a).bind next = next a := rfl

/-- Change the world. -/
def change (f : W → W) : Activity W Unit := act f fun _ => done ()

/-- Look at the world. -/
def look (f : W → α) : Activity W α := act id fun w => done (f w)

/-- Change the world and learn something about the change. -/
def update (f : W → α × W) : Activity W α := act (fun w => (f w).2) fun w => done (f w).1

/-- Wait until the world is in a state. -/
def waitFor (ready : W → Bool) : Activity W Unit := await none ready (done ())

/-- Wait until a moment. -/
def waitUntil (moment : Nat) : Activity W Unit := await (some moment) (fun _ => false) (done ())

/-- Do something until it says that it is done, at most so many times. -/
def loop : Nat → Activity W Bool → Activity W Unit
  | 0, _ => done ()
  | fuel + 1, body => body.bind fun finished => if finished then done () else loop fuel body

/-- Do something for each element of a list, and collect the results. -/
def forEach (xs : List β) (f : β → Activity W α) : Activity W (List α) :=
  match xs with
  | [] => done []
  | x :: xs => (f x).bind fun a => (forEach xs f).bind fun as => done (a :: as)

end Activity

namespace Activity

variable {W α : Type}

/-- Whether an activity can go on at a moment. -/
def runnable (now : Nat) (w : W) : Activity W α → Bool
  | await deadline ready _ => ready w || deadline.any (· ≤ now)
  | _ => true

/-- The moment for which an activity waits, if it waits for one. -/
def deadline? : Activity W α → Option Nat
  | await deadline _ _ => deadline
  | _ => none

/-- What one step of an activity leads to. -/
inductive Step (W α : Type)
  | next (w : W) (a : Activity W α)
  | ended (w : W) (result : α)
  | failed (reason : String)

/-- One step of an activity that can go on. -/
def step (w : W) : Activity W α → Step W α
  | done a => .ended w a
  | act change next => .next (change w) (next w)
  | await _ _ next => .next w next
  | fail reason => .failed reason

end Activity

/-! ## §2 The clock -/

/-- An activity beside the main one; `N` names it. -/
structure Thread (W N : Type) where
  name : N
  state : Activity W Unit

/-- What the clock has to know of a world. -/
structure Host (W N : Type) where
  /-- Now, in milliseconds. -/
  now : W → Nat
  setNow : Nat → W → W
  /-- The activities that have been started since, and the world without them. -/
  started : W → List N × W
  program : N → Activity W Unit
  /-- An activity that has been told to go away, and what its going changes. -/
  dropped : W → N → Bool
  onDrop : N → W → W
  /-- What the end of an activity changes. -/
  onEnd : N → W → W

/-- How a run ends. -/
inductive Ending (W α : Type)
  /-- The main activity has ended. -/
  | finished (w : W) (result : α)
  /-- The main activity has gone no further. -/
  | failed (reason : String)
  /-- Nothing can go on, ever. -/
  | deadlocked
  /-- The run takes too long. -/
  | exhausted

section Clock

variable {W N α : Type}

/-- The first activity that can go on, with those before and behind it. -/
def splitRunnable? (now : Nat) (w : W) :
    List (Thread W N) → Option (List (Thread W N) × Thread W N × List (Thread W N))
  | [] => none
  | t :: rest =>
    if t.state.runnable now w then some ([], t, rest)
    else (splitRunnable? now w rest).map fun (before, u, behind) => (t :: before, u, behind)

/-- Start and drop the activities that the world wants started and dropped. -/
def settle (host : Host W N) (w : W) (ts : List (Thread W N)) : W × List (Thread W N) :=
  let (names, w) := host.started w
  let ts := ts ++ names.map fun n => { name := n, state := host.program n }
  let gone := ts.filter fun t => host.dropped w t.name
  (gone.foldl (fun w t => host.onDrop t.name w) w, ts.filter fun t => !host.dropped w t.name)

/-- **Run a main activity** and those beside it until the main one has ended, in at most `fuel`
steps. -/
def run (host : Host W N) : Nat → W → Activity W α → List (Thread W N) → Ending W α
  | 0, _, _, _ => .exhausted
  | fuel + 1, w, main, ts =>
    let (w, ts) := settle host w ts
    let now := host.now w
    if main.runnable now w then
      match main.step w with
      | .next w main => run host fuel w main ts
      | .ended w result => .finished w result
      | .failed reason => .failed reason
    else
      match splitRunnable? now w ts with
      | some (before, t, behind) =>
        match t.state.step w with
        | .next w state => run host fuel w main (before ++ { t with state } :: behind)
        | .ended w _ => run host fuel (host.onEnd t.name w) main (before ++ behind)
        -- Its reason stays its own: all that is seen is that it is gone.
        | .failed _ => run host fuel (host.onDrop t.name w) main (before ++ behind)
      | none =>
        match (main.deadline?.toList ++ ts.filterMap fun t => t.state.deadline?).min? with
        | none => .deadlocked
        | some moment => run host fuel (host.setNow moment w) main ts

end Clock

end LiveConfig.Simulation
