import LiveConfig.Sync.Machine

/-!
# Runs of a namespace

What can happen to a namespace and the files of its cache: moves of all parties, one after the other
and in any order. A run keeps its history, so that statements about it can look back.

## Main statements

- `SyncRun.append`, `SyncRun.cut`: runs follow one another, and can be cut after any step.
- `SyncRun.of_play?`: moves that can be played are a run.
-/

namespace LiveConfig

variable {L : Type}

/-- One move of a run, with the namespace before and after it. -/
structure SyncStep (L : Type) where
  moment : Instant
  move : SyncMove L
  before : SyncMachine L
  after : SyncMachine L
  /-- The files of the cache afterwards. -/
  files : Files
  events : List (SyncEvent L)

/-- **A run**: the moves of a history, the oldest first, lead from one namespace to another. -/
inductive SyncRun (frame : SyncFrame L) (m₀ : SyncMachine L) (f₀ : Files) :
    List (SyncStep L) → SyncMachine L → Files → Prop
  | nil : SyncRun frame m₀ f₀ [] m₀ f₀
  | snoc {history : List (SyncStep L)} {m m' : SyncMachine L} {f f' : Files} {now : Instant}
      {move : SyncMove L} {events : List (SyncEvent L)} :
      SyncRun frame m₀ f₀ history m f → m.step? frame now f move = some (m', f', events) →
      SyncRun frame m₀ f₀ (history ++ [⟨now, move, m, m', f', events⟩]) m' f'

/-- What a namespace shows. -/
def SyncMachine.shown (m : SyncMachine L) : Snapshot := m.sync.view.snapshot

/-- Who listens to a namespace. -/
def SyncMachine.registered (m : SyncMachine L) : List (Registration L) :=
  m.sync.view.listeners.entries

/-- Nobody gives up a refresh that he has asked for. -/
def Completed (history : List (SyncStep L)) : Prop :=
  ∀ s ∈ history, ∀ caller, s.move ≠ .abandon caller

/-- Whether somebody gives up can be read off the moves. -/
theorem completed_iff_moves {h : List (SyncStep L)} :
    Completed h ↔ ∀ move ∈ h.map SyncStep.move, ∀ caller, move ≠ .abandon caller := by
  simp [Completed]

@[simp] theorem completed_append {h h' : List (SyncStep L)} :
    Completed (h ++ h') ↔ Completed h ∧ Completed h' := by
  simp only [Completed, List.mem_append, or_imp, forall_and]

namespace SyncRun

variable {frame : SyncFrame L} {m₀ m₁ m₂ : SyncMachine L} {f₀ f₁ f₂ : Files}
  {h h₁ h₂ : List (SyncStep L)}

/-- Runs follow one another. -/
theorem append (run₁ : SyncRun frame m₀ f₀ h₁ m₁ f₁) (run₂ : SyncRun frame m₁ f₁ h₂ m₂ f₂) :
    SyncRun frame m₀ f₀ (h₁ ++ h₂) m₂ f₂ := by
  induction run₂ with
  | nil => simpa using run₁
  | snoc _ hstep ih => rw [← List.append_assoc]; exact .snoc ih hstep

/-- Every step of a run is a move that was possible. -/
theorem step_of_mem {s : SyncStep L} (run : SyncRun frame m₀ f₀ h m₁ f₁) (hs : s ∈ h) :
    ∃ f, s.before.step? frame s.moment f s.move = some (s.after, s.files, s.events) := by
  induction run with
  | nil => cases hs
  | snoc _ hstep ih =>
    rcases List.mem_append.1 hs with hs | hs
    · exact ih hs
    · obtain rfl := List.mem_singleton.1 hs
      exact ⟨_, hstep⟩

/-- A run can be cut after any of its steps. -/
theorem cut {s : SyncStep L} (run : SyncRun frame m₀ f₀ (h₁ ++ s :: h₂) m₂ f₂) :
    SyncRun frame m₀ f₀ (h₁ ++ [s]) s.after s.files
      ∧ SyncRun frame s.after s.files h₂ m₂ f₂ := by
  generalize hh : h₁ ++ s :: h₂ = h at run
  induction run generalizing h₂ with
  | nil => simp at hh
  | snoc run hstep ih =>
    rcases List.eq_nil_or_concat h₂ with rfl | ⟨init, last, rfl⟩
    · -- The cut is after the last step.
      obtain ⟨rfl, hs⟩ := List.append_inj' hh rfl
      obtain rfl := List.singleton_inj.1 hs
      exact ⟨.snoc run hstep, .nil⟩
    · rw [List.concat_eq_append] at hh ⊢
      rw [← List.cons_append, ← List.append_assoc] at hh
      obtain ⟨hinit, hlast⟩ := List.append_inj' hh rfl
      obtain rfl := List.singleton_inj.1 hlast
      obtain ⟨run₁, run₂⟩ := ih hinit
      exact ⟨run₁, .snoc run₂ hstep⟩

end SyncRun

/-! ## Playing moves -/

/-- Nothing is cached, and listeners do nothing but listen. -/
def SyncFrame.plain : SyncFrame Unit where
  setting := {}
  react _ _ := {}

namespace SyncMachine

/-- Make moves one after the other, each at its moment; none if one of them is not possible. -/
def play? (frame : SyncFrame L) (m : SyncMachine L) (f : Files) :
    List (Instant × SyncMove L) → Option (List (SyncStep L) × SyncMachine L × Files)
  | [] => some ([], m, f)
  | (now, move) :: rest => do
    let (m', f', events) ← m.step? frame now f move
    let (history, last, disk) ← m'.play? frame f' rest
    pure (⟨now, move, m, m', f', events⟩ :: history, last, disk)

end SyncMachine

/-- Moves that can be played are a run. -/
theorem SyncRun.of_play? {frame : SyncFrame L} {m m' : SyncMachine L} {f f' : Files}
    {moves : List (Instant × SyncMove L)} {history : List (SyncStep L)}
    (h : m.play? frame f moves = some (history, m', f')) :
    SyncRun frame m f history m' f' ∧ history.map SyncStep.move = moves.map Prod.snd := by
  induction moves generalizing m f history with
  | nil =>
    simp only [SyncMachine.play?, Option.some.injEq, Prod.mk.injEq] at h
    obtain ⟨rfl, rfl, rfl⟩ := h
    exact ⟨.nil, rfl⟩
  | cons move rest ih =>
    simp only [SyncMachine.play?, Option.bind_eq_bind, Option.pure_def,
      Option.bind_eq_some_iff, Option.some.injEq, Prod.mk.injEq] at h
    obtain ⟨⟨m₁, f₁, events⟩, hstep, ⟨h₁, last, disk⟩, hrest, rfl, rfl, rfl⟩ := h
    obtain ⟨run, hmoves⟩ := ih hrest
    exact ⟨(SyncRun.snoc .nil hstep).append run, by simp [hmoves]⟩

/-- What is seen at the end of moves that can be played is seen at the end of a run. -/
theorem SyncRun.exists_of_play? (frame : SyncFrame L) (m : SyncMachine L) (f : Files)
    (moves : List (Instant × SyncMove L))
    (seen : List (SyncStep L) × SyncMachine L × Files → Bool)
    (h : (m.play? frame f moves).any seen = true) :
    ∃ history m' f', SyncRun frame m f history m' f'
      ∧ history.map SyncStep.move = moves.map Prod.snd ∧ seen (history, m', f') = true := by
  obtain ⟨⟨history, m', f'⟩, hplay, hseen⟩ := (Option.any_eq_true _ _).1 h
  obtain ⟨run, hmoves⟩ := SyncRun.of_play? hplay
  exact ⟨history, m', f', run, hmoves, hseen⟩

end LiveConfig
