import LiveConfig.Simulation.World

/-!
# Runs of a client

What can happen to a client: stretches of calls for namespaces, moves of the namespaces that it has,
and everything else, one after the other and in any order. A run keeps its history, so that
statements about it can look back.

## What is aside

Time, the network, the disk, the loops in the background and everything that is shown may change in
any way between two moves. What they do to a namespace is a move of that namespace.

## Main statements

- `World.fresh_ofConfig`: a client that has just been set up knows no namespace.
- `ClientRun.append`, `ClientRun.cut`: runs follow one another.
- `ClientRun.exists_of_play?`: stretches that can be played are a run.
-/

namespace LiveConfig.Simulation

/-- One uninterrupted stretch of a client. -/
inductive ClientMove
  /-- A stretch of a call for a namespace. -/
  | lookUp (move : RegistryMove)
  /-- A move of the namespace with a number. -/
  | move (sync : Nat) (move : SyncMove Script)
  /-- Something that concerns neither the registry nor a namespace. -/
  | aside

namespace World

/-- Worlds that agree in the registry, the namespaces and what these were told. -/
structure Alike (w w' : World) : Prop where
  registry_eq : w'.registry = w.registry
  machines_eq : w'.machines = w.machines
  setting_eq : w'.setting = w.setting

/-- What one stretch of a client can lead to. -/
inductive Step (w : World) : ClientMove → World → Prop
  | lookUp {move : RegistryMove} {r : Registry} {effect : RegistryEffect}
      (h : w.registry.step? move = some (r, effect)) :
      Step w (.lookUp move) (enact { w with registry := r } effect)
  | move {sync : Nat} {move : SyncMove Script} {m m' : SyncMachine Script} {f : Files}
      {events : List (SyncEvent Script)} (hm : w.machine? sync = some m)
      (h : m.step? w.frame w.instant w.files move = some (m', f, events)) :
      Step w (.move sync move) (w.move sync move).2
  | aside {w' : World} (h : w.Alike w') : Step w .aside w'

/-- A client that knows no namespace. -/
structure Fresh (w : World) : Prop where
  registry_eq : w.registry = {}
  machines_eq : w.machines = []

theorem fresh_ofConfig (c : SyncConfig) : (ofConfig c).Fresh := ⟨rfl, rfl⟩

end World

/-- One stretch of a run, with the client before and after it. -/
structure ClientStep where
  move : ClientMove
  before : World
  after : World

/-- **A run of a client**: the stretches of a history, the oldest first, lead from one world to
another. -/
inductive ClientRun (w₀ : World) : List ClientStep → World → Prop
  | nil : ClientRun w₀ [] w₀
  | snoc {history : List ClientStep} {w w' : World} {move : ClientMove} :
      ClientRun w₀ history w → w.Step move w' → ClientRun w₀ (history ++ [⟨move, w, w'⟩]) w'

namespace ClientRun

variable {w₀ w₁ w₂ : World} {h₁ h₂ : List ClientStep}

/-- Runs follow one another. -/
theorem append (run₁ : ClientRun w₀ h₁ w₁) (run₂ : ClientRun w₁ h₂ w₂) :
    ClientRun w₀ (h₁ ++ h₂) w₂ := by
  induction run₂ with
  | nil => simpa using run₁
  | snoc _ step ih => rw [← List.append_assoc]; exact .snoc ih step

theorem single {move : ClientMove} (step : w₀.Step move w₁) :
    ClientRun w₀ [⟨move, w₀, w₁⟩] w₁ :=
  .snoc .nil step

/-- A run can be cut before any of its stretches. -/
theorem cut {s : ClientStep} (run : ClientRun w₀ (h₁ ++ s :: h₂) w₂) :
    ClientRun w₀ h₁ s.before ∧ s.before.Step s.move s.after ∧ ClientRun s.after h₂ w₂ := by
  generalize hh : h₁ ++ s :: h₂ = h at run
  induction run generalizing h₂ with
  | nil => simp at hh
  | snoc run step ih =>
    rcases List.eq_nil_or_concat h₂ with rfl | ⟨init, last, rfl⟩
    · -- The cut is before the last stretch.
      obtain ⟨rfl, hs⟩ := List.append_inj' hh rfl
      obtain rfl := List.singleton_inj.1 hs
      exact ⟨run, step, .nil⟩
    · rw [List.concat_eq_append] at hh ⊢
      rw [← List.cons_append, ← List.append_assoc] at hh
      obtain ⟨hinit, hlast⟩ := List.append_inj' hh rfl
      obtain rfl := List.singleton_inj.1 hlast
      obtain ⟨run₁, hcut, run₂⟩ := ih hinit
      exact ⟨run₁, hcut, .snoc run₂ step⟩

end ClientRun

/-! ## Playing stretches -/

namespace World

/-- Make one stretch; none if it is not possible. What is aside stays as it is. -/
def stretch? (w : World) : ClientMove → Option World
  | .lookUp move =>
    (w.registry.step? move).map fun (registry, effect) => enact { w with registry } effect
  | .move sync move =>
    (w.machine? sync).bind fun m =>
      (m.step? w.frame w.instant w.files move).map fun _ => (w.move sync move).2
  | .aside => some w

/-- Make stretches one after the other; none if one of them is not possible. -/
def play? (w : World) : List ClientMove → Option (List ClientStep × World)
  | [] => some ([], w)
  | move :: rest => do
    let w' ← w.stretch? move
    let (history, last) ← w'.play? rest
    pure (⟨move, w, w'⟩ :: history, last)

theorem step_of_stretch? {w w' : World} {move : ClientMove} (h : w.stretch? move = some w') :
    w.Step move w' := by
  cases move with
  | lookUp move =>
    obtain ⟨⟨r, effect⟩, hstep, rfl⟩ := Option.map_eq_some_iff.1 h
    exact .lookUp hstep
  | move sync move =>
    obtain ⟨m, hm, hmoved⟩ := Option.bind_eq_some_iff.1 h
    obtain ⟨⟨m', f, events⟩, hstep, rfl⟩ := Option.map_eq_some_iff.1 hmoved
    exact .move hm hstep
  | aside =>
    cases h
    exact .aside ⟨rfl, rfl, rfl⟩

end World

/-- The stretches of a call that sets a namespace up. -/
def ClientMove.settingUp (given : String) : List ClientMove :=
  .lookUp (.call 0 given) :: List.replicate Registry.callLength (.lookUp (.advance 0))

/-- Stretches that can be played are a run. -/
theorem ClientRun.of_play? {w w' : World} {moves : List ClientMove} {history : List ClientStep}
    (h : w.play? moves = some (history, w')) :
    ClientRun w history w' ∧ history.map ClientStep.move = moves := by
  induction moves generalizing w history with
  | nil =>
    simp only [World.play?, Option.some.injEq, Prod.mk.injEq] at h
    obtain ⟨rfl, rfl⟩ := h
    exact ⟨.nil, rfl⟩
  | cons move rest ih =>
    simp only [World.play?, Option.bind_eq_bind, Option.pure_def, Option.bind_eq_some_iff,
      Option.some.injEq, Prod.mk.injEq] at h
    obtain ⟨w₁, hstretch, ⟨h₁, last⟩, hrest, rfl, rfl⟩ := h
    obtain ⟨run, hmoves⟩ := ih hrest
    exact ⟨(single (World.step_of_stretch? hstretch)).append run, by simp [hmoves]⟩

/-- What is seen at the end of stretches that can be played is seen at the end of a run. -/
theorem ClientRun.exists_of_play? (w : World) (moves : List ClientMove)
    (seen : List ClientStep × World → Bool) (h : (w.play? moves).any seen = true) :
    ∃ history w', ClientRun w history w' ∧ history.map ClientStep.move = moves
      ∧ seen (history, w') = true := by
  obtain ⟨⟨history, w'⟩, hplay, hseen⟩ := (Option.any_eq_true _ _).1 h
  obtain ⟨run, hmoves⟩ := ClientRun.of_play? hplay
  exact ⟨history, w', run, hmoves, hseen⟩

end LiveConfig.Simulation
