import LiveConfig.Discovery.Calls

/-!
# Runs of discovery

What can happen to the locator: moves of all callers, one after the other and in any order, at
moments that never go back. A run keeps its history, so that statements about it can look back.

## Main statements

- `DiscoveryRun.append`, `DiscoveryRun.cut`: runs follow one another, and can be cut at any step.
- `DiscoveryRun.of_play?`: moves that can be played are a run.
-/

namespace LiveConfig

/-- One move of a run, with the locator and its calls before and after it. -/
structure DiscoveryStep where
  moment : Instant
  move : DiscoveryMove
  before : Discovery
  after : Discovery
  effect : DiscoveryEffect

namespace DiscoveryStep

/-- The call whose request is sent, if one is sent. -/
def sender? (s : DiscoveryStep) : Option DiscoveryCall :=
  match s.move, s.effect with
  | .ask id, .sent _ => s.before.call? id
  | _, _ => none

/-- The list that an answer brings, if it brings one. -/
def list? (s : DiscoveryStep) : Option (List Endpoint) :=
  match s.move with
  | .answer _ (.ok (.body list)) => some list
  | _ => none

/-- A request is sent because a fetch has failed. -/
def asksAfterFailure (s : DiscoveryStep) : Bool :=
  s.sender?.any fun c => c.purpose = .afterFailure

/-- The request of a step: when it was sent, and by which call. -/
def request? (s : DiscoveryStep) : Option (Instant × DiscoveryCall) :=
  s.sender?.map fun c => (s.moment, c)

end DiscoveryStep

/-- **A run**: the moves of a history, the oldest first, lead from one state to another. -/
inductive DiscoveryRun (d₀ : Discovery) : List DiscoveryStep → Discovery → Prop
  | nil : DiscoveryRun d₀ [] d₀
  | snoc {history : List DiscoveryStep} {d d' : Discovery} {now : Instant} {move : DiscoveryMove}
      {effect : DiscoveryEffect} :
      DiscoveryRun d₀ history d → (∀ s ∈ history, s.moment ≤ now) →
      d.step? now move = some (d', effect) →
      DiscoveryRun d₀ (history ++ [⟨now, move, d, d', effect⟩]) d'

namespace DiscoveryRun

variable {d₀ d₁ d₂ : Discovery} {h₁ h₂ : List DiscoveryStep} {s : DiscoveryStep}

theorem single {now : Instant} {move : DiscoveryMove} {effect : DiscoveryEffect}
    (hstep : d₀.step? now move = some (d₁, effect)) :
    DiscoveryRun d₀ [⟨now, move, d₀, d₁, effect⟩] d₁ :=
  .snoc .nil (fun _ hs => absurd hs List.not_mem_nil) hstep

/-- Runs follow one another. -/
theorem append (run₁ : DiscoveryRun d₀ h₁ d₁) (run₂ : DiscoveryRun d₁ h₂ d₂)
    (hlater : ∀ s ∈ h₁, ∀ s' ∈ h₂, s.moment ≤ s'.moment) : DiscoveryRun d₀ (h₁ ++ h₂) d₂ := by
  induction run₂ with
  | nil => simpa using run₁
  | snoc _ hnow hstep ih =>
    rw [← List.append_assoc]
    refine .snoc (ih fun s hs s' hs' => hlater s hs s' (List.mem_append_left _ hs'))
      (fun s hs => ?_) hstep
    rcases List.mem_append.1 hs with hs | hs
    · exact hlater s hs _ (List.mem_append_right _ (List.mem_singleton.2 rfl))
    · exact hnow s hs

/-- A run can be cut at any of its steps. What follows the step is not earlier. -/
theorem cut (run : DiscoveryRun d₀ (h₁ ++ s :: h₂) d₂) :
    DiscoveryRun d₀ h₁ s.before ∧ s.before.step? s.moment s.move = some (s.after, s.effect)
      ∧ DiscoveryRun s.after h₂ d₂ ∧ ∀ s' ∈ h₂, s.moment ≤ s'.moment := by
  generalize hh : h₁ ++ s :: h₂ = h at run
  induction run generalizing h₂ with
  | nil => simp at hh
  | snoc run hnow hstep ih =>
    rcases List.eq_nil_or_concat h₂ with rfl | ⟨init, last, rfl⟩
    · -- The cut is at the last step.
      obtain ⟨rfl, hs⟩ := List.append_inj' hh rfl
      obtain rfl := List.singleton_inj.1 hs
      exact ⟨run, hstep, .nil, fun _ hs' => absurd hs' List.not_mem_nil⟩
    · rw [List.concat_eq_append] at hh ⊢
      rw [← List.cons_append, ← List.append_assoc] at hh
      obtain ⟨hinit, hlast⟩ := List.append_inj' hh rfl
      obtain rfl := List.singleton_inj.1 hlast
      obtain ⟨run₁, hcut, run₂, hlater⟩ := ih hinit
      refine ⟨run₁, hcut, .snoc run₂ (fun s' hs' => ?_) hstep, fun s' hs' => ?_⟩
      · apply hnow s'
        rw [← hinit]
        exact List.mem_append_right _ (List.mem_cons_of_mem _ hs')
      · rcases List.mem_append.1 hs' with hs' | hs'
        · exact hlater s' hs'
        · obtain rfl := List.mem_singleton.1 hs'
          apply hnow s
          rw [← hinit]
          exact List.mem_append_right _ List.mem_cons_self

/-- What comes before a step is not later. -/
theorem moment_le_of_mem {s' : DiscoveryStep} (run : DiscoveryRun d₀ (h₁ ++ s :: h₂) d₂)
    (hs' : s' ∈ h₁) : s'.moment ≤ s.moment := by
  obtain ⟨a, b, rfl⟩ := List.append_of_mem hs'
  rw [List.append_assoc, List.cons_append] at run
  obtain ⟨-, -, -, hlater⟩ := run.cut
  exact hlater s (List.mem_append_right _ List.mem_cons_self)

end DiscoveryRun

/-! ## Playing moves -/

namespace Discovery

/-- A locator with a meta server and without fixed instances, before any discovery. -/
def untouched : Discovery where
  locator := .ofConfig { metaServer := "http://[::1]/", appId := "demo" }

/-- Make moves one after the other, each at its moment; none if one of them is not possible. -/
def play? (d : Discovery) :
    List (Instant × DiscoveryMove) → Option (List DiscoveryStep × Discovery)
  | [] => some ([], d)
  | (now, move) :: rest => do
    let (d', effect) ← d.step? now move
    let (history, last) ← d'.play? rest
    pure (⟨now, move, d, d', effect⟩ :: history, last)

end Discovery

/-- Moves that can be played are a run, if their moments do not go back. -/
theorem DiscoveryRun.of_play? {d d' : Discovery} {moves : List (Instant × DiscoveryMove)}
    {history : List DiscoveryStep} (h : d.play? moves = some (history, d'))
    (hlater : (moves.map Prod.fst).Pairwise (· ≤ ·)) :
    DiscoveryRun d history d' ∧ history.map (fun s => (s.moment, s.move)) = moves := by
  induction moves generalizing d history with
  | nil =>
    simp only [Discovery.play?, Option.some.injEq, Prod.mk.injEq] at h
    obtain ⟨rfl, rfl⟩ := h
    exact ⟨.nil, rfl⟩
  | cons head rest ih =>
    obtain ⟨now, move⟩ := head
    simp only [Discovery.play?, Option.bind_eq_bind, Option.pure_def, Option.bind_eq_some_iff,
      Option.some.injEq, Prod.mk.injEq] at h
    obtain ⟨⟨d₁, effect⟩, hstep, ⟨h₁, last⟩, hrest, rfl, rfl⟩ := h
    rw [List.map_cons, List.pairwise_cons] at hlater
    obtain ⟨run, hmoves⟩ := ih hrest hlater.2
    refine ⟨(single hstep).append run fun s hs s' hs' => ?_, by simp [hmoves]⟩
    obtain rfl := List.mem_singleton.1 hs
    -- The moments of the history are those of the moves.
    have hmoment : s'.moment ∈ rest.map Prod.fst := by
      rw [← hmoves, List.map_map]
      exact List.mem_map.2 ⟨s', hs', rfl⟩
    exact hlater.1 _ hmoment

/-- What is seen at the end of moves that can be played is seen at the end of a run. -/
theorem DiscoveryRun.exists_of_play? (d : Discovery) (moves : List (Instant × DiscoveryMove))
    (seen : List DiscoveryStep × Discovery → Bool) (h : (d.play? moves).any seen = true)
    (hlater : (moves.map Prod.fst).Pairwise (· ≤ ·)) :
    ∃ history d', DiscoveryRun d history d' ∧ history.map (fun s => (s.moment, s.move)) = moves
      ∧ seen (history, d') = true := by
  obtain ⟨⟨history, d'⟩, hplay, hseen⟩ := (Option.any_eq_true _ _).1 h
  obtain ⟨run, hmoves⟩ := of_play? hplay hlater
  exact ⟨history, d', run, hmoves, hseen⟩

end LiveConfig
