import LiveConfig.Proofs.Client.Step
import LiveConfig.Proofs.Registry
import LiveConfig.Proofs.Sync.Course
import LiveConfig.Scenario.Session

/-!
# The registered namespaces of a client

The registry says which namespaces there are. Behind each of its numbers there is one namespace, and
it bears the name under which it is registered.

## Main statements

- `World.sound_of_step`: every stretch keeps the registry and the namespaces together.
- `World.fresh_of_setUp`: a client that has been set up knows no namespace.
- `ClientRun.exists_machine`: behind every registered name there is a namespace of this name.
- `ClientRun.obtain`: to ask for a namespace is a run.
-/

namespace LiveConfig.Simulation

namespace World

/-! ## §1 Numbers -/

/-- The namespace with a number bears a name. -/
def Named (w : World) (n : Nat) (ns : String) : Prop := ∃ m, w.machine? n = some m ∧ m.sync.ns = ns

/-- **The registry and the namespaces fit together.** -/
structure Sound (w : World) : Prop where
  registry : w.registry.Sound
  numbered : w.registry.Numbered w.Named
  /-- The next number is free. -/
  free : ∀ n m, w.machine? n = some m → n < w.registry.next

section Numbers

variable {w w' : World} {n sync : Nat} {ns : String} {move : ClientMove}

/-- A namespace keeps its name. -/
theorem named_of_step (step : w.Step move w') (h : w.Named n ns) : w'.Named n ns := by
  obtain ⟨m, hm, hns⟩ := h
  have hbecomes : w.Becomes n move (w'.machine? n) := becomes_of_step step
  unfold Named
  generalize w'.machine? n = after at hbecomes
  cases hbecomes with
  | kept => exact ⟨m, hm, hns⟩
  | moved hbefore hstep | told hbefore hstep =>
    obtain rfl := Option.some.inj (hm.symm.trans hbefore)
    exact ⟨_, rfl, (SyncMachine.ns_of_step hstep).trans hns⟩
  | made hnew =>
    rw [hm] at hnew
    cases hnew

theorem registry_enact (w : World) (effect : RegistryEffect) :
    (w.enact effect).registry = w.registry := by
  cases effect with
  | nothing | rejected | announced | found => rfl
  | made => exact (alike_shown ..).registry_eq
  | staffed ns sync =>
    rw [(alike_staff ns w).registry_eq]
    split
    · cases hm : w.machine? sync with
      | none => rw [move_refused fun m hm' => nomatch hm.symm.trans hm']
      | some m => exact (alike_move hm rfl).registry_eq
    · rfl

/-- What one stretch can do to the registry. -/
theorem registry_of_step (step : w.Step move w') :
    (w'.registry = w.registry ∧ ∀ own, move ≠ .lookUp own) ∨
      ∃ own effect, move = .lookUp own ∧
        w.registry.step? own = some (w'.registry, effect) := by
  cases step with
  | aside h => exact .inl ⟨h.registry_eq, nofun⟩
  | move hm h => exact .inl ⟨(alike_move hm h).registry_eq, nofun⟩
  | @lookUp own r effect h => exact .inr ⟨own, effect, rfl, by rw [registry_enact]; exact h⟩

theorem sound_of_fresh (h : w.Fresh) : w.Sound where
  registry := h.registry_eq ▸ Registry.sound_empty
  numbered := by
    rw [h.registry_eq]
    exact ⟨nofun, nofun⟩
  free n m hm := by simp [machine?, h.machines_eq] at hm

/-- **A namespace that is made** is there afterwards, under the number that it was given. -/
theorem named_made {own : RegistryMove} {r : Registry} (hw : w.Sound)
    (h : w.registry.step? own = some (r, .made ns sync)) :
    (enact { w with registry := r } (.made ns sync)).Named sync ns := by
  obtain ⟨hnext, -⟩ := (Registry.next_of_step (Registry.step_of_step? h)).2 ns sync rfl
  -- The next number is free, so what is found under it is what has just been made.
  have hnone : w.machine? sync = none :=
    Option.eq_none_iff_forall_ne_some.2 fun m hm => absurd (hw.free sync m hm) (by omega)
  refine ⟨_, machine?_enact_made.trans ?_, SyncMachine.ns_start w.setting w.files ns w.instant⟩
  change (w.machine? sync).or _ = _
  rw [hnone, Option.none_or, if_pos rfl]
  rfl

/-- **Every stretch keeps the registry and the namespaces together.** -/
theorem sound_of_step (hw : w.Sound) (step : w.Step move w') : w'.Sound := by
  have hnamed (n : Nat) (ns : String) : w.Named n ns → w'.Named n ns := named_of_step step
  have hbecomes (n : Nat) : w.Becomes n move (w'.machine? n) := becomes_of_step step
  obtain ⟨hregistry, hother⟩ | ⟨own, effect, rfl, hregistry⟩ := registry_of_step step
  · -- The registry stands still, and no namespace comes into being.
    refine ⟨hregistry ▸ hw.registry, hregistry ▸ hw.numbered.mono hnamed, fun n m hm => ?_⟩
    rw [hregistry]
    have hbecomes := hbecomes n
    rw [hm] at hbecomes
    generalize hafter : some m = after at hbecomes
    cases hbecomes with
    | kept => exact hw.free n m hafter.symm
    | moved hbefore => exact hw.free n _ hbefore
    | told | made => exact absurd rfl (hother _)
  · -- A stretch of a call can make one namespace, which takes the next number.
    have hstep := Registry.step_of_step? hregistry
    obtain ⟨hle, hnext⟩ := Registry.next_of_step hstep
    refine ⟨Registry.sound_of_step hw.registry hstep, ?_, fun n m hm => ?_⟩
    · refine Registry.numbered_of_step (hw.numbered.mono hnamed) hw.registry hstep ?_
      rintro ns sync rfl
      cases step with
      | @lookUp _ r effect h =>
        rw [registry_enact] at hregistry
        cases h.symm.trans hregistry
        exact named_made hw h
    · have hbecomes := hbecomes n
      rw [hm] at hbecomes
      generalize hafter : some m = after at hbecomes
      cases hbecomes with
      | kept => exact Nat.lt_of_lt_of_le (hw.free n m hafter.symm) hle
      | told hbefore => exact Nat.lt_of_lt_of_le (hw.free n _ hbefore) hle
      | @made _ r ns _ hmade =>
        cases hmade.symm.trans hregistry
        exact (hnext ns n rfl).2

end Numbers

end World

/-! ## §2 Runs -/

/-- **A client that has been set up knows no namespace**, whatever it was told. -/
theorem World.fresh_of_setUp {given c : SyncConfig} {agent : String} {files : Files} {w : World}
    (h : setUp given agent files = .ok (w, c)) : w.Fresh := by
  have hlogged (warnings : List SyncConfig.Warning) (w : World) (hw : w.Fresh) : (warnings.foldl
      (fun w warning => w.log "" (.warning warning.message [])) w).Fresh := by
    induction warnings generalizing w with
    | nil => exact hw
    | cons warning warnings ih => exact ih _ ⟨hw.registry_eq, hw.machines_eq⟩
  have hopened (c : SyncConfig) (w : World) (hw : w.Fresh) : (w.openCache c).Fresh := by
    unfold openCache
    obtain ⟨files, opened⟩ := CacheStore.openAt w.files Scenario.cacheRoot c.appId c.cluster
    cases opened <;> exact ⟨hw.registry_eq, hw.machines_eq⟩
  -- A configuration is refused, or all that happens is what the two facts above are about.
  unfold setUp at h
  split at h
  · cases h
  · split at h
    · cases h
    · split at h
      · cases h
      · cases h
        exact hopened _ _ (hlogged _ _ ⟨rfl, rfl⟩)

namespace ClientRun

variable {w₀ w : World} {h : List ClientStep} {ns : String} {sync : Nat}

theorem sound (run : ClientRun w₀ h w) (hstart : w₀.Sound) : w.Sound := by
  induction run with
  | nil => exact hstart
  | snoc _ step ih => exact World.sound_of_step ih step

/-- **Behind every registered name there is a namespace** of this name. -/
theorem exists_machine (run : ClientRun w₀ h w) (hfresh : w₀.Fresh)
    (hfind : w.registry.find? ns = some sync) : w.Named sync ns :=
  (run.sound (World.sound_of_fresh hfresh)).numbered.entered _ (Registry.mem_entries_of_find? hfind)

/-- What is registered stays registered under its number. -/
theorem find?_mono (run : ClientRun w₀ h w) (hfind : w₀.registry.find? ns = some sync) :
    w.registry.find? ns = some sync := by
  induction run with
  | nil => exact hfind
  | snoc _ step ih =>
    obtain ⟨hsame, -⟩ | ⟨own, effect, -, hstep⟩ := World.registry_of_step step
    · rw [hsame]
      exact ih
    · exact Registry.find?_of_step (Registry.step_of_step? hstep) ih

end ClientRun

/-! ## §3 To ask for a namespace -/

namespace World

/-- The world with another registry. -/
def withRegistry (r : Registry) (w : World) : World := { w with registry := r }

section Enact

variable (r : Registry) (w : World)

theorem shown_withRegistry (ns : String) (events : List (SyncEvent Script)) :
    events.foldl (show_ ns) (w.withRegistry r) = (events.foldl (show_ ns) w).withRegistry r := by
  induction events generalizing w with
  | nil => rfl
  | cons e events ih =>
    have hshow : (w.withRegistry r).show_ ns e = (w.show_ ns e).withRegistry r := by
      cases e <;> rfl
    rw [List.foldl_cons, List.foldl_cons, hshow, ih]

theorem move_withRegistry (sync : Nat) (move : SyncMove Script) :
    ((w.withRegistry r).move sync move).2 = (w.move sync move).2.withRegistry r := by
  by_cases hrefused :
      ∀ m, w.machine? sync = some m → m.step? w.frame w.instant w.files move = none
  · rw [move_refused hrefused]
    exact move_refused hrefused
  · simp only [Classical.not_forall] at hrefused
    obtain ⟨m, hm, hpossible⟩ := hrefused
    obtain ⟨⟨m', f, events⟩, hstep⟩ := Option.ne_none_iff_exists'.1 hpossible
    rw [move_possible hm hstep, ← shown_withRegistry]
    exact move_possible hm hstep

/-- What happens on behalf of a namespace does not depend on the registry. -/
theorem enact_withRegistry (effect : RegistryEffect) :
    (w.withRegistry r).enact effect = (w.enact effect).withRegistry r := by
  cases effect with
  | nothing | rejected | announced | found => rfl
  | made ns sync =>
    have hshown := shown_withRegistry r
      { w with machines := w.machines ++
        [(sync, (SyncMachine.start w.setting w.files ns w.instant).1)] } ns
      (SyncMachine.start w.setting w.files ns w.instant).2
    exact hshown
  | staffed ns sync =>
    have htold : (if w.cancelled then ((w.withRegistry r).move sync .cancel).2
        else w.withRegistry r)
          = (if w.cancelled then (w.move sync .cancel).2 else w).withRegistry r := by
      split
      · exact move_withRegistry ..
      · rfl
    exact congrArg (World.start (.worker sync)) htold

end Enact

end World

namespace ClientRun

/-- A call that runs to its end is a run. -/
theorem runCall (id fuel : Nat) (w : World) : ∃ h, ClientRun w h
    ((w.registry.runCall id fuel).2.foldl World.enact
      (w.withRegistry (w.registry.runCall id fuel).1)) := by
  induction fuel generalizing w with
  | zero => exact ⟨_, .nil⟩
  | succ fuel ih =>
    cases hstep : w.registry.step? (.advance id) with
    | none =>
      simp only [Registry.runCall, hstep]
      exact ⟨_, .nil⟩
    | some after =>
      obtain ⟨r, effect⟩ := after
      simp only [Registry.runCall, hstep, List.foldl_cons]
      -- The stretch is played first, and the registry that is reached afterwards is put in last.
      have hfirst : ∃ h, ClientRun w h (World.enact (w.withRegistry r) effect) :=
        ⟨_, single (.lookUp hstep)⟩
      have hrest := ih (World.enact (w.withRegistry r) effect)
      rw [World.registry_enact] at hrest
      rw [World.enact_withRegistry] at hfirst hrest ⊢
      exact trans hfirst hrest

/-- **To ask for a namespace is a run.** -/
theorem obtain (given : String) (w : World) (hidle : w.registry.call? 0 = none) :
    ∃ h, ClientRun w h (w.obtain given).2 := by
  cases hname : Namespace.normalize given with
  | error e =>
    have hsame : (w.obtain given).2 = w := by
      unfold World.obtain
      rw [Registry.obtain_rejected hname]
      rfl
    rw [hsame]
    exact ⟨_, .nil⟩
  | ok ns =>
    have hbegun : w.registry.step? (.call 0 given) = some
        ({ w.registry with calls := w.registry.calls ++ [⟨0, ns, .reading⟩] }, .nothing) := by
      rw [Registry.step?, hidle, Registry.begin_accepted hname]
      rfl
    have hrest := runCall 0 Registry.callLength (w.withRegistry
      { w.registry with calls := w.registry.calls ++ [⟨0, ns, .reading⟩] })
    unfold World.obtain
    rw [Registry.obtain_accepted hname]
    exact trans ⟨_, single (.lookUp hbegun)⟩ hrest

end ClientRun

namespace World

variable {w : World} {given ns : String} {sync : Nat}

/-- **A registered namespace is what its name leads to**, and nothing changes. -/
theorem obtain_registered (hw : w.Sound) (hidle : w.registry.call? 0 = none)
    (hname : Namespace.normalize given = .ok ns) (hfind : w.registry.find? ns = some sync) :
    w.obtain given = (.ok (ns, sync), w) := by
  unfold obtain
  rw [Registry.obtain_registered hw.registry hidle hname hfind]
  rfl

theorem registry_enacted (effects : List RegistryEffect) (w : World) :
    (effects.foldl enact w).registry = w.registry := by
  induction effects generalizing w with
  | nil => rfl
  | cons effect effects ih => exact (ih _).trans (registry_enact w effect)

/-- How a call is answered by what ends it. -/
def answer? : RegistryEffect → Option (Except Namespace.InvalidName (String × Nat))
  | .found ns sync => some (.ok (ns, sync))
  | .rejected e => some (.error e)
  | _ => none

theorem answer_obtain (given : String) (w : World) : (w.obtain given).1 =
    ((w.registry.obtain 0 given).2.findSome? answer?).getD (.error ⟨given, .empty⟩) := by
  unfold obtain
  generalize w.registry.obtain 0 given = called
  refine congrArg (Option.getD · _) (congrArg (List.findSome? · _) (funext fun effect => ?_))
  cases effect <;> rfl

theorem registry_obtain (given : String) (w : World) :
    (w.obtain given).2.registry = (w.registry.obtain 0 given).1 := by
  unfold obtain
  generalize w.registry.obtain 0 given = called
  exact registry_enacted ..

theorem found_of_answer {effects : List RegistryEffect} {e : Namespace.InvalidName}
    (h : (effects.findSome? answer?).getD (.error e) = .ok (ns, sync)) :
    .found ns sync ∈ effects := by
  cases hfirst : effects.findSome? answer? with
  | none =>
    rw [hfirst] at h
    cases h
  | some answer =>
    rw [hfirst] at h
    obtain rfl : answer = .ok (ns, sync) := h
    obtain ⟨effect, heffect, hanswer⟩ := List.exists_of_findSome?_eq_some hfirst
    cases effect <;> cases hanswer
    exact heffect

/-- What a name leads to bears its canonical form, and is registered from then on. -/
theorem of_obtain (hw : w.Sound) (hidle : w.registry.call? 0 = none)
    (h : (w.obtain given).1 = .ok (ns, sync)) :
    Namespace.normalize given = .ok ns ∧ (w.obtain given).2.registry.find? ns = some sync := by
  have hregistry := registry_obtain given w
  have hfound : .found ns sync ∈ (w.registry.obtain 0 given).2 :=
    found_of_answer ((answer_obtain given w).symm.trans h)
  cases hname : Namespace.normalize given with
  | error e =>
    rw [Registry.obtain_rejected hname] at hfound
    cases List.mem_singleton.1 hfound
  | ok canonical =>
    rw [Registry.obtain_accepted hname] at hfound hregistry
    have hbegun := Registry.sound_of_step hw.registry (.begun hidle hname)
    have hcall : Registry.call? 0 { w.registry with
        calls := w.registry.calls ++ [⟨0, canonical, .reading⟩] }
          = some ⟨0, canonical, .reading⟩ := Registry.call?_begun hidle .reading
    -- What the call finds it finds under the name that it began with.
    obtain ⟨rfl, hfind⟩ := Registry.found_of_runCall hbegun hcall hfound
    exact ⟨rfl, hregistry ▸ hfind⟩

end World

end LiveConfig.Simulation
