import LiveConfig.Proofs.Sync.Step
import LiveConfig.Simulation.Run

/-!
# What a stretch of a client can do

Each stretch taken apart once, from the point of view of one namespace: it is left alone, it makes a
move of its own, it is told that the client is cancelled, or it comes into being. Whatever is shown
on the way changes neither the registry nor a namespace.

## Main statements

- `World.becomes_of_step`: what one stretch can do to a namespace.
- `ClientRun.machine_invariant`: what all moves keep holds of every namespace of a run.
- `ClientRun.move`, `ClientRun.cancel`, `ClientRun.drop`: what the client does is a run.
-/

namespace LiveConfig.Simulation

namespace World

/-! ## §1 What is shown -/

section Alike

variable {w w' w'' : World} {n : Nat}

theorem Alike.rfl : w.Alike w := ⟨Eq.refl _, Eq.refl _, Eq.refl _⟩

theorem Alike.trans (h : w.Alike w') (h' : w'.Alike w'') : w.Alike w'' :=
  ⟨h'.registry_eq.trans h.registry_eq, h'.machines_eq.trans h.machines_eq,
    h'.setting_eq.trans h.setting_eq⟩

theorem Alike.machine?_eq (h : w.Alike w') : w'.machine? n = w.machine? n := by
  rw [machine?, machine?, h.machines_eq]

theorem alike_show_ (ns : String) (w : World) (e : SyncEvent Script) : w.Alike (w.show_ ns e) := by
  cases e <;> exact ⟨Eq.refl _, Eq.refl _, Eq.refl _⟩

/-- Whatever is shown leaves the namespaces alone. -/
theorem alike_shown (ns : String) (events : List (SyncEvent Script)) (w : World) :
    w.Alike (events.foldl (show_ ns) w) := by
  induction events generalizing w with
  | nil => exact .rfl
  | cons e events ih => exact (alike_show_ ns w e).trans (ih _)

end Alike

/-! ## §2 Machines -/

section Machines

variable {w w' : World} {n sync : Nat} {m m' : SyncMachine Script} {move : SyncMove Script}
  {f : Files} {events : List (SyncEvent Script)}

theorem machine?_setMachine : (w.setMachine sync m).machine? n =
    if n = sync then (w.machine? n).map fun _ => m else w.machine? n := by
  unfold machine? setMachine
  induction w.machines with
  | nil => simp
  | cons p rest ih =>
    obtain ⟨k, a⟩ := p
    -- What is put back keeps its number, so that the search stops where it did.
    have hkey : (if k = sync then (sync, m) else (k, a)).1 = k := by
      split
      · next heq => exact heq.symm
      · rfl
    by_cases hn : n = k
    · subst hn
      by_cases hsync : n = sync <;> simp [hsync]
    · have hother : (n == k) = false := beq_eq_false_iff_ne.2 hn
      rw [List.map_cons, List.lookup_cons, List.lookup_cons, hkey, hother]
      exact ih

/-- A namespace that makes a move: the machine and the files are put back, and what the move shows
is shown. -/
theorem move_possible (hm : w.machine? sync = some m)
    (h : m.step? w.frame w.instant w.files move = some (m', f, events)) :
    (w.move sync move).2
      = events.foldl (show_ m'.sync.ns) ({ w with files := f }.setMachine sync m') := by
  simp only [World.move, hm, h]

theorem alike_move (hm : w.machine? sync = some m)
    (h : m.step? w.frame w.instant w.files move = some (m', f, events)) :
    ({ w with files := f }.setMachine sync m').Alike (w.move sync move).2 := by
  rw [move_possible hm h]
  exact alike_shown ..

theorem machine?_move (hm : w.machine? sync = some m)
    (h : m.step? w.frame w.instant w.files move = some (m', f, events)) :
    (w.move sync move).2.machine? n = if n = sync then some m' else w.machine? n := by
  rw [(alike_move hm h).machine?_eq, machine?_setMachine]
  change (if n = sync then (w.machine? n).map fun _ => m' else w.machine? n) = _
  split
  · next heq => rw [heq, hm, Option.map_some]
  · rfl

/-- A move that the namespace cannot make changes nothing. -/
theorem move_refused
    (h : ∀ m, w.machine? sync = some m → m.step? w.frame w.instant w.files move = none) :
    (w.move sync move).2 = w := by
  unfold World.move
  split
  · rfl
  · next m hm => rw [h m hm]

theorem alike_discover (w : World) (m : DiscoveryMove) : w.Alike (w.discover m).2 := by
  unfold discover
  split
  · exact .rfl
  · split <;> exact ⟨rfl, rfl, rfl⟩

end Machines

/-! ## §3 Stretches -/

/-- What one stretch can do to the namespace with a number. -/
inductive Becomes (w : World) (n : Nat) : ClientMove → Option (SyncMachine Script) → Prop
  | kept {move : ClientMove} (hother : ∀ own, move ≠ .move n own) : Becomes w n move (w.machine? n)
  | moved {m m' : SyncMachine Script} {move : SyncMove Script} {f : Files}
      {events : List (SyncEvent Script)} (hm : w.machine? n = some m)
      (hstep : m.Step w.frame w.instant w.files move m' f events) :
      Becomes w n (.move n move) (some m')
  /-- A namespace that gets its worker after the client was cancelled is told so. -/
  | told {m m' : SyncMachine Script} {move : RegistryMove} {f : Files}
      {events : List (SyncEvent Script)} (hm : w.machine? n = some m)
      (hstep : m.Step w.frame w.instant w.files .cancel m' f events) :
      Becomes w n (.lookUp move) (some m')
  | made {move : RegistryMove} {r : Registry} {ns : String} (hnew : w.machine? n = none)
      (hmade : w.registry.step? move = some (r, .made ns n)) :
      Becomes w n (.lookUp move) (some (SyncMachine.start w.setting w.files ns w.instant).1)

section Stretches

variable {w w' : World} {n sync : Nat} {move : ClientMove} {effect : RegistryEffect}

theorem machine?_enact_made {ns : String} : (w.enact (.made ns sync)).machine? n =
    (w.machine? n).or
      (if n = sync then some (SyncMachine.start w.setting w.files ns w.instant).1 else none) := by
  unfold enact
  rw [(alike_shown ..).machine?_eq]
  change (w.machines ++ [(sync, _)]).lookup n = _
  rw [List.lookup_append]
  by_cases hn : n = sync
  · simp [hn, machine?]
  · have hother : (n == sync) = false := beq_eq_false_iff_ne.2 hn
    simp [List.lookup_cons, hother, hn, machine?]

theorem alike_staff (ns : String) (w : World) :
    (if w.cancelled then (w.move sync .cancel).2 else w).Alike (w.enact (.staffed ns sync)) :=
  ⟨rfl, rfl, rfl⟩

/-- **What one stretch can do to a namespace.** -/
theorem becomes_of_step (step : w.Step move w') : w.Becomes n move (w'.machine? n) := by
  cases step with
  | aside h =>
    rw [h.machine?_eq]
    exact .kept nofun
  | @move sync own m m' f events hm h =>
    rw [machine?_move hm h]
    split
    · next heq =>
      subst heq
      exact .moved hm (SyncMachine.step_of_step? h)
    · next hne =>
      refine .kept fun other hsame => hne ?_
      cases hsame
      rfl
  | @lookUp own r effect h =>
    cases effect with
    | nothing | rejected | announced | found => exact .kept nofun
    | made ns sync =>
      -- It is put behind the others: one that already has the number is found before it.
      rw [machine?_enact_made]
      change w.Becomes n _ ((w.machine? n).or _)
      cases hm : w.machine? n with
      | some m =>
        rw [Option.some_or, ← hm]
        exact .kept nofun
      | none =>
        rw [Option.none_or]
        split
        · next heq =>
          subst heq
          exact .made hm h
        · rw [← hm]
          exact .kept nofun
    | staffed ns sync =>
      rw [(alike_staff ns _).machine?_eq]
      split
      · -- To be cancelled is a move that every namespace can make.
        cases hm : w.machine? sync with
        | none =>
          rw [move_refused (w := { w with registry := r }) fun m hm' =>
            nomatch hm.symm.trans hm']
          exact .kept nofun
        | some m =>
          rw [machine?_move (w := { w with registry := r }) hm rfl]
          split
          · next heq =>
            subst heq
            exact .told hm .cancel
          · exact .kept nofun
      · exact .kept nofun

end Stretches

end World

/-! ## §4 Runs -/

namespace ClientRun

variable {w₀ w w' : World} {h : List ClientStep} {n : Nat} {m : SyncMachine Script}

/-- **What holds of a namespace at its start and is kept by every move** holds of all namespaces,
however the client runs. -/
theorem machine_invariant {P : SyncMachine Script → Prop} (run : ClientRun w₀ h w)
    (hfresh : w₀.Fresh)
    (hmade : ∀ {setting : SyncSetting} {f : Files} {ns : String} {now : Instant},
      P (SyncMachine.start setting f ns now).1)
    (hstep : ∀ {frame : SyncFrame Script} {now : Instant} {m m' : SyncMachine Script}
      {f f' : Files} {move : SyncMove Script} {events : List (SyncEvent Script)},
      P m → m.Step frame now f move m' f' events → P m')
    (hm : w.machine? n = some m) : P m := by
  -- By induction on the run: the last stretch has done one of four things to this namespace.
  induction run generalizing m with
  | nil => simp [World.machine?, hfresh.machines_eq] at hm
  | snoc _ step ih =>
    have hbecomes := World.becomes_of_step (n := n) step
    rw [hm] at hbecomes
    generalize hafter : some m = after at hbecomes
    cases hbecomes with
    | kept => exact ih hafter.symm
    | moved hbefore hmoved | told hbefore hmoved =>
      cases hafter
      exact hstep (ih hbefore) hmoved
    | made =>
      cases hafter
      exact hmade

/-- A move of a namespace is a run, be it possible or not. -/
theorem move (w : World) (sync : Nat) (move : SyncMove Script) :
    ∃ h, ClientRun w h (w.move sync move).2 := by
  by_cases hrefused :
      ∀ m, w.machine? sync = some m → m.step? w.frame w.instant w.files move = none
  · rw [World.move_refused hrefused]
    exact ⟨_, .nil⟩
  · simp only [Classical.not_forall] at hrefused
    obtain ⟨m, hm, hpossible⟩ := hrefused
    obtain ⟨⟨m', f, events⟩, hstep⟩ := Option.ne_none_iff_exists'.1 hpossible
    exact ⟨_, single (.move hm hstep)⟩

theorem aside (h : w.Alike w') : ∃ h, ClientRun w h w' :=
  ⟨_, single (.aside h)⟩

/-- Runs follow one another, whatever their histories are. -/
theorem trans {w₁ w₂ : World} (h₁ : ∃ h, ClientRun w h w₁) (h₂ : ∃ h, ClientRun w₁ h w₂) :
    ∃ h, ClientRun w h w₂ := by
  obtain ⟨_, run₁⟩ := h₁
  obtain ⟨_, run₂⟩ := h₂
  exact ⟨_, run₁.append run₂⟩

/-- A cancellation of everything is a run. -/
theorem cancel (w : World) : ∃ h, ClientRun w h w.cancel := by
  -- The namespaces are told one after the other, each by a move of its own.
  have hall (ms : List (Nat × SyncMachine Script)) (w : World) :
      ∃ h, ClientRun w h (ms.foldl (fun w p => (w.move p.1 .cancel).2) w) := by
    induction ms generalizing w with
    | nil => exact ⟨_, .nil⟩
    | cons p ms ih => exact trans (move w p.1 .cancel) (ih _)
  have hset : ∃ h, ClientRun w h { w with cancelled := true } := aside ⟨rfl, rfl, rfl⟩
  exact trans hset (hall w.machines _)

/-- To take an activity away is a run. -/
theorem drop (role : Role) (w : World) : ∃ h, ClientRun w h (w.drop role) := by
  have hlocks : ∃ h, ClientRun w h
      { (w.discover (.abandon role.id)).2 with
        pool := (w.discover (.abandon role.id)).2.pool.release role.id } :=
    aside ((World.alike_discover w _).trans ⟨rfl, rfl, rfl⟩)
  -- Only to take a worker away is a move of its namespace.
  cases role with
  | worker sync => exact trans hlocks (trans (move _ sync _) (aside ⟨rfl, rfl, rfl⟩))
  | main | discovery | polling => exact trans hlocks (aside ⟨rfl, rfl, rfl⟩)

end ClientRun

end LiveConfig.Simulation
