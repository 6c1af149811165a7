import LiveConfig.Discovery.Run
import LiveConfig.Proofs.Client.Activity
import LiveConfig.Simulation.Client

/-!
# What a client does to the locator

All parts of a client share one locator. Whatever they do, and however they alternate, the locator
only makes moves of discovery calls, each at the moment that the clock shows.

## Main statements

- `Client.refresh_within`, `Client.refreshOnFailure_within`, `Client.pickOrDiscover_within`,
  `Client.discoveryLoop_within`: the ways to look for instances.
- `host_within`: the same of the whole client.
- `exists_discoveryRun`: every run of a client is a run of discovery.
-/

namespace LiveConfig.Simulation

namespace World

/-! ## §1 Worlds -/

/-- From one world to another the locator makes moves only, at moments in between. -/
structure Discovers (w w' : World) : Prop where
  later : w.now ≤ w'.now
  run : ∃ h, DiscoveryRun w.discovery h w'.discovery
    ∧ ∀ s ∈ h, w.instant ≤ s.moment ∧ s.moment ≤ w'.instant

section Discovers

variable {w w' w'' : World}

theorem instant_le (h : w.now ≤ w'.now) : w.instant ≤ w'.instant := Nat.mul_le_mul_right _ h

/-- Nothing happens to the locator while time passes. -/
theorem discovers_of_eq (hnow : w.now ≤ w'.now) (h : w'.discovery = w.discovery) :
    w.Discovers w' := by
  refine ⟨hnow, [], ?_, fun s hs => absurd hs List.not_mem_nil⟩
  rw [h]
  exact .nil

theorem Discovers.rfl : w.Discovers w := discovers_of_eq (Nat.le_refl _) (Eq.refl _)

theorem Discovers.trans (h₁ : w.Discovers w') (h₂ : w'.Discovers w'') : w.Discovers w'' := by
  obtain ⟨hnow₁, g₁, run₁, hg₁⟩ := h₁
  obtain ⟨hnow₂, g₂, run₂, hg₂⟩ := h₂
  refine ⟨Nat.le_trans hnow₁ hnow₂, g₁ ++ g₂, run₁.append run₂ fun s hs s' hs' => ?_,
    fun s hs => ?_⟩
  · exact Nat.le_trans (hg₁ s hs).2 (hg₂ s' hs').1
  · rcases List.mem_append.1 hs with hs | hs
    · exact ⟨(hg₁ s hs).1, Nat.le_trans (hg₁ s hs).2 (instant_le hnow₂)⟩
    · exact ⟨Nat.le_trans (instant_le hnow₁) (hg₂ s hs).1, (hg₂ s hs).2⟩

/-- **A move of the locator**, be it possible or not. -/
theorem discovers_discover (m : DiscoveryMove) (w : World) : w.Discovers (w.discover m).2 := by
  unfold discover
  split
  · exact .rfl
  · next d effect hstep =>
    have hmoved : w.Discovers { w with discovery := d } := by
      refine ⟨Nat.le_refl _, _, .single hstep, fun s hs => ?_⟩
      obtain rfl := List.mem_singleton.1 hs
      exact ⟨Nat.le_refl _, Nat.le_refl _⟩
    dsimp only
    split
    · exact hmoved.trans (discovers_of_eq (Nat.le_refl _) (Eq.refl _))
    · exact hmoved

/-- A change that leaves the locator and the clock alone, made for each element of a list. -/
theorem discovers_foldl {β : Type} {f : World → β → World}
    (hf : ∀ (w : World) (b : β), w.Discovers (f w b)) (bs : List β) (w : World) :
    w.Discovers (bs.foldl f w) := by
  induction bs generalizing w with
  | nil => exact .rfl
  | cons b bs ih => exact (hf w b).trans (ih _)

theorem discovers_show_ (ns : String) (w : World) (e : SyncEvent Script) :
    w.Discovers (w.show_ ns e) := by
  cases e <;> exact discovers_of_eq (Nat.le_refl _) (Eq.refl _)

theorem discovers_observe (e : Observed) (w : World) : w.Discovers (w.observe e) :=
  discovers_of_eq (Nat.le_refl _) (Eq.refl _)

theorem discovers_move (sync : Nat) (m : SyncMove Script) (w : World) :
    w.Discovers (w.move sync m).2 := by
  unfold World.move
  split
  · exact .rfl
  split
  · exact .rfl
  · next machine files events _ =>
    have hput : w.Discovers ({ w with files }.setMachine sync machine) :=
      discovers_of_eq (Nat.le_refl _) (Eq.refl _)
    exact hput.trans (discovers_foldl (discovers_show_ _) events _)

theorem discovers_trigger (sync : Nat) (messages : Option Messages) (w : World) :
    w.Discovers (w.trigger sync messages) :=
  (discovers_move sync (.announce messages) w).trans (discovers_move sync .request _)

theorem discovers_fire (f : Fired (Nat ⊕ String)) (w : World) : w.Discovers (w.fire f) := by
  unfold fire
  split
  · exact discovers_trigger ..
  · exact discovers_of_eq (Nat.le_refl _) (Eq.refl _)

theorem discovers_dispatch (ns : List Notification) (w : World) :
    w.Discovers (w.dispatch ns).2 := by
  have hheard : w.Discovers { w with channel := (w.channel.dispatch ns).1 } :=
    discovers_of_eq (Nat.le_refl _) (Eq.refl _)
  unfold dispatch
  exact hheard.trans ((discovers_foldl (fun w e => discovers_observe e w) _ _).trans
    (discovers_foldl (fun w f => discovers_fire f w) _ _))

theorem discovers_drop (role : Role) (w : World) : w.Discovers (w.drop role) := by
  have hleft := discovers_discover (.abandon role.id) w
  have hpool : (w.discover (.abandon role.id)).2.Discovers
      { (w.discover (.abandon role.id)).2 with
        pool := (w.discover (.abandon role.id)).2.pool.release role.id } :=
    discovers_of_eq (Nat.le_refl _) (Eq.refl _)
  cases role with
  | worker sync =>
    refine hleft.trans (hpool.trans ((discovers_move sync (.abandon workerId) _).trans ?_))
    exact discovers_of_eq (Nat.le_refl _) (Eq.refl _)
  | main | discovery | polling =>
    exact hleft.trans (hpool.trans (discovers_of_eq (Nat.le_refl _) (Eq.refl _)))

end Discovers

end World

/-! ## §2 Programs -/

namespace Client

open Activity World

variable {α : Type}

/-- An activity of the client that does nothing to the locator but move it. -/
abbrev Discovers (a : Client α) : Prop := a.Within World.Discovers

theorem look_within (f : World → α) : Discovers (Activity.look f) :=
  .look (fun _ => .rfl) f

/-- A change that leaves the locator and the clock alone. -/
theorem change_within {f : World → World} (hnow : ∀ w, (f w).now = w.now)
    (h : ∀ w, (f w).discovery = w.discovery) : Discovers (Activity.change f) :=
  .change fun w => discovers_of_eq (Nat.le_of_eq (hnow w).symm) (h w)

theorem update_within {f : World → α × World} (hnow : ∀ w, (f w).2.now = w.now)
    (h : ∀ w, (f w).2.discovery = w.discovery) : Discovers (Activity.update f) :=
  .update fun w => discovers_of_eq (Nat.le_of_eq (hnow w).symm) (h w)

theorem pauseMillis_within (ms : Nat) : Discovers (pauseMillis ms) := by
  unfold pauseMillis
  split
  · exact .pure _
  · exact (look_within _).bind fun _ => .waitUntil _

theorem pause_within (d : Duration) : Discovers (pause d) := by
  unfold pause
  split
  · exact .pure _
  · exact (look_within _).bind fun _ => .waitUntil _

theorem momentAfter_within (d : Duration) : Discovers (momentAfter d) := by
  unfold momentAfter
  refine (look_within _).bind fun now => ?_
  split
  · exact .pure _
  · exact .fail _

section Calls

variable (read? : String → Option α) (deadline : Nat) (limit : Duration)

theorem giveUp_within :
    Discovers (giveUp deadline limit : Client (Except Http.CallError α)) :=
  (Within.waitUntil _).bind fun _ => .pure _

theorem readReply_within (r : Reply) : Discovers (readReply read? deadline limit r) := by
  unfold readReply readBody
  split
  · split
    · exact .pure _
    · exact giveUp_within ..
    · exact .pure _
  · exact .pure _
  · exact .pure _
  · exact .pure _

theorem exchange_within
    {follow : Reply → String → Client (Except Http.CallError (Http.Outcome α))}
    (hfollow : ∀ r location, Discovers (follow r location)) (u : Url) :
    Discovers (exchange read? deadline limit follow u) := by
  unfold exchange
  split
  · exact .pure _
  refine (update_within (fun _ => rfl) (fun _ => rfl)).bind fun reply => ?_
  split
  · exact .pure _
  split
  · exact giveUp_within ..
  refine (look_within _).bind fun now => ?_
  split
  · exact giveUp_within ..
  refine (pauseMillis_within _).bind fun _ => ?_
  split
  · exact .pure _
  split
  · exact readReply_within ..
  · exact hfollow ..

theorem ask_within (hops : Nat) (u : Url) : Discovers (ask read? deadline limit hops u) := by
  induction hops generalizing u with
  | zero => exact exchange_within _ _ _ (fun _ _ => .pure _) u
  | succ hops ih =>
    refine exchange_within _ _ _ (fun reply location => ?_) u
    split
    · exact ih _
    · exact readReply_within ..

theorem get_within (u : Url) : Discovers (get read? u limit) := by
  refine (look_within _).bind fun now => ?_
  split
  · exact .pure _
  split
  · exact .pure _
  · exact ask_within ..

end Calls

theorem acquire_within {reserve : World → Option Duration × World}
    (hnow : ∀ w, (reserve w).2.now = w.now) (h : ∀ w, (reserve w).2.discovery = w.discovery) :
    Discovers (acquire reserve) := by
  refine Within.loop ((update_within hnow h).bind fun wait => ?_) _
  split
  · exact .pure _
  · exact (pause_within _).bind fun _ => .pure _

/-! ## §3 Discovery -/

section Looking

variable (role : Role)

theorem discoverNow_within : Discovers (discoverNow role) := by
  refine (Within.waitFor _).bind fun _ => ?_
  refine (Within.update (discovers_discover _)).bind fun effect => ?_
  split
  · exact .pure _
  · exact .pure _
  refine (look_within _).bind fun limit => (get_within ..).bind fun answer => ?_
  refine (Within.update (discovers_discover _)).bind fun effect => ?_
  split <;> exact .pure _

/-- **A discovery** does nothing to the locator but move it. -/
theorem refresh_within : Discovers (refresh role) := by
  refine (Within.update (discovers_discover _)).bind fun effect => ?_
  split
  · exact .pure _
  · exact discoverNow_within role

/-- **A discovery after a failure** does nothing to the locator but move it. -/
theorem refreshOnFailure_within : Discovers (refreshOnFailure role) := by
  refine (Within.update (discovers_discover _)).bind fun effect => ?_
  split
  · exact .pure _
  refine (Within.waitFor _).bind fun _ => ?_
  refine (Within.update (discovers_discover _)).bind fun effect => ?_
  split
  · exact .pure _
  · exact (discoverNow_within role).bind fun _ => .pure _

/-- **The choice of an endpoint** does nothing to the locator but move it. -/
theorem pickOrDiscover_within (tried : List String) : Discovers (pickOrDiscover role tried) := by
  unfold pickOrDiscover
  refine (look_within _).bind fun unknown => ?_
  have hpick : Discovers (Activity.update (World.pick tried)) :=
    update_within (fun _ => rfl) (fun _ => rfl)
  split
  · exact (refresh_within role).bind fun _ => hpick
  · exact hpick

end Looking

theorem interruptible_within (role : Role) (yes : Bool) : Discovers (interruptible role yes) :=
  change_within (fun _ => rfl) (fun _ => rfl)

/-- **The loop that looks for instances** does nothing to the locator but move it. -/
theorem discoveryLoop_within : Discovers discoveryLoop := by
  refine (look_within _).bind fun locator => ?_
  split
  · exact .pure _
  refine Within.loop ((refresh_within .discovery).bind fun _ => ?_) _
  refine (interruptible_within ..).bind fun _ => (pause_within _).bind fun _ => ?_
  exact (interruptible_within ..).bind fun _ => .pure _

/-! ## §4 Everything else -/

section Fetches

variable (role : Role) (ns : String) (release : Option String) (messages : Option Messages)

theorem fetch_within (base : String) : Discovers (fetch base ns release messages) := by
  refine (look_within _).bind fun config => ?_
  split
  · exact .pure _
  refine (acquire_within (fun _ => rfl) (fun _ => rfl)).bind fun _ => ?_
  exact (get_within ..).bind fun answer => .pure _

/-- A round of a fetch over the instances. -/
theorem advance_within (r : Rotation) (b : Backoff) :
    Discovers (Rotation.advance (services role ns release messages) r b) := by
  unfold Rotation.advance
  split
  · exact .pure _
  · exact (pickOrDiscover_within ..).bind fun endpoint => .pure _
  · refine (fetch_within ..).bind fun answer => (look_within _).bind fun config => ?_
    split
    · exact .pure _
    · exact .fail _
  · refine (refreshOnFailure_within role).bind fun _ => ?_
    split
    · exact (pause_within _).bind fun _ => .pure _
    · exact .pure _

theorem fetchAnywhere_within (b : Backoff) :
    Discovers (fetchAnywhere role ns release messages b) := by
  have hrun (fuel : Nat) (r : Rotation) (b : Backoff) :
      Discovers (Rotation.run (services role ns release messages) fuel r b) := by
    induction fuel generalizing r b with
    | zero => exact .pure _
    | succ fuel ih =>
      unfold Rotation.run
      split
      · exact .pure _
      · exact (advance_within ..).bind fun next => ih _ _
  exact (look_within _).bind fun config => hrun _ _ b

end Fetches

section Namespaces

variable (sync : Nat)

theorem deliverAll_within (fuel : Nat) (outcome : Option RefreshOutcome) :
    Discovers (deliverAll sync fuel outcome) := by
  induction fuel generalizing outcome with
  | zero => exact .pure _
  | succ fuel ih =>
    cases outcome with
    | some outcome => exact .pure _
    | none => exact (Within.update (discovers_move sync _)).bind fun outcome => ih _

theorem refreshHeld_within (role : Role) (caller : Nat) :
    Discovers (refreshHeld role sync caller) := by
  have hmove (m : SyncMove Script) : Discovers (Activity.change fun w => (w.move sync m).2) :=
    .change (discovers_move sync m)
  have hpool (f : Permits → Permits) :
      Discovers (Activity.change fun w => { w with pool := f w.pool }) :=
    change_within (fun _ => rfl) (fun _ => rfl)
  refine (Within.waitFor _).bind fun _ => (hmove _).bind fun _ => (hpool _).bind fun _ => ?_
  refine (Within.waitFor _).bind fun _ => (hmove _).bind fun _ => ?_
  refine (look_within _).bind fun machine => ?_
  split
  · refine (fetchAnywhere_within ..).bind fun fetched => ?_
    refine (Within.update (discovers_move sync _)).bind fun answered => ?_
    refine (look_within _).bind fun saving => ?_
    have hdeliver {waiting : World → Nat} (gathered : Option RefreshOutcome) : Discovers (do
        let left ← Activity.look waiting
        let outcome ← deliverAll sync (left + 1) gathered
        pure (outcome.getD .failed)) :=
      (look_within _).bind fun left => (deliverAll_within ..).bind fun outcome => .pure _
    -- Whether there is something to save, and whether something is left to gather, both ways.
    cases answered with
    | some outcome =>
      cases saving with
      | true =>
        exact (hmove _).bind fun _ => (hpool (Permits.release role.id)).bind fun _ =>
          (Within.pure (some outcome)).bind hdeliver
      | false =>
        exact (hpool (Permits.release role.id)).bind fun _ =>
          (Within.pure (some outcome)).bind hdeliver
    | none =>
      have hgather := Within.update (discovers_move sync .gather)
      cases saving with
      | true =>
        exact (hmove _).bind fun _ => (hpool (Permits.release role.id)).bind fun _ =>
          hgather.bind hdeliver
      | false =>
        exact (hpool (Permits.release role.id)).bind fun _ => hgather.bind hdeliver
  · exact .pure _

theorem worker_within : Discovers (worker sync) := by
  have hmove (m : SyncMove Script) : Discovers (Activity.change fun w => (w.move sync m).2) :=
    .change (discovers_move sync m)
  -- Waiting for the next refresh, and the refresh itself.
  have hround : Discovers (do
      let due ← Activity.look fun w => ((w.machine? sync).map fun m => m.nextTick).getD 0
      .await (some ((due + 999999) / 1000000))
        (fun w => ((w.machine? sync).map fun m => m.cancelled || m.wake).getD true) (pure ())
      Activity.change fun w => (w.move sync .take).2
      let state ← Activity.look fun w => (w.machine? sync).map SyncMachine.worker
      if state = some .busy then
        let _ ← refreshHeld (.worker sync) sync workerId
        pure false
      else pure (state ≠ some .idle)) := by
    refine (look_within _).bind fun due => (Within.await (.pure _)).bind fun _ => ?_
    refine (hmove _).bind fun _ => (look_within _).bind fun state => ?_
    split
    · exact (refreshHeld_within ..).bind fun _ => .pure _
    · exact .pure _
  refine (look_within _).bind fun interval => (momentAfter_within _).bind fun _ => ?_
  refine (hmove _).bind fun _ => (look_within _).bind fun refreshes => ?_
  split
  · exact (refreshHeld_within ..).bind fun _ => .loop hround _
  · exact .loop hround _

end Namespaces

section Polling

theorem poll_within (base : String) : Discovers (poll base) := by
  refine (look_within _).bind fun (config, state) => ?_
  dsimp only
  split
  · exact .pure _
  split
  · exact .pure _
  refine (acquire_within (fun _ => rfl) (fun _ => rfl)).bind fun _ => ?_
  exact (get_within ..).bind fun answer => .pure _

theorem pollDelay_within (config : PollConfig) (b : Backoff) : Discovers (pollDelay config b) := by
  unfold pollDelay
  dsimp only
  split
  · exact .pure _
  · exact .fail _

theorem pollRound_within (b : Backoff) : Discovers (pollRound b) := by
  have hlog (line : LogLine) : Discovers (Activity.change (World.log "" line)) :=
    change_within (fun _ => rfl) (fun _ => rfl)
  refine (interruptible_within ..).bind fun _ => (look_within _).bind fun idle => ?_
  split
  · refine (Within.waitFor _).bind fun _ => ?_
    refine Within.bind ?_ fun _ => .pure _
    exact change_within (fun _ => rfl) (fun _ => rfl)
  refine (look_within _).bind fun config => (pickOrDiscover_within ..).bind fun endpoint => ?_
  split
  · refine (pollDelay_within ..).bind fun next => (hlog _).bind fun _ => ?_
    exact (pause_within _).bind fun _ => .pure _
  refine (poll_within _).bind fun answer => ?_
  split
  · exact (Within.update (discovers_dispatch _)).bind fun _ => .pure _
  · refine (Within.change (discovers_observe _)).bind fun _ => ?_
    refine (pollDelay_within ..).bind fun next => ?_
    refine (hlog _).bind fun _ => (interruptible_within ..).bind fun _ => ?_
    refine (refreshOnFailure_within _).bind fun _ => (interruptible_within ..).bind fun _ => ?_
    exact (pause_within _).bind fun _ => .pure _

theorem pollLoop_within (fuel : Nat) (b : Backoff) : Discovers (pollLoop fuel b) := by
  induction fuel generalizing b with
  | zero => exact .pure _
  | succ fuel ih => exact (pollRound_within b).bind fun b => ih b

end Polling

end Client

/-! ## §5 The whole client -/

/-- **All parts of a client**, the clock and what goes away included, do nothing to the locator but
move it. -/
theorem host_within : host.Within World.Discovers where
  refl _ := .rfl
  trans := World.Discovers.trans
  started _ := World.discovers_of_eq (Nat.le_refl _) rfl
  onDrop := World.discovers_drop
  onEnd _ _ := World.discovers_of_eq (Nat.le_refl _) rfl
  passed _ _ h := World.discovers_of_eq h rfl
  program
    | .main => .pure _
    | .worker sync => Client.worker_within sync
    | .discovery => Client.discoveryLoop_within
    | .polling => Client.pollLoop_within _ _

/-- **Every run of a client is a run of discovery.** -/
theorem exists_discoveryRun {α : Type} {w w' : World} {script : Client α} {result : α}
    (hscript : Client.Discovers script) (h : runScript w script = .finished w' result) :
    ∃ history, DiscoveryRun w.discovery history w'.discovery :=
  have hrun : w.Discovers w' :=
    within_of_run host_within hscript (fun _ ht => absurd ht List.not_mem_nil) h
  hrun.run.imp fun _ hrun => hrun.1

end LiveConfig.Simulation
