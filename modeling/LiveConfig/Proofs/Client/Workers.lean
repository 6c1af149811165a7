import LiveConfig.Proofs.Client.Registration
import LiveConfig.Proofs.Notify.Dispatch
import LiveConfig.Proofs.Registry.Books

/-!
# One worker for each namespace

Many calls may ask for one namespace at once. One of them sets it up, the others find it: it is put
on the channel once, and gets one worker.

## What the statements assume

Nothing but these calls puts a namespace on the channel or starts a worker. Everything else may
happen in between: notifications are taken in, and activities are taken up.

## Main statements

- `World.wired_of_step`: every stretch keeps the channel, the namespaces and the workers in step
  with the books of the registry.
- `ClientRun.find?_of_answered`: what a call ends with is registered under the name it began with.
- `ClientRun.one_worker_each`: one namespace and one worker for each registered name.
-/

namespace LiveConfig.Simulation

/-- The number of the namespace that an activity works for. -/
def Role.sync? : Role → Option Nat
  | .worker sync => some sync
  | .main | .discovery | .polling => none

namespace World

/-- The workers that have been started and not been taken up yet. -/
def workers (w : World) : List Nat := w.started.filterMap Role.sync?

/-- Where the channel leads notifications for a name. -/
def leads (ns : String) (w : World) : Option (Nat ⊕ String) :=
  (w.channel.get? ns).map Subscription.trigger

end World

/-- The workers that a stretch starts. -/
def ClientStep.spawned (s : ClientStep) : List Nat := s.after.workers.diff s.before.workers

/-- What is aside puts no namespace on the channel and starts no worker. -/
def ClientStep.Quiet (s : ClientStep) : Prop :=
  s.move = .aside → (∀ ns, s.after.leads ns = s.before.leads ns) ∧ s.spawned = []

namespace World

variable {w w' : World} {h : List ClientStep} {move : ClientMove} {ns : String} {sync : Nat}

/-! ## §1 What a stretch leaves alone -/

theorem leads_congr (h : w'.channel = w.channel) (ns : String) : w'.leads ns = w.leads ns := by
  rw [leads, leads, h]

theorem workers_congr (h : w'.started = w.started) : w'.workers = w.workers := by
  rw [workers, workers, h]

theorem shown_leaves (ns : String) (events : List (SyncEvent Script)) (w : World) :
    (events.foldl (show_ ns) w).channel = w.channel
      ∧ (events.foldl (show_ ns) w).started = w.started := by
  induction events generalizing w with
  | nil => exact ⟨rfl, rfl⟩
  | cons e events ih =>
    obtain ⟨hchannel, hstarted⟩ := ih (w.show_ ns e)
    have hshow : (w.show_ ns e).channel = w.channel ∧ (w.show_ ns e).started = w.started := by
      cases e <;> exact ⟨rfl, rfl⟩
    exact ⟨hchannel.trans hshow.1, hstarted.trans hshow.2⟩

/-- A move of a namespace leaves the channel, the workers and the other namespaces alone. -/
theorem move_leaves (sync : Nat) (move : SyncMove Script) (w : World) :
    (w.move sync move).2.channel = w.channel ∧ (w.move sync move).2.started = w.started
      ∧ (w.move sync move).2.machines.map Prod.fst = w.machines.map Prod.fst := by
  unfold World.move
  split
  · exact ⟨rfl, rfl, rfl⟩
  · split
    · exact ⟨rfl, rfl, rfl⟩
    · next m f events hstep =>
      obtain ⟨hchannel, hstarted⟩ := shown_leaves m.sync.ns events
        ({ w with files := f }.setMachine sync m)
      refine ⟨hchannel, hstarted, ?_⟩
      rw [(alike_shown ..).machines_eq]
      simp only [setMachine, List.map_map]
      apply List.map_congr_left
      intro p _
      -- A machine is put back under its own number.
      simp only [Function.comp]
      split
      · next heq => exact heq.symm
      · rfl

theorem workers_start (role : Role) (w : World) :
    (w.start role).workers = w.workers ++ role.sync?.toList := by
  unfold workers start
  dsimp only
  rw [List.filterMap_append]
  cases role <;> rfl

theorem diff_append_self (l l' : List Nat) : (l ++ l').diff l = l' := by
  induction l with
  | nil => rfl
  | cons a l ih => simpa using ih

theorem spawned_of_append (move : ClientMove) {l : List Nat} (h : w'.workers = w.workers ++ l) :
    ClientStep.spawned ⟨move, w, w'⟩ = l := by
  show w'.workers.diff w.workers = l
  rw [h, diff_append_self]

theorem spawned_of_same (move : ClientMove) (h : w'.workers = w.workers) :
    ClientStep.spawned ⟨move, w, w'⟩ = [] :=
  spawned_of_append move (h.trans (List.append_nil _).symm)

/-! ## §2 In step with the books -/

/-- **The client is in step with the books of its registry**: the channel leads each name that has
been announced to its namespace, there is a namespace for each number that has been given out, and a
worker for each that has been staffed. -/
structure Wired (h : List ClientStep) (w : World) : Prop where
  kept : w.registry.Kept
  leads : ∀ ns, w.leads ns = (w.registry.announced.lookup ns).map .inl
  numbers : w.machines.map Prod.fst = List.range w.registry.next
  spawned : h.flatMap ClientStep.spawned = w.registry.staffed

/-- What an effect adds to the channel, the namespaces and the workers. -/
theorem enact_adds (effect : RegistryEffect) (w : World) :
    (∀ ns, (w.enact effect).leads ns
        = ((effect.announced?.toList.lookup ns).map .inl).or (w.leads ns))
      ∧ (w.enact effect).machines.map Prod.fst = w.machines.map Prod.fst ++ effect.made?.toList
      ∧ (w.enact effect).workers = w.workers ++ effect.staffed?.toList := by
  cases effect with
  | nothing | rejected | found =>
    exact ⟨fun _ => rfl, (List.append_nil _).symm, (List.append_nil _).symm⟩
  | made ns sync =>
    obtain ⟨hchannel, hstarted⟩ := shown_leaves ns
      (SyncMachine.start w.setting w.files ns w.instant).2
      { w with machines := w.machines ++
        [(sync, (SyncMachine.start w.setting w.files ns w.instant).1)] }
    refine ⟨leads_congr hchannel, ?_, (workers_congr hstarted).trans (List.append_nil _).symm⟩
    unfold enact
    rw [(alike_shown ..).machines_eq, List.map_append]
    rfl
  | announced ns sync =>
    refine ⟨?_, (List.append_nil _).symm, (List.append_nil _).symm⟩
    intro other
    show ((Sorted.insert ns _ w.channel.subscriptions).lookup other).map Subscription.trigger = _
    rw [Sorted.lookup_insert]
    by_cases hother : other = ns
    · subst hother
      simp only [if_true, Option.map_some, RegistryEffect.announced?, Option.toList_some,
        List.lookup_cons, beq_self_eq_true, Option.some_or]
      cases w.channel.get? other <;> rfl
    · have hne : (other == ns) = false := beq_eq_false_iff_ne.2 hother
      simp [hother, hne, RegistryEffect.announced?, List.lookup_cons, leads, Channel.get?]
  | staffed ns sync =>
    -- The namespace may be told that the client is cancelled, which is a move of its own.
    obtain ⟨told, henact, hchannel, hstarted, hnumbers⟩ : ∃ told : World,
        w.enact (.staffed ns sync) = told.start (.worker sync) ∧ told.channel = w.channel
          ∧ told.started = w.started ∧ told.machines.map Prod.fst = w.machines.map Prod.fst := by
      refine ⟨if w.cancelled then (w.move sync .cancel).2 else w, rfl, ?_⟩
      split
      · exact move_leaves sync .cancel w
      · exact ⟨rfl, rfl, rfl⟩
    rw [henact]
    refine ⟨leads_congr hchannel, hnumbers.trans (List.append_nil _).symm, ?_⟩
    rw [workers_start, workers_congr hstarted]
    rfl

theorem wired_of_fresh (hfresh : w.Fresh) (hbare : ∀ ns, w.leads ns = none) : Wired [] w where
  kept := hfresh.registry_eq ▸ Registry.kept_empty
  leads ns := by
    rw [hbare, hfresh.registry_eq]
    rfl
  numbers := by
    rw [hfresh.machines_eq, hfresh.registry_eq]
    rfl
  spawned := by
    rw [hfresh.registry_eq]
    rfl

/-- **Every stretch keeps the client in step with the books.** -/
theorem wired_of_step (hw : w.Sound) (hwired : Wired h w) (step : w.Step move w')
    (hquiet : ClientStep.Quiet ⟨move, w, w'⟩) : Wired (h ++ [⟨move, w, w'⟩]) w' := by
  have hsame (hregistry : w'.registry = w.registry) (hleads : ∀ ns, w'.leads ns = w.leads ns)
      (hnumbers : w'.machines.map Prod.fst = w.machines.map Prod.fst)
      (hnone : ClientStep.spawned ⟨move, w, w'⟩ = []) : Wired (h ++ [⟨move, w, w'⟩]) w' := by
    refine ⟨hregistry ▸ hwired.kept, ?_, ?_, ?_⟩
    · intro ns
      rw [hleads, hregistry, hwired.leads]
    · rw [hnumbers, hregistry, hwired.numbers]
    · rw [List.flatMap_append, hwired.spawned, hregistry]
      simp [hnone]
  cases step with
  | aside halike =>
    obtain ⟨hleads, hnone⟩ := hquiet rfl
    exact hsame halike.registry_eq hleads (by rw [halike.machines_eq]) hnone
  | @move sync own m m' f events hm hstep =>
    obtain ⟨hchannel, hstarted, hnumbers⟩ := move_leaves sync own w
    exact hsame (alike_move hm hstep).registry_eq (leads_congr hchannel) hnumbers
      (spawned_of_same _ (workers_congr hstarted))
  | @lookUp own r effect hnext =>
    have hstep := Registry.step_of_step? hnext
    obtain ⟨hbooked, hannounced, hstaffed⟩ := Registry.records_of_step hstep
    obtain ⟨hleads, hnumbers, hworkers⟩ := enact_adds effect { w with registry := r }
    have hregistry := registry_enact { w with registry := r } effect
    refine ⟨?_, ?_, ?_, ?_⟩
    · rw [hregistry]
      exact Registry.kept_of_step hwired.kept hw.registry hstep
    · intro ns
      rw [hleads, hregistry]
      show ((effect.announced?.toList.lookup ns).map Sum.inl).or (w.leads ns)
        = (r.announced.lookup ns).map Sum.inl
      rw [hannounced, hwired.leads, List.lookup_append]
      -- What is announced was not there before, so it does not matter what is found first.
      cases effect with
      | announced new sync =>
        have hnew := Registry.lookup_of_announced hwired.kept hw.registry hstep
        by_cases hother : ns = new
        · subst hother
          simp [hnew, RegistryEffect.announced?]
        · have hne : (ns == new) = false := beq_eq_false_iff_ne.2 hother
          simp [RegistryEffect.announced?, List.lookup_cons, hne]
      | nothing | rejected | made | staffed | found => simp [RegistryEffect.announced?]
    · rw [hnumbers, hregistry]
      show w.machines.map Prod.fst ++ _ = List.range r.next
      rw [hbooked, hwired.numbers]
    · have hspawned : ClientStep.spawned ⟨.lookUp own, w, _⟩ = effect.staffed?.toList :=
        spawned_of_append _ hworkers
      rw [List.flatMap_append, hwired.spawned, hregistry]
      show _ = r.staffed
      rw [hstaffed]
      simp [hspawned]

/-- A rejected name changes nothing at all. -/
theorem eq_of_rejected {id : Nat} {given : String} {e : Namespace.InvalidName}
    (step : w.Step (.lookUp (.call id given)) w') (hname : Namespace.normalize given = .error e) :
    w' = w := by
  cases step with
  | lookUp hnext =>
    cases Registry.step_of_step? hnext with
    | rejected => rfl
    | begun _ hok =>
      rw [hname] at hok
      cases hok

end World

/-! ## §3 What is aside -/

namespace ClientStep

/-- Taking in notifications is quiet. -/
theorem quiet_dispatch (w : World) (l : List Notification) :
    Quiet ⟨.aside, w, { w with channel := (w.channel.dispatch l).1 }⟩ := by
  intro _
  exact ⟨Channel.map_trigger_dispatch l w.channel, World.spawned_of_same _ rfl⟩

/-- Starting the loops in the background is quiet. -/
theorem quiet_start {role : Role} (hrole : role.sync? = none) (w : World) :
    Quiet ⟨.aside, w, w.start role⟩ := by
  intro _
  refine ⟨fun _ => rfl, World.spawned_of_same _ ?_⟩
  rw [World.workers_start, hrole]
  exact List.append_nil _

/-- Taking up what has been started is quiet. -/
theorem quiet_taken (w : World) : Quiet ⟨.aside, w, { w with started := [] }⟩ := by
  intro _
  refine ⟨fun _ => rfl, ?_⟩
  show ([] : List Nat).diff w.workers = []
  exact List.nil_diff _

end ClientStep

/-! ## §4 Runs -/

/-- **A call has been answered**: it began with a name and ended with a namespace, and no other call
of its number lies between. -/
inductive Answered (h : List ClientStep) (given ns : String) (sync : Nat) : Prop
  | intro {id : Nat} {h₁ h₂ h₃ : List ClientStep} {s t : ClientStep} {r : Registry}
      (hhistory : h = h₁ ++ s :: (h₂ ++ t :: h₃)) (hcalled : s.move = .lookUp (.call id given))
      (hbetween : ∀ u ∈ h₂, ∀ other, u.move ≠ .lookUp (.call id other))
      (hlast : t.move = .lookUp (.advance id))
      (hfound : t.before.registry.step? (.advance id) = some (r, .found ns sync))

section Played

variable {h : List ClientStep} {calls before between behind : List RegistryMove}
  {given ns : String} {sync id : Nat}

/-- Where there are only stretches of calls, nothing is aside. -/
theorem quiet_of_calls (hmoves : h.map ClientStep.move = calls.map .lookUp) :
    ∀ s ∈ h, s.Quiet := by
  intro s hs haside
  have hplayed : s.move ∈ h.map ClientStep.move := List.mem_map_of_mem hs
  rw [hmoves, haside] at hplayed
  obtain ⟨move, -, heq⟩ := List.mem_map.1 hplayed
  cases heq

/-- An answer can be read off the stretches and what the last of them shows. -/
theorem Answered.of_calls (hmoves : h.map ClientStep.move
      = (before ++ .call id given :: (between ++ .advance id :: behind)).map .lookUp)
    (hbetween : ∀ move ∈ between, ∀ other, move ≠ .call id other)
    (hfound : (h[before.length + (between.length + 1)]?).bind (fun t =>
      (t.before.registry.step? (.advance id)).map Prod.snd) = some (.found ns sync)) :
    Answered h given ns sync := by
  simp only [List.map_append, List.map_cons] at hmoves
  obtain ⟨h₁, tail, rfl, hfirst, hcall⟩ := List.map_eq_append_iff.1 hmoves
  obtain ⟨s, rest, rfl, hcalled, hlater⟩ := List.map_eq_cons_iff.1 hcall
  obtain ⟨h₂, last, rfl, hsecond, hadvance⟩ := List.map_eq_append_iff.1 hlater
  obtain ⟨t, h₃, rfl, hlast, -⟩ := List.map_eq_cons_iff.1 hadvance
  have hlength : h₁.length = before.length := by simpa using congrArg List.length hfirst
  have hlength' : h₂.length = between.length := by simpa using congrArg List.length hsecond
  rw [← hlength, ← hlength'] at hfound
  have hstep : (t.before.registry.step? (.advance id)).map Prod.snd = some (.found ns sync) := by
    simpa [List.getElem?_append_right, List.getElem?_cons] using hfound
  obtain ⟨⟨r, effect⟩, hstep, rfl⟩ := Option.map_eq_some_iff.1 hstep
  refine .intro rfl hcalled ?_ hlast hstep
  intro u hu other heq
  have hplayed : u.move ∈ h₂.map ClientStep.move := List.mem_map_of_mem hu
  rw [hsecond, heq] at hplayed
  obtain ⟨move, hmove, hsame⟩ := List.mem_map.1 hplayed
  cases hsame
  exact hbetween _ hmove other rfl

end Played

namespace ClientRun

variable {w₀ w w' : World} {h h' : List ClientStep} {given given' ns ns' : String}
  {sync sync' id : Nat}

theorem wired (run : ClientRun w₀ h w) (hfresh : w₀.Fresh) (hbare : ∀ ns, w₀.leads ns = none)
    (hquiet : ∀ s ∈ h, s.Quiet) : World.Wired h w := by
  induction run with
  | nil => exact World.wired_of_fresh hfresh hbare
  | @snoc h w w' move run step ih =>
    have hbefore := ih fun s hs => hquiet s (List.mem_append_left _ hs)
    have hsound := run.sound (World.sound_of_fresh hfresh)
    exact World.wired_of_step hsound hbefore step (hquiet ⟨move, w, w'⟩ (by simp))

/-- Whatever a call with a number has begun with, it goes by its canonical name. -/
theorem named_calls (run : ClientRun w h w')
    (hbegun : ∀ c ∈ w.registry.calls, c.id = id → Namespace.normalize given = .ok c.ns)
    (hbetween : ∀ u ∈ h, ∀ other, u.move ≠ .lookUp (.call id other)) :
    ∀ c ∈ w'.registry.calls, c.id = id → Namespace.normalize given = .ok c.ns := by
  induction run with
  | nil => exact hbegun
  | @snoc h w₁ w₂ move run step ih =>
    have hbefore := ih fun u hu => hbetween u (List.mem_append_left _ hu)
    intro d hd hid
    obtain ⟨hsame, -⟩ | ⟨own, effect, hmove, hnext⟩ := World.registry_of_step step
    · rw [hsame] at hd
      exact hbefore d hd hid
    · have hold (other : String) : own ≠ .call d.id other := by
        rintro rfl
        rw [hid] at hmove
        exact hbetween ⟨move, w₁, w₂⟩ (by simp) other hmove
      obtain ⟨c, hc, hcid, hcns⟩ :=
        Registry.mem_calls_of_step (Registry.step_of_step? hnext) hd hold
      rw [← hcns]
      exact hbefore c hc (hcid.trans hid)

/-- A call begins under the canonical form of the name that it was given. -/
theorem named_of_call {r : Registry} {effect : RegistryEffect} (r₀ : Registry)
    (hnext : r₀.step? (.call id given) = some (r, effect)) :
    ∀ c ∈ r.calls, c.id = id → Namespace.normalize given = .ok c.ns := by
  intro c hc hid
  have hidle : r₀.call? id = none := by
    cases hcall : r₀.call? id with
    | none => rfl
    | some d => simp [Registry.step?, hcall] at hnext
  have hothers : ∀ d ∈ r₀.calls, d.id ≠ id := by simpa [Registry.call?] using hidle
  cases Registry.step_of_step? hnext with
  | rejected => exact absurd hid (hothers c hc)
  | begun _ hname =>
    rcases List.mem_append.1 hc with hc | hc
    · exact absurd hid (hothers c hc)
    · obtain rfl := List.mem_singleton.1 hc
      exact hname

/-- **What a call ends with** is registered under the canonical form of the name that it began
with. -/
theorem find?_of_answered (run : ClientRun w₀ h w) (hfresh : w₀.Fresh)
    (hanswered : Answered h given ns sync) :
    Namespace.normalize given = .ok ns ∧ w.registry.find? ns = some sync := by
  obtain @⟨id, h₁, h₂, h₃, s, t, r, rfl, hcalled, hbetween, hlast, hfound⟩ := hanswered
  obtain ⟨run₁, step, run₂⟩ := run.cut
  obtain ⟨run₂, last, run₃⟩ := run₂.cut
  have hsound := (run₁.append (single step)).append run₂ |>.sound (World.sound_of_fresh hfresh)
  -- The call begins under its name, and keeps it until it ends.
  have hbegun : ∀ c ∈ s.after.registry.calls, c.id = id →
      Namespace.normalize given = .ok c.ns := by
    obtain ⟨-, hother⟩ | ⟨own, effect, hown, hnext⟩ := World.registry_of_step step
    · exact absurd hcalled (hother _)
    · obtain rfl : own = .call id given := by simpa using hown.symm.trans hcalled
      exact named_of_call _ hnext
  have hended := run₂.named_calls hbegun hbetween
  obtain ⟨c, hcall, -⟩ := Option.bind_eq_some_iff.1 hfound
  have hstep := Registry.step_of_step? hfound
  have hns : ns = c.ns := by
    obtain ⟨-, -, -, hgoes⟩ | ⟨-, found, heq⟩ := Registry.call_of_step hcall hstep
    · exact absurd rfl (hgoes ns sync)
    · cases heq
      rfl
  refine ⟨?_, ?_⟩
  · rw [hns]
    exact hended c (Registry.mem_of_call? hcall) (Registry.id_of_call? hcall)
  · -- What it finds is registered then, and stays so.
    have hthen : t.after.registry.find? ns = some sync := by
      obtain ⟨-, hother⟩ | ⟨own, effect, hown, hnext⟩ := World.registry_of_step last
      · exact absurd hlast (hother _)
      · obtain rfl : own = .advance id := by simpa using hown.symm.trans hlast
        cases hfound.symm.trans hnext
        exact Registry.find?_of_found hsound.registry hstep
    exact run₃.find?_mono hthen

theorem same_of_rejected (run : ClientRun w₀ h w) {s : ClientStep} (hs : s ∈ h)
    {e : Namespace.InvalidName} (hcalled : s.move = .lookUp (.call id given))
    (hname : Namespace.normalize given = .error e) : s.after = s.before := by
  obtain ⟨h₁, h₂, rfl⟩ := List.append_of_mem hs
  obtain ⟨-, step, -⟩ := run.cut
  rw [hcalled] at step
  exact World.eq_of_rejected step hname

/-! ## §5 The whole -/

/-- The channel knows exactly the names that the registry knows. -/
theorem names_of_leads (hsound : w.Sound)
    (hleads : ∀ ns, w.leads ns = (w.registry.find? ns).map .inl) :
    w.channel.names.Perm w.registry.names := by
  have hnodup : w.channel.names.Nodup := by
    apply List.Pairwise.imp _ w.channel.ordered
    rintro a b hlt rfl
    exact String.lt_irrefl a hlt
  apply (List.perm_ext_iff_of_nodup hnodup hsound.registry.nodup).2
  intro ns
  have hchannel : ns ∈ w.channel.names ↔ (w.leads ns).isSome = true := by
    simp [Channel.names, World.leads, Channel.get?, List.lookup_isSome_iff]
  have hregistry : ns ∈ w.registry.names ↔ (w.registry.find? ns).isSome = true := by
    simp [Registry.names, Registry.find?, List.lookup_isSome_iff]
  rw [hchannel, hregistry, hleads, Option.isSome_map]

/-- The namespaces are the registered ones, each under its number and with its name. -/
theorem machines_perm (hsound : w.Sound)
    (hnumbers : w.machines.map Prod.fst = w.registry.entries.map Prod.snd)
    (hnodup : (w.registry.entries.map Prod.snd).Nodup) :
    (w.machines.map fun p => (p.2.sync.ns, p.1)).Perm w.registry.entries := by
  have hmachines : (w.machines.map Prod.fst).Nodup := by rwa [hnumbers]
  have hleft : (w.machines.map fun p => (p.2.sync.ns, p.1)).Nodup := by
    apply List.Nodup.of_map Prod.snd
    rw [List.map_map]
    exact hmachines
  apply (List.perm_ext_iff_of_nodup hleft hnodup.of_map).2
  rintro ⟨ns, n⟩
  rw [List.mem_map]
  constructor
  · rintro ⟨⟨k, m⟩, hm, heq⟩
    obtain ⟨rfl, rfl⟩ := Prod.mk.inj heq
    have hnumber : k ∈ w.registry.entries.map Prod.snd := by
      rw [← hnumbers]
      exact List.mem_map_of_mem hm
    obtain ⟨⟨name, number⟩, hentry, rfl⟩ := List.mem_map.1 hnumber
    obtain ⟨m', hm', rfl⟩ := hsound.numbered.entered _ hentry
    have hfound : w.machine? number = some m := (Assoc.lookup_eq_some_iff hmachines).2 hm
    rw [hfound] at hm'
    obtain rfl := Option.some.inj hm'
    exact hentry
  · intro hentry
    obtain ⟨m, hm, rfl⟩ := hsound.numbered.entered _ hentry
    exact ⟨(n, m), (Assoc.lookup_eq_some_iff hmachines).1 hm, rfl⟩

/-- **One namespace and one worker for each registered name.** However many calls for namespaces
interleave, whatever names they are given: whenever nobody holds the lock, the channel leads each
registered name to its namespace and knows no other name, the namespaces are the registered ones,
and each has been given one worker. Calls come to their end, and those whose names have one
canonical form end with one namespace. A registered namespace is never replaced, and a rejected
name changes nothing. -/
theorem one_worker_each (run : ClientRun w₀ h w) (hfresh : w₀.Fresh)
    (hbare : ∀ ns, w₀.leads ns = none) (hquiet : ∀ s ∈ h, s.Quiet) :
    (w.registry.writer = none →
      (∀ ns, w.leads ns = (w.registry.find? ns).map .inl)
        ∧ w.channel.names.Perm w.registry.names ∧ w.registry.names.Nodup
        ∧ (w.machines.map fun p => (p.2.sync.ns, p.1)).Perm w.registry.entries
        ∧ h.flatMap ClientStep.spawned = w.registry.entries.map Prod.snd
        ∧ (w.registry.entries.map Prod.snd).Nodup)
      ∧ w.registry.Live
      ∧ (∀ given ns sync, Answered h given ns sync →
        Namespace.normalize given = .ok ns ∧ w.registry.find? ns = some sync)
      ∧ (∀ given given' ns ns' sync sync', Answered h given ns sync →
        Answered h given' ns' sync' → Namespace.normalize given = Namespace.normalize given' →
          sync = sync')
      ∧ (∀ h' w', ClientRun w h' w' → ∀ ns sync, w.registry.find? ns = some sync →
        w'.registry.find? ns = some sync)
      ∧ ∀ s ∈ h, ∀ id given e, s.move = .lookUp (.call id given) →
        Namespace.normalize given = .error e → s.after = s.before := by
  have hsound := run.sound (World.sound_of_fresh hfresh)
  have hwired := run.wired hfresh hbare hquiet
  refine ⟨?agree, Registry.live_of_sound hsound.registry,
    fun _ _ _ => run.find?_of_answered hfresh, ?same,
    fun _ _ run' _ _ => run'.find?_mono, fun s hs id given e => run.same_of_rejected hs⟩
  case agree =>
    intro hfree
    obtain ⟨hnumbers, hannounced, hstaffed⟩ := hwired.kept.free hfree ""
    simp only [LookupPhase.sync?, LookupPhase.announced?, LookupPhase.staffed?, Option.map_none,
      Option.toList_none, List.append_nil] at hnumbers hannounced hstaffed
    have hleads (ns : String) : w.leads ns = (w.registry.find? ns).map .inl := by
      rw [hwired.leads, hannounced]
      rfl
    have hnodup : (w.registry.entries.map Prod.snd).Nodup := by
      rw [← hnumbers]
      exact List.nodup_range
    have hmachines := machines_perm hsound (hwired.numbers.trans hnumbers) hnodup
    exact ⟨hleads, names_of_leads hsound hleads, hsound.registry.nodup, hmachines,
      hwired.spawned.trans hstaffed, hnodup⟩
  case same =>
    intro given given' ns ns' sync sync' hanswered hanswered' hname
    obtain ⟨hns, hfind⟩ := run.find?_of_answered hfresh hanswered
    obtain ⟨hns', hfind'⟩ := run.find?_of_answered hfresh hanswered'
    rw [hns, hns'] at hname
    obtain rfl := Except.ok.inj hname
    exact Option.some.inj (hfind.symm.trans hfind')

/-- Two calls look for one name before it is there, wait for the lock, and end with one
namespace. -/
theorem one_worker_each_two_calls :
    ∃ (h : List ClientStep) (w : World), ClientRun (World.ofConfig { appId := "demo" }) h w
      ∧ Answered h "app" "app" 0 ∧ Answered h " app.properties " "app" 0
      ∧ w.registry.writer = none ∧ w.registry.entries = [("app", 0)]
      ∧ w.channel.names = ["app"] ∧ w.leads "app" = some (.inl 0)
      ∧ h.flatMap ClientStep.spawned = [0] := by
  obtain ⟨h, w, run, hmoves, hseen⟩ := exists_of_play? (World.ofConfig { appId := "demo" })
    ([.call 0 "app", .call 1 " app.properties ", .advance 0, .advance 1, .advance 0, .advance 0,
      .advance 0, .advance 0, .advance 0, .advance 1, .advance 1].map .lookUp)
    (fun seen => seen.2.registry.writer == none && seen.2.registry.entries == [("app", 0)]
      && (seen.1[8]?).bind (fun t => (t.before.registry.step? (.advance 0)).map Prod.snd)
        == some (.found "app" 0)
      && (seen.1[10]?).bind (fun t => (t.before.registry.step? (.advance 1)).map Prod.snd)
        == some (.found "app" 0))
    (by decide +kernel)
  simp only [Bool.and_eq_true, beq_iff_eq] at hseen
  obtain ⟨⟨⟨hfree, hentries⟩, hfirst⟩, hsecond⟩ := hseen
  have hquiet := quiet_of_calls hmoves
  -- One call sets the namespace up, and the other finds it under the lock.
  have hanswered : Answered h "app" "app" 0 :=
    @Answered.of_calls h [] [.call 1 " app.properties ", .advance 0, .advance 1, .advance 0,
      .advance 0, .advance 0, .advance 0] [.advance 1, .advance 1] "app" "app" 0 0 hmoves (by simp)
      hfirst
  have hanswered' : Answered h " app.properties " "app" 0 :=
    @Answered.of_calls h [.call 0 "app"] [.advance 0, .advance 1, .advance 0, .advance 0,
      .advance 0, .advance 0, .advance 0, .advance 1] [] " app.properties " "app" 0 1 hmoves
      (by simp) hsecond
  obtain ⟨hagree, -⟩ := run.one_worker_each (World.fresh_ofConfig _) (fun _ => rfl) hquiet
  obtain ⟨hleads, hnames, -, -, hspawned, -⟩ := hagree hfree
  rw [Registry.names, hentries] at hnames
  refine ⟨h, w, run, hanswered, hanswered', hfree, hentries, List.perm_singleton.1 hnames, ?_, ?_⟩
  · rw [hleads, Registry.find?, hentries]
    rfl
  · rw [hspawned, hentries]
    rfl

end ClientRun

end LiveConfig.Simulation
