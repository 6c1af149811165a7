import LiveConfig.Proofs.Client.Registration
import LiveConfig.Proofs.Fetch.Results
import LiveConfig.Proofs.Sync.Commit
import LiveConfig.Scenario.Session

/-!
# Reported names

A client reports the name of a namespace in its list of namespaces, in its status, with the handle
of a listener and in every change set. It is the same name everywhere, but a name is taken as it is
only if no default suffix is left at its end: otherwise whoever asks by the reported name is led to
another namespace.

## Main statements

- `SyncMachine.entitled_of_step`: a namespace delivers changes under its own name.
- `ClientRun.named_of_reported`: all reports of a namespace use its name.
- `ClientRun.reported_leads_back_iff`: when a reported name leads back.
-/

namespace LiveConfig

/-! ## §1 Change sets -/

/-- The changes that a refresh has to deliver, if there are any. -/
def RefreshPhase.changes? {L : Type} : RefreshPhase L → Option ChangeSet
  | .queued _ | .fetching _ => none
  | .saving _ changes | .committed changes _ | .delivering changes _ _ => some changes

namespace SyncMachine

variable {L : Type}

/-- A refresh under way delivers changes under the name of its namespace. -/
def Entitled (m : SyncMachine L) : Prop :=
  ∀ a, m.active = some a → ∀ changes, a.phase.changes? = some changes → changes.ns = m.sync.ns

section Parts

variable {m : SyncMachine L} {a : ActiveRefresh L}

theorem entitled_of_none (h : m.active = none) : m.Entitled := forall_active_of_none h

theorem entitled_of_some (h : m.active = some a)
    (ha : ∀ changes, a.phase.changes? = some changes → changes.ns = m.sync.ns) : m.Entitled :=
  forall_active_of_some h ha

theorem entitled_tell {caller : Nat} {changes : ChangeSet} {left : List (Registration L)}
    {outcome : RefreshOutcome} (h : changes.ns = m.sync.ns) :
    (m.tell caller changes left outcome).1.Entitled := by
  cases left with
  | nil => exact entitled_of_none (active_letGo ..)
  | cons =>
    refine entitled_of_some rfl fun other hother => ?_
    cases hother
    exact h

end Parts

variable {frame : SyncFrame L} {now : Instant} {m m' : SyncMachine L} {f f' : Files}
  {move : SyncMove L} {events : List (SyncEvent L)} {c : FetchConfig}

/-- **A namespace delivers changes under its own name**, because it fetches under it. -/
theorem entitled_of_step (hm : m.Entitled) (step : m.Step frame now f move m' f' events)
    (hyields : ∀ result backoff, move = .answer result backoff → c.Yields m.sync.ns result) :
    m'.Entitled := by
  cases step with
  | enter | permit => exact entitled_of_some rfl nofun
  | @answer caller flight result backoff sync events remaining hactive hanswer =>
    have hyields := hyields _ _ rfl
    cases hanswer with
    | @released snapshot =>
      -- Changes are named after the new snapshot, and this after the namespace it is fetched for.
      obtain ⟨body, rfl⟩ := hyields.exists_body
      refine entitled_of_some rfl fun changes hchanges => ?_
      cases hchanges
      rfl
    | expired =>
      refine entitled_of_some rfl fun changes hchanges => ?_
      cases hchanges
      have hns : (({ m.sync with backoff } : Sync L).queueMessages flight.messages).ns
          = m.sync.ns := Sync.ns_queueMessages ..
      exact hns.symm
    | _ => exact entitled_of_none (active_letGo ..)
  | @saved _ _ changes _ hactive =>
    exact entitled_of_some rfl fun other hother => hm _ hactive other hother
  | gather hactive => exact entitled_tell (hm _ hactive _ rfl)
  | deliver hactive => exact entitled_tell (hm _ hactive _ rfl)
  | abandon => exact fun a ha => hm a (Option.filter_eq_some_iff.1 ha).1
  | announce =>
    intro a ha changes hchanges
    exact (hm a ha changes hchanges).trans (Sync.ns_queueMessages ..).symm
  | _ => exact hm

end SyncMachine

namespace Simulation

/-! ## §2 Reports -/

/-- Every answer of a history is one to a fetch of its namespace. -/
def ClientFetched (c : FetchConfig) (h : List ClientStep) : Prop :=
  ∀ s ∈ h, ∀ sync result backoff, s.move = .move sync (.answer result backoff) →
    ∀ m, s.before.machine? sync = some m → c.Yields m.sync.ns result

/-- The names under which a client has reported the namespace with a number. -/
inductive Reported (h : List ClientStep) (w : World) (sync : Nat) : String → Prop
  /-- In the list of its namespaces. -/
  | listed {name : String} (hlisted : name ∈ w.names) (hsync : w.registry.find? name = some sync) :
      Reported h w sync name
  /-- In its status. -/
  | status {name : String} {status : NamespaceStatus} (hentry : (name, sync) ∈ w.registry.entries)
      (hstatus : w.statusOf? (name, sync) = some status) : Reported h w sync status.ns
  /-- With what a call for the namespace has ended with, such as the handle of a listener. -/
  | handle {s : ClientStep} {move : RegistryMove} {r : Registry} {name : String} (hs : s ∈ h)
      (hmove : s.move = .lookUp move)
      (hfound : s.before.registry.step? move = some (r, .found name sync)) :
      Reported h w sync name
  /-- In a change set that a listener has received. -/
  | changes {s : ClientStep} {move : SyncMove Script} {m m' : SyncMachine Script} {f : Files}
      {events : List (SyncEvent Script)} {recipient : Registration Script} {changes : ChangeSet}
      {shown : Snapshot} {failure : Option String} (hs : s ∈ h) (hmove : s.move = .move sync move)
      (hm : s.before.machine? sync = some m)
      (hstep : m.step? s.before.frame s.before.instant s.before.files move = some (m', f, events))
      (hcalled : .called recipient changes shown failure ∈ events) :
      Reported h w sync changes.ns

/-- A registered namespace is listed under its name. -/
theorem Reported.of_find? {h : List ClientStep} {w : World} {name : String} {sync : Nat}
    (hfind : w.registry.find? name = some sync) : Reported h w sync name := by
  have hlisted : name ∈ w.names := by
    rw [World.names, List.mem_mergeSort]
    exact List.mem_map_of_mem (Registry.mem_entries_of_find? hfind)
  exact .listed hlisted hfind

namespace ClientRun

variable {w₀ w : World} {h : List ClientStep} {c : FetchConfig} {ns name : String}
  {sync n : Nat} {m : SyncMachine Script}

theorem entitled (run : ClientRun w₀ h w) (hfresh : w₀.Fresh) (hfetched : ClientFetched c h)
    (hm : w.machine? n = some m) : m.Entitled := by
  induction run generalizing m with
  | nil => simp [World.machine?, hfresh.machines_eq] at hm
  | @snoc h w w' move _ step ih =>
    have ih {m} := ih (m := m) fun s hs => hfetched s (List.mem_append_left _ hs)
    have hlast := hfetched ⟨move, w, w'⟩ (by simp)
    have hbecomes : w.Becomes n move (w'.machine? n) := World.becomes_of_step step
    rw [hm] at hbecomes
    generalize hafter : some m = after at hbecomes
    cases hbecomes with
    | kept => exact ih hafter.symm
    | moved hbefore hmoved =>
      cases hafter
      refine SyncMachine.entitled_of_step (c := c) (ih hbefore) hmoved
        fun result backoff hanswer => ?_
      exact hlast n result backoff (congrArg _ hanswer) _ hbefore
    | told hbefore htold =>
      cases hafter
      exact SyncMachine.entitled_of_step (c := c) (ih hbefore) htold
        fun _ _ hanswer => by cases hanswer
    | made =>
      cases hafter
      exact SyncMachine.entitled_of_none rfl

theorem named_mono (run : ClientRun w₀ h w) (hnamed : w₀.Named n ns) : w.Named n ns := by
  induction run with
  | nil => exact hnamed
  | snoc _ step ih => exact World.named_of_step step ih

/-- **All reports of a namespace use its name.** -/
theorem named_of_reported (run : ClientRun w₀ h w) (hfresh : w₀.Fresh)
    (hfetched : ClientFetched c h) (hreported : Reported h w sync name) : w.Named sync name := by
  cases hreported with
  | listed _ hsync => exact run.exists_machine hfresh hsync
  | @status entry status hentry hstatus =>
    obtain ⟨s, -, rfl⟩ := Option.map_eq_some_iff.1 hstatus
    exact (run.sound (World.sound_of_fresh hfresh)).numbered.entered _ hentry
  | @handle s move r _ hs hmove hfound =>
    obtain ⟨h₁, h₂, rfl⟩ := List.append_of_mem hs
    obtain ⟨run₁, step, run₂⟩ := run.cut
    have hbefore := run₁.sound (World.sound_of_fresh hfresh)
    -- What the call ends with is registered then, and stays so.
    have hthen : s.after.registry.find? name = some sync := by
      obtain ⟨-, hother⟩ | ⟨own, effect, hown, hregistry⟩ := World.registry_of_step step
      · exact absurd hmove (hother move)
      · cases hown.symm.trans hmove
        cases hfound.symm.trans hregistry
        exact Registry.find?_of_found hbefore.registry (Registry.step_of_step? hfound)
    exact run.exists_machine hfresh (run₂.find?_mono hthen)
  | @changes s move m m' f events recipient changes shown failure hs hmove hm hstep hcalled =>
    obtain ⟨h₁, h₂, rfl⟩ := List.append_of_mem hs
    obtain ⟨run₁, step, run₂⟩ := run.cut
    have hfetched₁ : ClientFetched c h₁ := fun t ht => hfetched t (List.mem_append_left _ ht)
    have hentitled := run₁.entitled hfresh hfetched₁ hm
    -- Listeners are called only by a refresh that delivers, and with the changes that it holds.
    obtain ⟨⟨caller, left, outcome, hactive⟩, -⟩ :=
      SyncMachine.delivering_of_called (SyncMachine.step_of_step? hstep) hcalled
    have hnamed : s.before.Named sync changes.ns :=
      ⟨m, hm, (hentitled _ hactive changes rfl).symm⟩
    exact run₂.named_mono (World.named_of_step step hnamed)

/-- **When a reported name leads back.** An accepted name is its own canonical form exactly if it
does not end in the default suffix. In every run of a client, whatever its namespaces do: every
report of a registered namespace uses the name under which it is registered, and whoever asks for
this name is led to the namespace exactly if the name does not end in the default suffix. If it
does, it leads to another namespace or to none. -/
theorem reported_leads_back_iff (run : ClientRun w₀ h w) (hfresh : w₀.Fresh)
    (hfetched : ClientFetched c h) :
    (∀ given name, Namespace.normalize given = .ok name →
      (Namespace.normalize name = .ok name ↔ ¬Namespace.EndsInSuffix name)) ∧
    ∀ ns sync, w.registry.find? ns = some sync → ∀ name, Reported h w sync name → name = ns ∧
      (w.registry.call? 0 = none →
        (w.obtain name = (.ok (ns, sync), w) ↔ ¬Namespace.EndsInSuffix ns) ∧
        (Namespace.EndsInSuffix ns → ∀ other n, (w.obtain name).1 = .ok (other, n) →
          other ≠ ns ∧ n ≠ sync)) := by
  refine ⟨fun given name hname =>
    Namespace.normalize_eq_self_iff (Namespace.fault?_of_normalize hname), ?_⟩
  intro ns sync hfind name hreported
  have hsound := run.sound (World.sound_of_fresh hfresh)
  obtain ⟨m, hm, rfl⟩ := run.named_of_reported hfresh hfetched hreported
  obtain ⟨m', hm', rfl⟩ := run.exists_machine hfresh hfind
  cases hm.symm.trans hm'
  have hcanonical := Namespace.normalize_eq_self_iff
    (hsound.registry.named _ (List.mem_map_of_mem (Registry.mem_entries_of_find? hfind)))
  refine ⟨rfl, fun hidle => ?_⟩
  have hother (hsuffix : Namespace.EndsInSuffix m.sync.ns) (other : String) (n : Nat)
      (hobtained : (w.obtain m.sync.ns).1 = .ok (other, n)) : other ≠ m.sync.ns ∧ n ≠ sync := by
    obtain ⟨hname, hthere⟩ := World.of_obtain hsound hidle hobtained
    have hne : other ≠ m.sync.ns := by
      rintro rfl
      exact hcanonical.1 hname hsuffix
    refine ⟨hne, ?_⟩
    -- A namespace has one name, also after the call.
    rintro rfl
    obtain ⟨_, run'⟩ := ClientRun.obtain m.sync.ns w hidle
    obtain ⟨m₁, hm₁, hns₁⟩ := run'.named_mono ⟨m, hm, rfl⟩
    obtain ⟨m₂, hm₂, hns₂⟩ := (run.append run').exists_machine hfresh hthere
    cases hm₁.symm.trans hm₂
    exact hne (hns₂.symm.trans hns₁)
  refine ⟨⟨fun hback hsuffix => ?_, fun hplain => ?_⟩, hother⟩
  · exact (hother hsuffix _ _ (congrArg Prod.fst hback)).1 rfl
  · exact World.obtain_registered hsound hidle (hcanonical.2 hplain) hfind

/-- A namespace whose first release has come is found by the name in the list. -/
theorem reported_leads_back_iff_listed_name :
    ∃ (h : List ClientStep) (w : World), ClientRun (World.ofConfig { appId := "demo" }) h w
      ∧ ClientFetched .demo h ∧ (w.machine? 0).map SyncMachine.shown
        = some (FetchConfig.demo.snapshotOf "app" ⟨.ofList [("a", "x")], "1"⟩)
      ∧ Reported h w 0 "app" ∧ ¬Namespace.EndsInSuffix "app"
      ∧ w.obtain "app" = (.ok ("app", 0), w) := by
  let body : FetchConfig.Body := ⟨.ofList [("a", "x")], "1"⟩
  obtain ⟨h, w, run, hmoves, hseen⟩ := exists_of_play? (World.ofConfig { appId := "demo" })
    (ClientMove.settingUp "app" ++ [.move 0 .launch, .move 0 (.enter workerId), .move 0 .permit,
      .move 0 (.answer (.ok (FetchConfig.demo.outcomeOf "app" (.body body))) {})])
    (fun seen => seen.2.registry.find? "app" == some 0 && (seen.2.registry.call? 0).isNone
      && (seen.2.machine? 0).map SyncMachine.shown == some (FetchConfig.demo.snapshotOf "app" body)
      && seen.1.all fun s => (s.before.machine? 0).all fun m => m.sync.ns == "app")
    (by decide +kernel)
  simp only [Bool.and_eq_true, beq_iff_eq, Option.isNone_iff_eq_none, List.all_eq_true,
    Option.all_eq_true] at hseen
  obtain ⟨⟨⟨hfind, hidle⟩, hshown⟩, hns⟩ := hseen
  have hfetched : ClientFetched .demo h := by
    intro s hs sync result backoff hanswer m hm
    have hplayed : s.move ∈ h.map ClientStep.move := List.mem_map_of_mem hs
    rw [hmoves, hanswer] at hplayed
    simp only [ClientMove.settingUp, List.cons_append, List.mem_cons, List.mem_append,
      List.mem_replicate, reduceCtorEq, and_false, ClientMove.move.injEq, SyncMove.answer.injEq,
      List.not_mem_nil, or_false, false_or] at hplayed
    obtain ⟨rfl, rfl, rfl⟩ := hplayed
    rw [hns s hs m hm]
    exact FetchConfig.yields_outcomeOf .demo "app" (.body body)
  have hreported : Reported h w 0 "app" := .of_find? hfind
  have hplain : ¬Namespace.EndsInSuffix "app" := by decide +kernel
  obtain ⟨-, hleads⟩ := run.reported_leads_back_iff (World.fresh_ofConfig _) hfetched
  obtain ⟨-, hback⟩ := hleads "app" 0 hfind "app" hreported
  exact ⟨h, w, run, hfetched, hshown, hreported, hplain, (hback hidle).1.2 hplain⟩

/-- **A reported name may lead elsewhere**: a name with two suffixes keeps one, which it loses when
it is given again, so that the name in the list leads to a second namespace. -/
theorem stacked_suffix_leads_elsewhere :
    Namespace.normalize "a.properties.properties" = .ok "a.properties"
      ∧ Namespace.normalize "a.properties" = .ok "a"
      ∧ ∃ (h : List ClientStep) (w : World), ClientRun (World.ofConfig { appId := "demo" }) h w
        ∧ w.registry.find? "a.properties" = some 0 ∧ Reported h w 0 "a.properties"
        ∧ (w.obtain "a.properties").1 = .ok ("a", 1) := by
  refine ⟨by decide +kernel, by decide +kernel, ?_⟩
  obtain ⟨h, w, run, -, hseen⟩ := exists_of_play? (World.ofConfig { appId := "demo" })
    (ClientMove.settingUp "a.properties.properties")
    (fun seen => seen.2.registry.find? "a.properties" == some 0
      && (seen.2.obtain "a.properties").1 == .ok ("a", 1))
    (by decide +kernel)
  simp only [Bool.and_eq_true, beq_iff_eq] at hseen
  obtain ⟨hfind, helsewhere⟩ := hseen
  exact ⟨h, w, run, hfind, .of_find? hfind, helsewhere⟩

end ClientRun

end Simulation

end LiveConfig
