import LiveConfig.Proofs.Entries
import LiveConfig.Proofs.Namespace
import LiveConfig.Registry
import Mathlib.Data.List.Nodup

/-!
# Calls for namespaces

What one stretch of a call does to the registry, taken apart once, and what holds in every registry
that calls lead to, however they interleave: a name is registered once, the lock has one holder, and
a namespace is being set up only by the holder and only while its name is not registered.

## Main statements

- `Registry.step_of_step?`: what one stretch can do.
- `Registry.sound_of_step`: every stretch keeps the registry sound.
- `Registry.find?_of_step`: what is registered stays registered under its number.
- `Registry.numbered_of_step`: what is true of each namespace that is made is true of all.
- `Registry.obtain_registered`: a registered namespace is found under its name.
-/

namespace LiveConfig

/-! ## §1 Stretches -/

/-- Whether a call in this phase holds the lock. -/
def LookupPhase.holds : LookupPhase → Bool
  | .reading | .waiting => false
  | .holding | .made _ | .announced _ | .staffed _ => true

/-- The number of the namespace that a call has made, if it has made one. -/
def LookupPhase.sync? : LookupPhase → Option Nat
  | .reading | .waiting | .holding => none
  | .made sync | .announced sync | .staffed sync => some sync

/-- Whoever sets up a namespace holds the lock. -/
theorem LookupPhase.holds_of_sync? {phase : LookupPhase} (h : phase.sync?.isSome = true) :
    phase.holds = true := by
  cases phase <;> first | rfl | cases h

namespace Registry

/-- What one stretch of a call can do: the registry afterwards, and what is shown. -/
inductive Step (r : Registry) : RegistryMove → Registry → RegistryEffect → Prop
  | rejected {id : Nat} {given : String} {e : Namespace.InvalidName}
      (hname : Namespace.normalize given = .error e) :
      Step r (.call id given) r (.rejected e)
  | begun {id : Nat} {given ns : String} (hnew : r.call? id = none)
      (hname : Namespace.normalize given = .ok ns) :
      Step r (.call id given) { r with calls := r.calls ++ [⟨id, ns, .reading⟩] } .nothing
  /-- The name is registered, be it at first sight or under the lock. -/
  | known {c : LookupCall} {sync : Nat} (hcall : r.call? c.id = some c)
      (hphase : c.phase.sync? = none) (hfind : r.find? c.ns = some sync) :
      Step r (.advance c.id) (r.leave c.id) (.found c.ns sync)
  | unknown {c : LookupCall} (hcall : r.call? c.id = some c) (hphase : c.phase = .reading)
      (hfind : r.find? c.ns = none) :
      Step r (.advance c.id) (r.setPhase c.id .waiting) .nothing
  | locked {c : LookupCall} (hcall : r.call? c.id = some c) (hphase : c.phase = .waiting)
      (hfree : r.writer = none) :
      Step r (.advance c.id) { r.setPhase c.id .holding with writer := some c.id } .nothing
  | made {c : LookupCall} (hcall : r.call? c.id = some c) (hphase : c.phase = .holding)
      (hfind : r.find? c.ns = none) :
      Step r (.advance c.id) { r.setPhase c.id (.made r.next) with next := r.next + 1 }
        (.made c.ns r.next)
  | announced {c : LookupCall} {sync : Nat} (hcall : r.call? c.id = some c)
      (hphase : c.phase = .made sync) :
      Step r (.advance c.id)
        { r.setPhase c.id (.announced sync) with announced := r.announced ++ [(c.ns, sync)] }
        (.announced c.ns sync)
  | staffed {c : LookupCall} {sync : Nat} (hcall : r.call? c.id = some c)
      (hphase : c.phase = .announced sync) :
      Step r (.advance c.id)
        { r.setPhase c.id (.staffed sync) with staffed := r.staffed ++ [sync] }
        (.staffed c.ns sync)
  /-- The namespace is entered, which ends the call. -/
  | entered {c : LookupCall} {sync : Nat} (hcall : r.call? c.id = some c)
      (hphase : c.phase = .staffed sync) :
      Step r (.advance c.id) (leave c.id { r with entries := r.entries ++ [(c.ns, sync)] })
        (.found c.ns sync)

theorem id_of_call? {r : Registry} {id : Nat} {c : LookupCall} (h : r.call? id = some c) :
    c.id = id := by
  simpa using List.find?_some h

theorem mem_of_call? {r : Registry} {id : Nat} {c : LookupCall} (h : r.call? id = some c) :
    c ∈ r.calls :=
  List.mem_of_find?_eq_some h

theorem begin_accepted {r : Registry} {id : Nat} {given ns : String}
    (h : Namespace.normalize given = .ok ns) :
    r.begin id given = ({ r with calls := r.calls ++ [⟨id, ns, .reading⟩] }, .nothing) := by
  unfold begin
  rw [h]

/-- **What one stretch of a call can do.** -/
theorem step_of_step? {r r' : Registry} {move : RegistryMove} {effect : RegistryEffect}
    (h : r.step? move = some (r', effect)) : Step r move r' effect := by
  cases move with
  | call id given =>
    cases hcall : r.call? id with
    | some c => simp [step?, hcall] at h
    | none =>
      simp only [step?, hcall, Option.isSome_none, Bool.false_eq_true, if_false,
        Option.some.injEq] at h
      cases hname : Namespace.normalize given with
      | error e =>
        rw [begin_rejected id given r e hname] at h
        cases h
        exact .rejected hname
      | ok ns =>
        rw [begin_accepted hname] at h
        cases h
        exact .begun hcall hname
  | advance id =>
    obtain ⟨c, hcall, hnext⟩ := Option.bind_eq_some_iff.1 h
    clear h
    obtain rfl := id_of_call? hcall
    obtain ⟨id, ns, phase⟩ := c
    -- A call looks at the registry twice, and waits for the lock in between.
    cases phase with
    | reading =>
      cases hfind : r.find? ns with
      | some sync =>
        simp only [advance?, hfind] at hnext
        cases hnext
        exact .known hcall rfl hfind
      | none =>
        simp only [advance?, hfind] at hnext
        cases hnext
        exact .unknown hcall rfl hfind
    | waiting =>
      cases hfree : r.writer with
      | some holder =>
        simp only [advance?, hfree] at hnext
        cases hnext
      | none =>
        simp only [advance?, hfree] at hnext
        cases hnext
        exact .locked hcall rfl hfree
    | holding =>
      cases hfind : r.find? ns with
      | some sync =>
        simp only [advance?, hfind] at hnext
        cases hnext
        exact .known hcall rfl hfind
      | none =>
        simp only [advance?, hfind] at hnext
        cases hnext
        exact .made hcall rfl hfind
    | made sync =>
      cases hnext
      exact .announced hcall rfl
    | announced sync =>
      cases hnext
      exact .staffed hcall rfl
    | staffed sync =>
      cases hnext
      exact .entered hcall rfl

/-! ## §2 Names and calls -/

section Parts

variable {r r' : Registry} {ns : String} {sync id : Nat} {c d : LookupCall}
  {phase : LookupPhase}

theorem find?_eq_none_iff : r.find? ns = none ↔ ns ∉ r.names := by
  rw [find?, List.lookup_eq_none_iff, names, List.mem_map]
  constructor
  · rintro h ⟨p, hp, rfl⟩
    simpa using h p hp
  · intro h p hp
    rw [bne_iff_ne]
    rintro rfl
    exact h ⟨p, hp, rfl⟩

theorem mem_entries_of_find? (h : r.find? ns = some sync) : (ns, sync) ∈ r.entries :=
  Assoc.mem_of_lookup h

theorem mem_calls_leave : d ∈ (r.leave id).calls ↔ d ∈ r.calls ∧ d.id ≠ id := by
  simp [leave]

theorem mem_calls_setPhase : d ∈ (r.setPhase id phase).calls
    ↔ ∃ c ∈ r.calls, d = if c.id = id then { c with phase } else c := by
  simp [setPhase, eq_comm]

theorem ids_setPhase :
    (r.setPhase id phase).calls.map LookupCall.id = r.calls.map LookupCall.id := by
  rw [setPhase, List.map_map]
  refine List.map_congr_left fun c _ => ?_
  simp only [Function.comp]
  split <;> rfl

/-- A new call has a number of its own. -/
theorem ids_nodup_of_call?_eq_none (hnodup : (r.calls.map LookupCall.id).Nodup)
    (hnew : r.call? id = none) :
    ((r.calls ++ [(⟨id, ns, phase⟩ : LookupCall)]).map LookupCall.id).Nodup := by
  rw [List.map_append, List.nodup_append]
  refine ⟨hnodup, by simp, ?_⟩
  intro a ha b hb
  obtain ⟨c, hc, rfl⟩ := List.mem_map.1 ha
  obtain rfl : b = id := by simpa using hb
  simpa using List.find?_eq_none.1 hnew c hc

end Parts

/-! ## §3 Soundness -/

/-- **What holds however calls interleave**: names are registered once and are names, the lock is
held by one call, and what a call is setting up is not registered yet. -/
structure Sound (r : Registry) : Prop where
  nodup : r.names.Nodup
  named : ∀ ns ∈ r.names, Namespace.fault? ns = none
  ids_nodup : (r.calls.map LookupCall.id).Nodup
  calls_named : ∀ c ∈ r.calls, Namespace.fault? c.ns = none
  writer_iff : ∀ id, r.writer = some id ↔ ∃ c ∈ r.calls, c.id = id ∧ c.phase.holds = true
  absent : ∀ c ∈ r.calls, c.phase.sync?.isSome = true → r.find? c.ns = none

theorem sound_empty : ({} : Registry).Sound where
  nodup := .nil
  named _ h := absurd h List.not_mem_nil
  ids_nodup := .nil
  calls_named _ h := absurd h List.not_mem_nil
  writer_iff := by simp
  absent _ h := absurd h List.not_mem_nil

namespace Sound

variable {r r' : Registry} {c d : LookupCall} {id : Nat}

theorem congr (hr : r.Sound) (hentries : r'.entries = r.entries) (hcalls : r'.calls = r.calls)
    (hwriter : r'.writer = r.writer) : r'.Sound where
  nodup := by rw [names, hentries]; exact hr.nodup
  named := by rw [names, hentries]; exact hr.named
  ids_nodup := by rw [hcalls]; exact hr.ids_nodup
  calls_named := by rw [hcalls]; exact hr.calls_named
  writer_iff := by rw [hcalls, hwriter]; exact hr.writer_iff
  absent := by
    intro c hc hmade
    rw [find?, hentries]
    exact hr.absent c (hcalls ▸ hc) hmade

theorem eq_of_id (hr : r.Sound) (hc : c ∈ r.calls) (hd : d ∈ r.calls) (h : c.id = d.id) :
    c = d :=
  List.inj_on_of_nodup_map hr.ids_nodup hc hd h

/-- Somebody who does not go to or from the lock goes on. -/
theorem setPhase (phase : LookupPhase) (hr : r.Sound) (hc : c ∈ r.calls)
    (hholds : phase.holds = c.phase.holds)
    (habsent : phase.sync?.isSome = true → r.find? c.ns = none) :
    (r.setPhase c.id phase).Sound where
  nodup := hr.nodup
  named := hr.named
  ids_nodup := by rw [ids_setPhase]; exact hr.ids_nodup
  calls_named := by
    intro d hd
    obtain ⟨a, ha, rfl⟩ := mem_calls_setPhase.1 hd
    split <;> exact hr.calls_named a ha
  writer_iff := by
    -- Whoever held the lock holds it in the new phase, and nobody else does.
    intro id
    refine (hr.writer_iff id).trans ⟨?_, ?_⟩
    · rintro ⟨a, ha, rfl, hlocked⟩
      refine ⟨_, mem_calls_setPhase.2 ⟨a, ha, rfl⟩, ?_⟩
      split
      · next heq =>
        obtain rfl := hr.eq_of_id ha hc heq
        exact ⟨rfl, hholds.trans hlocked⟩
      · exact ⟨rfl, hlocked⟩
    · rintro ⟨_, hd, rfl, hlocked⟩
      obtain ⟨a, ha, rfl⟩ := mem_calls_setPhase.1 hd
      refine ⟨a, ha, ?_⟩
      split at hlocked
      · next heq =>
        obtain rfl := hr.eq_of_id ha hc heq
        exact ⟨by simp, hholds.symm.trans hlocked⟩
      · next hne => exact ⟨by simp [hne], hlocked⟩
  absent := by
    intro d hd hmade
    obtain ⟨a, ha, rfl⟩ := mem_calls_setPhase.1 hd
    change r.find? _ = none
    split at hmade
    · next heq =>
      obtain rfl := hr.eq_of_id ha hc heq
      simpa using habsent hmade
    · next hne =>
      rw [if_neg hne]
      exact hr.absent a ha hmade

/-- Somebody takes the lock, which was free. -/
theorem lock (hr : r.Sound) (hc : c ∈ r.calls) (hfree : r.writer = none) :
    ({ r.setPhase c.id .holding with writer := some c.id } : Registry).Sound where
  nodup := hr.nodup
  named := hr.named
  ids_nodup := by
    change ((r.setPhase c.id .holding).calls.map LookupCall.id).Nodup
    rw [ids_setPhase]
    exact hr.ids_nodup
  calls_named := by
    intro d hd
    obtain ⟨a, ha, rfl⟩ := mem_calls_setPhase.1 hd
    split <;> exact hr.calls_named a ha
  writer_iff := by
    intro id
    -- Nobody held the lock, so whoever holds it now is the one whose phase has changed.
    have hnobody (a) (ha : a ∈ r.calls) : a.phase.holds = false := by
      rw [← Bool.not_eq_true]
      intro hlocked
      have hwriter := (hr.writer_iff a.id).2 ⟨a, ha, rfl, hlocked⟩
      rw [hfree] at hwriter
      cases hwriter
    constructor
    · intro hwriter
      obtain rfl := Option.some.inj hwriter
      exact ⟨_, mem_calls_setPhase.2 ⟨c, hc, rfl⟩, by simp [LookupPhase.holds]⟩
    · rintro ⟨_, hd, rfl, hlocked⟩
      obtain ⟨a, ha, rfl⟩ := mem_calls_setPhase.1 hd
      split at hlocked
      · next heq => simp [heq]
      · simp [hnobody a ha] at hlocked
  absent := by
    intro d hd hmade
    obtain ⟨a, ha, rfl⟩ := mem_calls_setPhase.1 hd
    change r.find? _ = none
    split at hmade
    · cases hmade
    · next hne =>
      rw [if_neg hne]
      exact hr.absent a ha hmade

/-- A new call looks its name up. -/
theorem begin (hr : r.Sound) {ns : String} (hname : Namespace.fault? ns = none)
    (hnew : r.call? id = none) :
    ({ r with calls := r.calls ++ [⟨id, ns, .reading⟩] } : Registry).Sound where
  nodup := hr.nodup
  named := hr.named
  ids_nodup := ids_nodup_of_call?_eq_none hr.ids_nodup hnew
  calls_named := by
    intro d hd
    rcases List.mem_append.1 hd with hd | hd
    · exact hr.calls_named d hd
    · obtain rfl := List.mem_singleton.1 hd
      exact hname
  writer_iff := by
    intro other
    refine (hr.writer_iff other).trans ⟨?_, ?_⟩
    · rintro ⟨a, ha, h⟩
      exact ⟨a, List.mem_append_left _ ha, h⟩
    · rintro ⟨a, ha, h⟩
      rcases List.mem_append.1 ha with ha | ha
      · exact ⟨a, ha, h⟩
      · obtain rfl := List.mem_singleton.1 ha
        cases h.2
  absent := by
    intro d hd hmade
    rcases List.mem_append.1 hd with hd | hd
    · exact hr.absent d hd hmade
    · obtain rfl := List.mem_singleton.1 hd
      cases hmade

/-- Whoever has come to his end leaves, and lets go of the lock if he holds it. -/
theorem leave (hr : r.Sound) (id : Nat) : (r.leave id).Sound where
  nodup := hr.nodup
  named := hr.named
  ids_nodup := (List.filter_sublist.map LookupCall.id).nodup hr.ids_nodup
  calls_named d hd := hr.calls_named d (mem_calls_leave.1 hd).1
  writer_iff := by
    intro other
    simp only [mem_calls_leave]
    change (if r.writer = some id then none else r.writer) = some other ↔ _
    constructor
    · intro hwriter
      split at hwriter
      · cases hwriter
      · next hne =>
        obtain ⟨d, hd, rfl, hholds⟩ := (hr.writer_iff other).1 hwriter
        refine ⟨d, ⟨hd, ?_⟩, rfl, hholds⟩
        rintro rfl
        exact hne hwriter
    · rintro ⟨d, ⟨hd, hne⟩, rfl, hholds⟩
      have hwriter := (hr.writer_iff d.id).2 ⟨d, hd, rfl, hholds⟩
      rw [if_neg, hwriter]
      rw [hwriter]
      exact fun heq => hne (Option.some.inj heq)
  absent d hd := hr.absent d (mem_calls_leave.1 hd).1

/-- While nobody holds the lock, nothing stands against a new name. -/
theorem enter (hr : r.Sound) {ns : String} {sync : Nat} (hname : Namespace.fault? ns = none)
    (hnew : r.find? ns = none) (hfree : r.writer = none) :
    ({ r with entries := r.entries ++ [(ns, sync)] } : Registry).Sound where
  nodup := by
    rw [names, List.map_append, List.nodup_append]
    refine ⟨hr.nodup, by simp, ?_⟩
    intro a ha b hb
    obtain rfl := List.mem_singleton.1 hb
    rintro rfl
    exact find?_eq_none_iff.1 hnew ha
  named := by
    intro other hother
    rw [names, List.map_append, List.mem_append] at hother
    rcases hother with hother | hother
    · exact hr.named other hother
    · obtain rfl := List.mem_singleton.1 hother
      exact hname
  ids_nodup := hr.ids_nodup
  calls_named := hr.calls_named
  writer_iff := hr.writer_iff
  absent := by
    -- Whoever sets a namespace up holds the lock, so nobody does.
    intro d hd hmade
    have hwriter := (hr.writer_iff d.id).2 ⟨d, hd, rfl, LookupPhase.holds_of_sync? hmade⟩
    rw [hfree] at hwriter
    cases hwriter

end Sound

/-- **Every stretch keeps the registry sound.** -/
theorem sound_of_step {r r' : Registry} {move : RegistryMove} {effect : RegistryEffect}
    (hr : r.Sound) (hstep : r.Step move r' effect) : r'.Sound := by
  cases hstep with
  | rejected => exact hr
  | begun hnew hname => exact hr.begin (Namespace.fault?_of_normalize hname) hnew
  | known => exact hr.leave _
  | unknown hcall hphase =>
    exact hr.setPhase .waiting (mem_of_call? hcall) (by rw [hphase]; rfl) fun h => by cases h
  | locked hcall _ hfree => exact hr.lock (mem_of_call? hcall) hfree
  | made hcall hphase hfind =>
    have hset := hr.setPhase (.made r.next) (mem_of_call? hcall) (by rw [hphase]; rfl)
      fun _ => hfind
    exact hset.congr rfl rfl rfl
  | @announced c sync hcall hphase =>
    have hset := hr.setPhase (.announced sync) (mem_of_call? hcall) (by rw [hphase]; rfl)
      fun _ => hr.absent c (mem_of_call? hcall) (by rw [hphase]; rfl)
    exact hset.congr rfl rfl rfl
  | @staffed c sync hcall hphase =>
    have hset := hr.setPhase (.staffed sync) (mem_of_call? hcall) (by rw [hphase]; rfl)
      fun _ => hr.absent c (mem_of_call? hcall) (by rw [hphase]; rfl)
    exact hset.congr rfl rfl rfl
  | @entered c sync hcall hphase =>
    have hmem := mem_of_call? hcall
    have hfree : (r.leave c.id).writer = none := by
      simp [leave, (hr.writer_iff c.id).2 ⟨c, hmem, rfl, by rw [hphase]; rfl⟩]
    have hnew : r.find? c.ns = none := hr.absent c hmem (by rw [hphase]; rfl)
    exact (hr.leave c.id).enter (hr.calls_named c hmem) hnew hfree

/-! ## §4 What is registered -/

section Found

variable {r r' : Registry} {move : RegistryMove} {effect : RegistryEffect} {ns : String}
  {sync : Nat}

/-- One stretch registers nothing, or what a call has set up. -/
theorem entries_of_step (hstep : r.Step move r' effect) :
    r'.entries = r.entries ∨ ∃ c sync, r.call? c.id = some c ∧ c.phase = .staffed sync ∧
      effect = .found c.ns sync ∧ r'.entries = r.entries ++ [(c.ns, sync)] := by
  cases hstep with
  | entered hcall hphase => exact .inr ⟨_, _, hcall, hphase, rfl, rfl⟩
  | _ => exact .inl rfl

/-- What is registered stays registered under its number. -/
theorem find?_of_step (hstep : r.Step move r' effect) (h : r.find? ns = some sync) :
    r'.find? ns = some sync := by
  obtain heq | ⟨c, made, -, -, -, heq⟩ := entries_of_step hstep
  · rw [find?, heq]
    exact h
  · rw [find?, heq, List.lookup_append]
    exact Option.or_of_isSome (by rw [← find?, h]; rfl) |>.trans h

/-- What a call ends with is registered. -/
theorem find?_of_found (hr : r.Sound) (hstep : r.Step move r' (.found ns sync)) :
    r'.find? ns = some sync := by
  cases hstep with
  | known _ _ hfind => exact hfind
  | @entered c _ hcall hphase =>
    have hnew : r.find? c.ns = none := hr.absent c (mem_of_call? hcall) (by rw [hphase]; rfl)
    change (r.entries ++ [(c.ns, sync)]).lookup c.ns = some sync
    rw [List.lookup_append]
    change (r.find? c.ns).or _ = some sync
    simp [hnew]

end Found

/-! ## §5 Numbers -/

/-- What is true of all namespaces that are registered or being set up, by number and name. -/
structure Numbered (N : Nat → String → Prop) (r : Registry) : Prop where
  entered : ∀ p ∈ r.entries, N p.2 p.1
  under_way : ∀ c ∈ r.calls, ∀ sync, c.phase.sync? = some sync → N sync c.ns

section Numbers

variable {N : Nat → String → Prop} {r r' : Registry} {move : RegistryMove}
  {effect : RegistryEffect} {c : LookupCall}

theorem Numbered.mono {N' : Nat → String → Prop} (hn : r.Numbered N)
    (h : ∀ sync ns, N sync ns → N' sync ns) : r.Numbered N' :=
  ⟨fun p hp => h _ _ (hn.entered p hp), fun c hc sync hsync => h _ _ (hn.under_way c hc sync hsync)⟩

theorem Numbered.setPhase (phase : LookupPhase) (hn : r.Numbered N) (hr : r.Sound)
    (hc : c ∈ r.calls) (hphase : ∀ sync, phase.sync? = some sync → N sync c.ns) :
    (r.setPhase c.id phase).Numbered N where
  entered := hn.entered
  under_way := by
    intro d hd sync hsync
    obtain ⟨a, ha, rfl⟩ := mem_calls_setPhase.1 hd
    by_cases heq : a.id = c.id
    · obtain rfl := hr.eq_of_id ha hc heq
      rw [if_pos rfl] at hsync ⊢
      exact hphase sync hsync
    · rw [if_neg heq] at hsync ⊢
      exact hn.under_way a ha sync hsync

theorem Numbered.leave (hn : r.Numbered N) (id : Nat) : (r.leave id).Numbered N where
  entered := hn.entered
  under_way d hd := hn.under_way d (mem_calls_leave.1 hd).1

/-- **What is true of each namespace that is made** is true of all that are registered. -/
theorem numbered_of_step (hn : r.Numbered N) (hr : r.Sound) (hstep : r.Step move r' effect)
    (hmade : ∀ ns sync, effect = .made ns sync → N sync ns) : r'.Numbered N := by
  cases hstep with
  | rejected => exact hn
  | begun =>
    refine ⟨hn.entered, fun d hd sync hsync => ?_⟩
    rcases List.mem_append.1 hd with hd | hd
    · exact hn.under_way d hd sync hsync
    · obtain rfl := List.mem_singleton.1 hd
      cases hsync
  | known => exact hn.leave _
  | unknown hcall => exact hn.setPhase .waiting hr (mem_of_call? hcall) nofun
  | locked hcall =>
    have hset := hn.setPhase .holding hr (mem_of_call? hcall) nofun
    exact ⟨hset.entered, hset.under_way⟩
  | made hcall =>
    have hset := hn.setPhase (.made r.next) hr (mem_of_call? hcall) fun sync hsync => by
      cases hsync
      exact hmade _ _ rfl
    exact ⟨hset.entered, hset.under_way⟩
  | @announced c sync hcall hphase =>
    have hset := hn.setPhase (.announced sync) hr (mem_of_call? hcall) fun _ hsync =>
      hn.under_way c (mem_of_call? hcall) _ (by rw [hphase]; exact hsync)
    exact ⟨hset.entered, hset.under_way⟩
  | @staffed c sync hcall hphase =>
    have hset := hn.setPhase (.staffed sync) hr (mem_of_call? hcall) fun _ hsync =>
      hn.under_way c (mem_of_call? hcall) _ (by rw [hphase]; exact hsync)
    exact ⟨hset.entered, hset.under_way⟩
  | @entered c sync hcall hphase =>
    have hown : N sync c.ns := hn.under_way c (mem_of_call? hcall) sync (by rw [hphase]; rfl)
    refine ⟨fun p hp => ?_, (hn.leave c.id).under_way⟩
    rcases List.mem_append.1 hp with hp | hp
    · exact hn.entered p hp
    · obtain rfl := List.mem_singleton.1 hp
      exact hown

/-- Numbers are given out one after the other. -/
theorem next_of_step (hstep : r.Step move r' effect) :
    r.next ≤ r'.next ∧ ∀ ns sync, effect = .made ns sync → sync = r.next ∧ sync < r'.next := by
  cases hstep with
  | made =>
    refine ⟨Nat.le_succ _, fun ns sync heq => ?_⟩
    cases heq
    exact ⟨rfl, Nat.lt_succ_self _⟩
  | _ => exact ⟨Nat.le_refl _, nofun⟩

end Numbers

/-! ## §6 Calls from their beginning to their end -/

section Obtain

variable {r r' : Registry} {id : Nat} {c : LookupCall} {given ns : String} {sync : Nat}
  {effect : RegistryEffect}

theorem call?_setPhase (phase : LookupPhase) (hcall : r.call? id = some c) :
    (r.setPhase id phase).call? id = some { c with phase } := by
  obtain rfl := id_of_call? hcall
  -- The phase does not count in a search by number.
  have hsame : ((fun d : LookupCall => decide (d.id = c.id)) ∘
      fun d => if d.id = c.id then { d with phase } else d) = fun d => decide (d.id = c.id) := by
    funext d
    simp only [Function.comp]
    split <;> rfl
  unfold call? setPhase at *
  rw [List.find?_map, hsame, hcall]
  simp

theorem call?_leave (r : Registry) (id : Nat) : (r.leave id).call? id = none := by
  simp [call?, leave]

/-- A call goes on under its name, or ends with a namespace of this name. -/
theorem call_of_step (hcall : r.call? id = some c) (hstep : r.Step (.advance id) r' effect) :
    (∃ d, r'.call? id = some d ∧ d.ns = c.ns ∧ ∀ ns sync, effect ≠ .found ns sync)
      ∨ r'.call? id = none ∧ ∃ sync, effect = .found c.ns sync := by
  cases hstep with
  | known hown =>
    cases hcall.symm.trans hown
    exact .inr ⟨call?_leave .., _, rfl⟩
  | entered hown =>
    cases hcall.symm.trans hown
    exact .inr ⟨call?_leave .., _, rfl⟩
  | unknown hown | locked hown | made hown | announced hown | staffed hown =>
    cases hcall.symm.trans hown
    exact .inl ⟨_, call?_setPhase _ hown, rfl, nofun⟩

theorem runCall_of_none (hnone : r.call? id = none) (fuel : Nat) :
    r.runCall id fuel = (r, []) := by
  cases fuel with
  | zero => rfl
  | succ fuel => simp [runCall, step?, hnone]

/-- **What a call ends with** is registered under the name of the call. -/
theorem found_of_runCall (hr : r.Sound) (hcall : r.call? id = some c) {fuel : Nat}
    (hfound : .found ns sync ∈ (r.runCall id fuel).2) :
    ns = c.ns ∧ (r.runCall id fuel).1.find? ns = some sync := by
  -- By induction on the fuel: a call keeps its name, and what it finds ends it.
  induction fuel generalizing r c with
  | zero => cases hfound
  | succ fuel ih =>
    cases hnext : r.step? (.advance id) with
    | none =>
      simp only [runCall, hnext] at hfound
      cases hfound
    | some after =>
      obtain ⟨r', effect⟩ := after
      simp only [runCall, hnext] at hfound ⊢
      have hstep := step_of_step? hnext
      obtain ⟨d, hd, hns, hgoes⟩ | ⟨hnone, found, rfl⟩ := call_of_step hcall hstep
      · rcases List.mem_cons.1 hfound with heq | hlater
        · exact absurd heq.symm (hgoes ns sync)
        · rw [← hns]
          exact ih (sound_of_step hr hstep) hd hlater
      · rw [runCall_of_none hnone] at hfound ⊢
        cases List.mem_singleton.1 hfound
        exact ⟨rfl, find?_of_found hr hstep⟩

theorem call?_begun (hidle : r.call? id = none) (phase : LookupPhase) :
    call? id { r with calls := r.calls ++ [⟨id, ns, phase⟩] } = some ⟨id, ns, phase⟩ := by
  unfold call? at *
  rw [List.find?_append, hidle]
  simp

theorem obtain_rejected {e : Namespace.InvalidName} (hname : Namespace.normalize given = .error e) :
    r.obtain id given = (r, [.rejected e]) := by
  unfold obtain
  rw [begin_rejected id given r e hname]

theorem obtain_accepted (hname : Namespace.normalize given = .ok ns) :
    r.obtain id given
      = runCall id callLength { r with calls := r.calls ++ [⟨id, ns, .reading⟩] } := by
  unfold obtain
  rw [begin_accepted hname]

/-- **A registered namespace is found** under its name, and nothing changes. -/
theorem obtain_registered (hr : r.Sound) (hidle : r.call? id = none)
    (hname : Namespace.normalize given = .ok ns) (hfind : r.find? ns = some sync) :
    r.obtain id given = (r, [.found ns sync]) := by
  -- The call leaves in its first stretch, and with it everything that it has brought.
  have hcalls : (r.calls ++ [(⟨id, ns, .reading⟩ : LookupCall)]).filter (fun d => d.id ≠ id)
      = r.calls := by
    have hothers : ∀ d ∈ r.calls, d.id ≠ id := by simpa [call?] using hidle
    rw [List.filter_append, List.filter_eq_self.2 (by simpa using hothers)]
    simp
  have hwriter : r.writer ≠ some id := by
    intro hholds
    obtain ⟨d, hd, rfl, -⟩ := (hr.writer_iff id).1 hholds
    simpa using List.find?_eq_none.1 hidle d hd
  have hleft : leave id { r with calls := r.calls ++ [⟨id, ns, .reading⟩] } = r := by
    unfold leave
    simp only [hcalls, hwriter, if_false]
  have hstep : step? { r with calls := r.calls ++ [⟨id, ns, .reading⟩] } (.advance id)
      = some (r, .found ns sync) := by
    have hfind' : find? ns { r with calls := r.calls ++ [⟨id, ns, .reading⟩] } = some sync := hfind
    simp only [step?, call?_begun hidle, Option.bind_some, advance?, hfind', hleft]
  rw [obtain_accepted hname, callLength, runCall]
  simp only [hstep, runCall_of_none hidle]

end Obtain

end Registry

end LiveConfig
