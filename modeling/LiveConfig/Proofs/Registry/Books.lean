import LiveConfig.Proofs.Registry

/-!
# The books of the registry

A namespace is made, put on the channel, given a worker, and entered. Each of these steps is booked,
and only the call that holds the lock takes them, so that the books are apart by what this call has
done so far. When nobody holds the lock, they say the same.

## Main statements

- `Registry.kept_of_step`: every stretch keeps the books.
- `Registry.records_of_step`: what each stretch adds to them.
- `Registry.mem_calls_of_step`: a call under way has been begun before, under its name.
- `Registry.live_of_sound`: calls come to their end.
-/

namespace LiveConfig

/-! ## §1 Phases and effects -/

/-- The number that a call has put on the channel, if it has come so far. -/
def LookupPhase.announced? : LookupPhase → Option Nat
  | .reading | .waiting | .holding | .made _ => none
  | .announced sync | .staffed sync => some sync

/-- The number that a call has given a worker, if it has come so far. -/
def LookupPhase.staffed? : LookupPhase → Option Nat
  | .reading | .waiting | .holding | .made _ | .announced _ => none
  | .staffed sync => some sync

/-- How many stretches of its own a call has before it at most. -/
def LookupPhase.left : LookupPhase → Nat
  | .reading => 6
  | .waiting => 5
  | .holding => 4
  | .made _ => 3
  | .announced _ => 2
  | .staffed _ => 1

namespace RegistryEffect

def made? : RegistryEffect → Option Nat
  | .made _ sync => some sync
  | _ => none

def announced? : RegistryEffect → Option (String × Nat)
  | .announced ns sync => some (ns, sync)
  | _ => none

def staffed? : RegistryEffect → Option Nat
  | .staffed _ sync => some sync
  | _ => none

end RegistryEffect

namespace Registry

variable {r r' : Registry} {c d : LookupCall} {ns other : String} {phase : LookupPhase}
  {move : RegistryMove} {effect : RegistryEffect}

/-! ## §2 Books -/

/-- **The books** while a call for a name has come to a phase: what it has made, announced and
staffed comes behind what has been entered. -/
structure Books (r : Registry) (ns : String) (phase : LookupPhase) : Prop where
  numbers : List.range r.next = r.entries.map Prod.snd ++ phase.sync?.toList
  announced : r.announced = r.entries ++ (phase.announced?.map fun sync => (ns, sync)).toList
  staffed : r.staffed = r.entries.map Prod.snd ++ phase.staffed?.toList

theorem Books.congr (h : r.Books ns phase) (hentries : r'.entries = r.entries)
    (hnext : r'.next = r.next) (hannounced : r'.announced = r.announced)
    (hstaffed : r'.staffed = r.staffed) : r'.Books ns phase where
  numbers := by rw [hnext, hentries, h.numbers]
  announced := by rw [hannounced, hentries, h.announced]
  staffed := by rw [hstaffed, hentries, h.staffed]

/-- As long as a call has made nothing, it is all the same which call it is. -/
theorem Books.of_unmade (h : r.Books ns phase) (hphase : phase.sync? = none) :
    r.Books other .reading := by
  obtain ⟨hnumbers, hannounced, hstaffed⟩ := h
  cases phase with
  | made | announced | staffed => cases hphase
  | reading | waiting | holding => exact ⟨hnumbers, hannounced, hstaffed⟩

theorem Books.announced_of_made {sync : Nat} (h : r.Books ns (.made sync)) :
    r.announced = r.entries := by
  simpa [LookupPhase.announced?] using h.announced

/-- The books are in order: they agree when nobody holds the lock, and otherwise differ by what the
holder has done. -/
structure Kept (r : Registry) : Prop where
  free : r.writer = none → ∀ ns, r.Books ns .reading
  held : ∀ c ∈ r.calls, c.phase.holds = true → r.Books c.ns c.phase

theorem kept_empty : ({} : Registry).Kept where
  free _ _ := ⟨rfl, rfl, rfl⟩
  held _ hc := absurd hc List.not_mem_nil

theorem Sound.eq_of_holds (hr : r.Sound) (hc : c ∈ r.calls) (hholds : c.phase.holds = true)
    (hd : d ∈ r.calls) (hholds' : d.phase.holds = true) : d.id = c.id := by
  have hwriter := (hr.writer_iff c.id).2 ⟨c, hc, rfl, hholds⟩
  rw [(hr.writer_iff d.id).2 ⟨d, hd, rfl, hholds'⟩] at hwriter
  exact Option.some.inj hwriter

theorem Kept.books (hk : r.Kept) (hcall : r.call? c.id = some c) (hphase : c.phase = phase)
    (hholds : phase.holds = true) : r.Books c.ns phase := by
  rw [← hphase] at hholds ⊢
  exact hk.held c (mem_of_call? hcall) hholds

/-- The only call with the lock comes to another phase, and books what it has done. -/
theorem Kept.advance (hr : r.Sound) (hc : c ∈ r.calls)
    (honly : ∀ d ∈ r.calls, d.phase.holds = true → d.id = c.id)
    (hcalls : r'.calls = (r.setPhase c.id phase).calls) (hwriter : r'.writer ≠ none)
    (hbooks : r'.Books c.ns phase) : r'.Kept where
  free hfree := absurd hfree hwriter
  held := by
    intro d hd hholds
    rw [hcalls, mem_calls_setPhase] at hd
    obtain ⟨a, ha, rfl⟩ := hd
    by_cases heq : a.id = c.id
    · obtain rfl := hr.eq_of_id ha hc heq
      rw [if_pos rfl]
      exact hbooks
    · rw [if_neg heq] at hholds
      exact absurd (honly a ha hholds) heq

theorem Kept.advance_holder (hr : r.Sound) (hcall : r.call? c.id = some c) {before : LookupPhase}
    (hphase : c.phase = before) (hholds : before.holds = true)
    (hcalls : r'.calls = (r.setPhase c.id phase).calls) (hwriter : r'.writer = r.writer)
    (hbooks : r'.Books c.ns phase) : r'.Kept := by
  rw [← hphase] at hholds
  have hc := mem_of_call? hcall
  apply Kept.advance hr hc (fun d hd => hr.eq_of_holds hc hholds hd) hcalls ?_ hbooks
  rw [hwriter, (hr.writer_iff c.id).2 ⟨c, hc, rfl, hholds⟩]
  simp

/-- Whoever has made nothing leaves without a trace. -/
theorem Kept.leave (hk : r.Kept) (hr : r.Sound) (hc : c ∈ r.calls)
    (hphase : c.phase.sync? = none) : (r.leave c.id).Kept where
  free := by
    intro hfree ns
    change (if r.writer = some c.id then none else r.writer) = none at hfree
    split at hfree
    · next hwriter =>
      obtain ⟨d, hd, hid, hholds⟩ := (hr.writer_iff c.id).1 hwriter
      obtain rfl := hr.eq_of_id hd hc hid
      exact ((hk.held d hc hholds).of_unmade hphase).congr rfl rfl rfl rfl
    · exact (hk.free hfree ns).congr rfl rfl rfl rfl
  held d hd hholds := (hk.held d (mem_calls_leave.1 hd).1 hholds).congr rfl rfl rfl rfl

/-- **Every stretch keeps the books.** -/
theorem kept_of_step (hk : r.Kept) (hr : r.Sound) (hstep : r.Step move r' effect) : r'.Kept := by
  cases hstep with
  | rejected => exact hk
  | begun =>
    refine ⟨fun hfree ns => (hk.free hfree ns).congr rfl rfl rfl rfl, ?_⟩
    intro d hd hholds
    rcases List.mem_append.1 hd with hd | hd
    · exact (hk.held d hd hholds).congr rfl rfl rfl rfl
    · obtain rfl := List.mem_singleton.1 hd
      cases hholds
  | known hcall hphase => exact hk.leave hr (mem_of_call? hcall) hphase
  | unknown =>
    refine ⟨fun hfree ns => (hk.free hfree ns).congr rfl rfl rfl rfl, ?_⟩
    intro d hd hholds
    obtain ⟨a, ha, rfl⟩ := mem_calls_setPhase.1 hd
    split at hholds
    · cases hholds
    · next hne =>
      rw [if_neg hne]
      exact (hk.held a ha hholds).congr rfl rfl rfl rfl
  | @locked c hcall _ hfree =>
    have hnobody (d : LookupCall) (hd : d ∈ r.calls) (hholds : d.phase.holds = true) :
        d.id = c.id := by
      have hwriter := (hr.writer_iff d.id).2 ⟨d, hd, rfl, hholds⟩
      rw [hfree] at hwriter
      cases hwriter
    have hbooks := hk.free hfree c.ns
    exact .advance hr (mem_of_call? hcall) hnobody rfl (by simp)
      ⟨hbooks.numbers, hbooks.announced, hbooks.staffed⟩
  | @made c hcall hphase =>
    have hbooks := hk.books hcall hphase rfl
    refine .advance_holder hr hcall hphase rfl rfl rfl ⟨?_, hbooks.announced, hbooks.staffed⟩
    -- The next number goes to the new namespace.
    have hnumbers : List.range r.next = r.entries.map Prod.snd := by
      simpa [LookupPhase.sync?] using hbooks.numbers
    show List.range (r.next + 1) = r.entries.map Prod.snd ++ [r.next]
    rw [List.range_succ, hnumbers]
  | @announced c sync hcall hphase =>
    have hbooks := hk.books hcall hphase rfl
    refine .advance_holder hr hcall hphase rfl rfl rfl ⟨hbooks.numbers, ?_, hbooks.staffed⟩
    show r.announced ++ [(c.ns, sync)] = r.entries ++ [(c.ns, sync)]
    rw [hbooks.announced_of_made]
  | @staffed c sync hcall hphase =>
    have hbooks := hk.books hcall hphase rfl
    refine .advance_holder hr hcall hphase rfl rfl rfl ⟨hbooks.numbers, hbooks.announced, ?_⟩
    have hbefore : r.staffed = r.entries.map Prod.snd := by
      simpa [LookupPhase.staffed?] using hbooks.staffed
    show r.staffed ++ [sync] = r.entries.map Prod.snd ++ [sync]
    rw [hbefore]
  | @entered c sync hcall hphase =>
    have hbooks := hk.books hcall hphase rfl
    constructor
    · -- What the call has done so far is what it enters now.
      intro _ ns
      refine ⟨?_, ?_, ?_⟩
      · simpa [Registry.leave, LookupPhase.sync?] using hbooks.numbers
      · simpa [Registry.leave, LookupPhase.announced?] using hbooks.announced
      · simpa [Registry.leave, LookupPhase.staffed?] using hbooks.staffed
    · intro d hd hholds
      obtain ⟨hd, hne⟩ := mem_calls_leave.1 hd
      exact absurd (hr.eq_of_holds (mem_of_call? hcall) (by rw [hphase]; rfl) hd hholds) hne

/-! ## §3 Stretches -/

/-- **What each stretch adds to the books** is what it shows. -/
theorem records_of_step (hstep : r.Step move r' effect) :
    List.range r'.next = List.range r.next ++ effect.made?.toList
      ∧ r'.announced = r.announced ++ effect.announced?.toList
      ∧ r'.staffed = r.staffed ++ effect.staffed?.toList := by
  cases hstep with
  | made => exact ⟨List.range_succ, (List.append_nil _).symm, (List.append_nil _).symm⟩
  | announced => exact ⟨(List.append_nil _).symm, rfl, (List.append_nil _).symm⟩
  | staffed => exact ⟨(List.append_nil _).symm, (List.append_nil _).symm, rfl⟩
  | _ => exact ⟨(List.append_nil _).symm, (List.append_nil _).symm, (List.append_nil _).symm⟩

/-- What is announced has a name that nobody has announced before. -/
theorem lookup_of_announced (hk : r.Kept) (hr : r.Sound) {sync : Nat}
    (hstep : r.Step move r' (.announced ns sync)) : r.announced.lookup ns = none := by
  cases hstep with
  | announced hcall hphase =>
    rw [(hk.books hcall hphase rfl).announced_of_made]
    exact hr.absent _ (mem_of_call? hcall) (by rw [hphase]; rfl)

/-- A call under way has been begun before, under the same name. -/
theorem mem_calls_of_step (hstep : r.Step move r' effect) (hd : d ∈ r'.calls)
    (hold : ∀ given, move ≠ .call d.id given) : ∃ c ∈ r.calls, c.id = d.id ∧ c.ns = d.ns := by
  have hset (id : Nat) (phase : LookupPhase) (hd : d ∈ (r.setPhase id phase).calls) :
      ∃ c ∈ r.calls, c.id = d.id ∧ c.ns = d.ns := by
    obtain ⟨c, hc, rfl⟩ := mem_calls_setPhase.1 hd
    refine ⟨c, hc, ?_⟩
    split <;> exact ⟨rfl, rfl⟩
  cases hstep with
  | rejected => exact ⟨d, hd, rfl, rfl⟩
  | begun =>
    rcases List.mem_append.1 hd with hd | hd
    · exact ⟨d, hd, rfl, rfl⟩
    · obtain rfl := List.mem_singleton.1 hd
      exact absurd rfl (hold _)
  | known | entered => exact ⟨d, (mem_calls_leave.1 hd).1, rfl, rfl⟩
  | unknown | locked | made | announced | staffed => exact hset _ _ hd

/-! ## §4 The end of a call -/

/-- **Calls come to their end**: a call has to wait only for the lock, somebody can always go on,
and each stretch of a call ends it or brings it nearer to its end. -/
structure Live (r : Registry) : Prop where
  goes_on : ∀ c ∈ r.calls, (c.phase = .waiting → r.writer = none) →
    (r.step? (.advance c.id)).isSome = true
  somebody : r.calls ≠ [] → ∃ c ∈ r.calls, (r.step? (.advance c.id)).isSome = true
  nearer : ∀ c ∈ r.calls, ∀ r' effect, r.step? (.advance c.id) = some (r', effect) →
    (∃ sync, effect = .found c.ns sync)
      ∨ ∃ d, r'.call? c.id = some d ∧ d.ns = c.ns ∧ d.phase.left < c.phase.left

theorem Sound.call?_of_mem (hr : r.Sound) (hc : c ∈ r.calls) : r.call? c.id = some c := by
  have hfound : (r.call? c.id).isSome = true := by
    rw [call?, List.find?_isSome]
    exact ⟨c, hc, by simp⟩
  obtain ⟨d, hd⟩ := Option.isSome_iff_exists.1 hfound
  rw [hd, hr.eq_of_id (mem_of_call? hd) hc (id_of_call? hd)]

theorem advance?_isSome (hphase : c.phase = .waiting → r.writer = none) :
    (r.advance? c).isSome = true := by
  obtain ⟨id, ns, phase⟩ := c
  cases phase with
  | waiting =>
    have hfree : r.writer = none := hphase rfl
    simp [advance?, hfree]
  | reading | holding =>
    unfold advance?
    dsimp only
    cases r.find? ns <;> rfl
  | made | announced | staffed => rfl

/-- **Calls come to their end** in every sound registry. -/
theorem live_of_sound (hr : r.Sound) : r.Live := by
  have hgoes (c : LookupCall) (hc : c ∈ r.calls) (hphase : c.phase = .waiting → r.writer = none) :
      (r.step? (.advance c.id)).isSome = true := by
    rw [step?, hr.call?_of_mem hc]
    exact advance?_isSome hphase
  refine ⟨hgoes, ?_, ?_⟩
  · intro hcalls
    cases hwriter : r.writer with
    | none =>
      obtain ⟨c, hc⟩ := List.exists_mem_of_ne_nil _ hcalls
      exact ⟨c, hc, hgoes c hc fun _ => hwriter⟩
    | some id =>
      -- Whoever holds the lock does not wait for it.
      obtain ⟨c, hc, -, hholds⟩ := (hr.writer_iff id).1 hwriter
      refine ⟨c, hc, hgoes c hc ?_⟩
      intro hphase
      rw [hphase] at hholds
      cases hholds
  · intro c hc r' effect hnext
    have hown := hr.call?_of_mem hc
    have hset (phase : LookupPhase) (hleft : phase.left < c.phase.left) :
        ∃ d, (r.setPhase c.id phase).call? c.id = some d ∧ d.ns = c.ns
          ∧ d.phase.left < c.phase.left :=
      ⟨_, call?_setPhase phase hown, rfl, hleft⟩
    generalize hid : c.id = id at *
    cases step_of_step? hnext with
    | known hcall | entered hcall =>
      cases hown.symm.trans hcall
      exact .inl ⟨_, rfl⟩
    | unknown hcall hphase | locked hcall hphase | made hcall hphase | announced hcall hphase
    | staffed hcall hphase =>
      cases hown.symm.trans hcall
      exact .inr (hset _ (by simp [hphase, LookupPhase.left]))

end Registry

end LiveConfig
