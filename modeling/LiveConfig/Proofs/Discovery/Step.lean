import LiveConfig.Discovery.Run

/-!
# What a move of a discovery call can do

Every move taken apart once: which state of the locator and of its calls it needs, what it leads to,
and what it shows.

## Main statements

- `Discovery.step_of_step?`: what one move can do.
- `Discovery.endpoints_of_step`: the list changes to what an answer brings, or not at all.
- `Discovery.lastRefresh_of_step`: the moment of the last discovery is that of the last request.
- `Discovery.waiting_of_step`: who has looked and waits to ask was waiting before, or has just seen
  that the list is not fresh.
-/

namespace LiveConfig

namespace Discovery

/-! ## §1 Moves -/

/-- What one move can do: the locator with its calls afterwards, and what is shown. -/
inductive Step (now : Instant) (d : Discovery) :
    DiscoveryMove → Discovery → DiscoveryEffect → Prop
  /-- The instances are fixed, so that there is nothing to discover. -/
  | fixed {id : Nat} {purpose : Purpose} (hnew : d.call? id = none)
      (hfixed : d.locator.isFixed = true) :
      Step now d (.call id purpose) d (.ended (.ok d.locator.endpoints) none)
  | direct {id : Nat} (hnew : d.call? id = none) (hfree : d.locator.isFixed = false) :
      Step now d (.call id .direct)
        { d with lock := d.lock.request id, calls := d.calls ++ [⟨id, .direct, .entering⟩] }
        .nothing
  | failed {id : Nat} (hnew : d.call? id = none) (hfree : d.locator.isFixed = false) :
      Step now d (.call id .afterFailure)
        { d with lock := d.lock.request id, calls := d.calls ++ [⟨id, .afterFailure, .looking⟩] }
        .nothing
  | fresh {c : DiscoveryCall} (hcall : d.call? c.id = some c) (hphase : c.phase = .looking)
      (hholds : d.lock.holds c.id = true) (hfresh : d.locator.isFresh now = true) :
      Step now d (.look c.id) (d.leave c.id) (.ended (.ok d.locator.endpoints) none)
  /-- The lock is let go and asked for again. -/
  | stale {c : DiscoveryCall} (hcall : d.call? c.id = some c) (hphase : c.phase = .looking)
      (hholds : d.lock.holds c.id = true) (hstale : d.locator.isFresh now = false) :
      Step now d (.look c.id)
        { d.setPhase c.id .entering with lock := (d.lock.release c.id).request c.id } .nothing
  | sent {c : DiscoveryCall} {url : Url} (hcall : d.call? c.id = some c)
      (hphase : c.phase = .entering) (hholds : d.lock.holds c.id = true)
      (haddress : d.locator.address = .ok url) :
      Step now d (.ask c.id)
        { d.setPhase c.id .asking with locator := { d.locator with lastRefresh := some now } }
        (.sent url)
  /-- The meta server has no address. -/
  | nowhere {c : DiscoveryCall} {e : Http.CallError} (hcall : d.call? c.id = some c)
      (hphase : c.phase = .entering) (hholds : d.lock.holds c.id = true)
      (haddress : d.locator.address = .error e) :
      Step now d (.ask c.id)
        { d.leave c.id with locator := { d.locator with lastRefresh := some now } }
        (.ended (.error e) none)
  | answered {c : DiscoveryCall} {a : Locator.Answer} (hcall : d.call? c.id = some c)
      (hphase : c.phase = .asking) :
      Step now d (.answer c.id a) { d.leave c.id with locator := (d.locator.absorb a).1 }
        (.ended (d.locator.absorb a).2.1 (d.locator.absorb a).2.2)
  | abandoned {id : Nat} : Step now d (.abandon id) (d.leave id) .nothing

theorem id_of_call? {d : Discovery} {id : Nat} {c : DiscoveryCall} (h : d.call? id = some c) :
    c.id = id := by
  simpa using List.find?_some h

theorem mem_of_call? {d : Discovery} {id : Nat} {c : DiscoveryCall} (h : d.call? id = some c) :
    c ∈ d.calls :=
  List.mem_of_find?_eq_some h

/-- **What one move can do.** -/
theorem step_of_step? {now : Instant} {d d' : Discovery} {move : DiscoveryMove}
    {effect : DiscoveryEffect} (h : d.step? now move = some (d', effect)) :
    Step now d move d' effect := by
  cases move with
  | call id purpose =>
    simp only [step?, begin] at h
    split at h
    · cases h
    next hnew =>
    rw [Option.not_isSome_iff_eq_none] at hnew
    split at h
    · next hfixed =>
      cases h
      exact .fixed hnew hfixed
    · next hfree =>
      rw [Bool.not_eq_true] at hfree
      cases purpose <;> cases h
      · exact .direct hnew hfree
      · exact .failed hnew hfree
  | look id =>
    obtain ⟨c, hcall, hlook⟩ := Option.bind_eq_some_iff.1 h
    obtain rfl := id_of_call? hcall
    simp only [look] at hlook
    split at hlook
    · next hc =>
      split at hlook
      · next hfresh =>
        cases hlook
        exact .fresh hcall hc.1 hc.2 hfresh
      · next hstale =>
        cases hlook
        exact .stale hcall hc.1 hc.2 (Bool.not_eq_true _ ▸ hstale)
    · cases hlook
  | ask id =>
    obtain ⟨c, hcall, hask⟩ := Option.bind_eq_some_iff.1 h
    obtain rfl := id_of_call? hcall
    split at hask
    · next hc =>
      -- The moment of the last discovery does not count in an address.
      have hsame : Locator.address { d.locator with lastRefresh := some now } = d.locator.address :=
        rfl
      cases haddress : d.locator.address with
      | ok url =>
        simp only [ask, hsame, haddress] at hask
        cases hask
        exact .sent hcall hc.1 hc.2 haddress
      | error e =>
        simp only [ask, hsame, haddress] at hask
        cases hask
        exact .nowhere hcall hc.1 hc.2 haddress
    · cases hask
  | answer id a =>
    obtain ⟨c, hcall, hanswer⟩ := Option.bind_eq_some_iff.1 h
    obtain rfl := id_of_call? hcall
    split at hanswer
    · next hc =>
      cases hanswer
      exact .answered hcall hc
    · cases hanswer
  | abandon id =>
    cases h
    exact .abandoned

/-! ## §2 The locator -/

section Locator

variable {now : Instant} {d d' : Discovery} {move : DiscoveryMove} {effect : DiscoveryEffect}

theorem lastRefresh_absorb (l : Locator) (a : Locator.Answer) :
    (l.absorb a).1.lastRefresh = l.lastRefresh := by
  unfold Locator.absorb
  split <;> rfl

/-- **The list** changes to what an answer brings, or not at all. -/
theorem endpoints_of_step (step : d.Step now move d' effect) :
    d'.locator.endpoints
      = (DiscoveryStep.list? ⟨now, move, d, d', effect⟩).getD d.locator.endpoints := by
  cases step with
  | fixed | direct | failed | fresh | stale | sent | nowhere | abandoned => rfl
  | answered =>
    simp only [Locator.endpoints_absorb, DiscoveryStep.list?]
    split <;> simp_all

/-- **The moment of the last discovery** is that of the last request. -/
theorem lastRefresh_of_step (step : d.Step now move d' effect) :
    d'.locator.lastRefresh = d.locator.lastRefresh ∨ d'.locator.lastRefresh = some now := by
  cases step with
  | fixed | direct | failed | fresh | stale | abandoned => exact .inl rfl
  | sent | nowhere => exact .inr rfl
  | answered => exact .inl (lastRefresh_absorb ..)

/-- Who sends a request waited for the lock to do so, and this moment counts. -/
theorem lastRefresh_of_sender {c : DiscoveryCall} (step : d.Step now move d' effect)
    (hsender : DiscoveryStep.sender? ⟨now, move, d, d', effect⟩ = some c) :
    d'.locator.lastRefresh = some now ∧ move = .ask c.id ∧ d.call? c.id = some c
      ∧ c.phase = .entering := by
  cases step with
  | sent hcall hphase =>
    obtain rfl := Option.some.inj (hcall.symm.trans hsender)
    exact ⟨rfl, rfl, hcall, hphase⟩
  | fixed | direct | failed | fresh | stale | nowhere | answered | abandoned => cases hsender

end Locator

/-! ## §3 Those who wait to ask -/

/-- Those who have looked after a failure, seen that the list is not fresh, and wait to ask. -/
def waiting (d : Discovery) : List DiscoveryCall :=
  d.calls.filter fun c => c.purpose = .afterFailure ∧ c.phase = .entering

section Waiting

variable {now : Instant} {d d' : Discovery} {move : DiscoveryMove} {effect : DiscoveryEffect}
  {c : DiscoveryCall} {id : Nat}

theorem call?_setPhase (id k : Nat) (phase : CallPhase) (d : Discovery) :
    (d.setPhase k phase).call? id
      = (d.call? id).map fun c => if c.id = k then { c with phase } else c := by
  -- The phase does not count in a search by number.
  have hsame : ((fun c : DiscoveryCall => decide (c.id = id)) ∘
      fun c => if c.id = k then { c with phase } else c) = fun c => decide (c.id = id) := by
    funext c
    simp only [Function.comp]
    split <;> rfl
  unfold call? setPhase
  rw [List.find?_map, hsame]

theorem call?_leave (id k : Nat) (d : Discovery) :
    (d.leave k).call? id = if id = k then none else d.call? id := by
  unfold call? leave
  rw [List.find?_filter]
  split
  · next heq =>
    rw [List.find?_eq_none]
    intro c _
    simp only [Bool.decide_and, Bool.and_eq_true, decide_eq_true_eq, not_and]
    intro hother hid
    exact hother (hid.trans heq)
  · next hne =>
    congr 1
    funext c
    by_cases hid : c.id = id <;> simp [hid, hne]

theorem call?_of_append {new : DiscoveryCall} {calls : List DiscoveryCall}
    (h : (calls ++ [new]).find? (fun c => c.id = id) = some c) :
    calls.find? (fun c => c.id = id) = some c ∨ c = new := by
  rw [List.find?_append] at h
  rcases Option.or_eq_some_iff.1 h with h | ⟨-, h⟩
  · exact .inl h
  · exact .inr (List.mem_singleton.1 (List.mem_of_find?_eq_some h))

/-- **Who waits to ask** was waiting before, or has just looked and seen that the list is not
fresh. -/
theorem waiting_of_step (step : d.Step now move d' effect) (hcall : d'.call? id = some c)
    (hpurpose : c.purpose = .afterFailure) (hphase : c.phase = .entering) :
    d.call? id = some c ∨ move = .look id ∧ d.locator.isFresh now = false := by
  cases step with
  | fixed => exact .inl hcall
  | direct =>
    rcases call?_of_append hcall with hold | rfl
    · exact .inl hold
    · cases hpurpose
  | failed =>
    -- A new call after a failure has not looked yet.
    rcases call?_of_append hcall with hold | rfl
    · exact .inl hold
    · cases hphase
  | @stale k _ _ _ hstale =>
    change (d.setPhase k.id .entering).call? id = some c at hcall
    rw [call?_setPhase] at hcall
    obtain ⟨before, hbefore, hafter⟩ := Option.map_eq_some_iff.1 hcall
    obtain rfl := id_of_call? hbefore
    split at hafter
    · next heq => exact .inr ⟨by rw [heq], hstale⟩
    · exact .inl (hafter ▸ hbefore)
  | @sent k =>
    change (d.setPhase k.id .asking).call? id = some c at hcall
    rw [call?_setPhase] at hcall
    obtain ⟨before, hbefore, hafter⟩ := Option.map_eq_some_iff.1 hcall
    split at hafter
    · rw [← hafter] at hphase
      cases hphase
    · exact .inl (hafter ▸ hbefore)
  | fresh | nowhere | answered | abandoned =>
    change (d.leave _).call? id = some c at hcall
    rw [call?_leave] at hcall
    split at hcall
    · cases hcall
    · exact .inl hcall

theorem waiting_leave_sublist (k : Nat) (d : Discovery) :
    (d.leave k).waiting.Sublist d.waiting :=
  List.filter_sublist.filter _

theorem waiting_append (new : DiscoveryCall)
    (hnew : ¬(new.purpose = .afterFailure ∧ new.phase = .entering)) (d : Discovery) :
    { d with calls := d.calls ++ [new] }.waiting = d.waiting := by
  simp [waiting, List.filter_append, hnew]

/-- Who asks no longer waits. -/
theorem waiting_setPhase_asking (k : Nat) (d : Discovery) :
    (d.setPhase k .asking).waiting = d.waiting.filter fun c => c.id ≠ k := by
  simp only [waiting, setPhase, List.filter_filter]
  induction d.calls with
  | nil => rfl
  | cons c calls ih =>
    rw [List.map_cons, List.filter_cons, List.filter_cons, ih]
    by_cases hid : c.id = k <;> simp [hid]

/-- **While the list is fresh** nobody joins those who wait, and who sends a request leaves them. -/
theorem length_waiting_of_step (step : d.Step now move d' effect)
    (hfresh : d.locator.isFresh now = true) :
    d'.waiting.length + (DiscoveryStep.asksAfterFailure ⟨now, move, d, d', effect⟩).toNat
      ≤ d.waiting.length := by
  cases step with
  | fixed => exact Nat.le_refl _
  | direct | failed =>
    -- A new call has not looked yet, or does not look at all.
    apply Nat.le_of_eq
    exact congrArg List.length (waiting_append _ (by simp) d)
  | stale _ _ _ hstale => simp [hfresh] at hstale
  | @sent c url hcall hphase =>
    have hmem := mem_of_call? hcall
    change (d.setPhase c.id .asking).waiting.length + _ ≤ _
    rw [waiting_setPhase_asking]
    by_cases hpurpose : c.purpose = .afterFailure
    · -- The sender was one of those who waited.
      have hwaits : c ∈ d.waiting := List.mem_filter.2 ⟨hmem, by simp [hpurpose, hphase]⟩
      have hless : (d.waiting.filter fun c' => c'.id ≠ c.id).length < d.waiting.length :=
        List.length_filter_lt_length_iff_exists.2 ⟨c, hwaits, by simp⟩
      exact Nat.le_trans (Nat.add_le_add_left (Bool.toNat_le _) _) hless
    · have hnone (d' : Discovery) :
          DiscoveryStep.asksAfterFailure ⟨now, .ask c.id, d, d', .sent url⟩ = false := by
        simp [DiscoveryStep.asksAfterFailure, DiscoveryStep.sender?, hcall, hpurpose]
      rw [hnone]
      exact List.length_filter_le _ _
  | fresh | nowhere | answered | abandoned => exact (waiting_leave_sublist _ d).length_le

end Waiting

end Discovery

end LiveConfig
