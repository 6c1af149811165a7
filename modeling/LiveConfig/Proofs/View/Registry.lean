import LiveConfig.View.Calls

/-!
# The registry and its answers

What the answers to all changes of a registry say about it: who was ever registered, in which order,
and who has been removed since. It does not matter who makes a change, and when.

## Main statements

- `Listeners.accounts_edit`: what one change does to the account.
- `Listeners.accounts_answers`: the account of any changes, one after the other.
-/

namespace LiveConfig.Listeners

variable {L : Type}

/-! ## §1 Accounts -/

/-- The registrations that changes have made, in order. -/
def made (edits : List (EditAnswer L)) : List (Registration L) :=
  edits.filterMap EditAnswer.registration?

/-- Whether changes have removed a registration. -/
def removed (edits : List (EditAnswer L)) (id : Nat) : Bool := edits.any (EditAnswer.removes id)

/-- **The answers to all changes account for the registry.** -/
structure Accounts (edits : List (EditAnswer L)) (r : Listeners L) : Prop where
  /-- Numbers are given in order, so that none is given twice. -/
  ids : (made edits).map Registration.id = List.range' 1 (made edits).length
  nextId_eq : r.nextId = (made edits).length + 1
  /-- Those are registered who were and have not been removed, in the order of old. -/
  entries_eq : r.entries = (made edits).filter fun e => !removed edits e.id
  /-- Only what was given away is removed. -/
  known : ∀ id, removed edits id = true → id < r.nextId
  /-- To remove a number succeeds exactly if it was registered before and has not been removed. -/
  answered : ∀ (before after : List (EditAnswer L)) (id : Nat) (found : Bool),
    edits = before ++ .unsubscribed id found :: after →
      (found = true ↔ id ∈ (made before).map Registration.id ∧ removed before id = false)

theorem accounts_ofSnapshot (first : Snapshot) :
    Accounts [] (View.ofSnapshot (L := L) first).listeners where
  ids := rfl
  nextId_eq := rfl
  entries_eq := rfl
  known _ h := absurd h Bool.false_ne_true
  answered before _ _ _ h :=
    absurd h.symm (List.append_ne_nil_of_right_ne_nil before (List.cons_ne_nil _ _))

section Parts

variable (edits : List (EditAnswer L)) (e : Registration L) (id other : Nat) (found : Bool)

@[simp] theorem made_subscribed : made (edits ++ [.subscribed e]) = made edits ++ [e] := by
  simp [made, EditAnswer.registration?]

@[simp] theorem made_unsubscribed :
    made (edits ++ [.unsubscribed id found]) = made edits := by
  simp [made, EditAnswer.registration?]

@[simp] theorem removed_subscribed :
    removed (edits ++ [.subscribed e]) id = removed edits id := by
  simp [removed, EditAnswer.removes]

@[simp] theorem removed_unsubscribed :
    removed (edits ++ [.unsubscribed other found]) id
      = (removed edits id || (other == id && found)) := by
  simp [removed, EditAnswer.removes]

end Parts

/-! ## §2 Changes -/

section Changes

variable {edits : List (EditAnswer L)} {r : Listeners L}

/-- Who removes a number finds it exactly if it was registered and has not been removed. -/
theorem Accounts.found_iff (h : Accounts edits r) (id : Nat) :
    (r.unsubscribe id).1 = true
      ↔ id ∈ (made edits).map Registration.id ∧ removed edits id = false := by
  rw [unsubscribe_found_iff, h.entries_eq]
  constructor
  · intro hfound
    obtain ⟨e, he, rfl⟩ := hfound
    obtain ⟨hmade, hkept⟩ := List.mem_filter.1 he
    exact ⟨List.mem_map_of_mem hmade, by simpa using hkept⟩
  · intro hkept
    obtain ⟨hmade, hkept⟩ := hkept
    obtain ⟨e, he, rfl⟩ := List.mem_map.1 hmade
    exact ⟨e, List.mem_filter.2 ⟨he, by simpa using hkept⟩, rfl⟩

/-- What a new answer says of itself is all that is to be shown of the answers. -/
theorem Accounts.answered_snoc (h : Accounts edits r) {a : EditAnswer L}
    (hnew : ∀ id found, a = .unsubscribed id found →
      (found = true ↔ id ∈ (made edits).map Registration.id ∧ removed edits id = false))
    (before after : List (EditAnswer L)) (id : Nat) (found : Bool)
    (heq : edits ++ [a] = before ++ .unsubscribed id found :: after) :
    found = true ↔ id ∈ (made before).map Registration.id ∧ removed before id = false := by
  rcases List.eq_nil_or_concat after with rfl | ⟨init, last, rfl⟩
  · obtain ⟨rfl, hlast⟩ := List.append_inj' heq rfl
    exact hnew id found (List.singleton_inj.1 hlast)
  · rw [List.concat_eq_append, ← List.cons_append, ← List.append_assoc] at heq
    obtain ⟨hinit, -⟩ := List.append_inj' heq rfl
    exact h.answered before init id found hinit

/-- **What one change does to the account.** -/
theorem accounts_edit (h : Accounts edits r) (e : Edit L) :
    Accounts (edits ++ [r.answer e]) (r.edit e) := by
  cases e with
  | subscribe listener filter =>
    -- The new number is one that nobody has removed.
    have hfresh : removed edits r.nextId = false := by
      cases hremoved : removed edits r.nextId with
      | false => rfl
      | true => exact absurd (h.known _ hremoved) (Nat.lt_irrefl _)
    refine ⟨?_, ?_, ?_, fun id hid => ?_, h.answered_snoc nofun⟩
    · simp only [answer, made_subscribed, List.map_append, List.map_cons, List.map_nil, h.ids,
        List.length_append, List.length_cons, List.length_nil, subscribe_id, h.nextId_eq]
      rw [List.range'_1_concat, Nat.add_comm 1]
    · simp only [answer, edit, subscribe, made_subscribed, List.length_append, List.length_cons,
        List.length_nil, h.nextId_eq]
    · simp [answer, edit, subscribe, h.entries_eq, hfresh]
    · rw [answer, removed_subscribed] at hid
      exact Nat.lt_succ_of_lt (h.known id hid)
  | unsubscribe id =>
    have hfound := h.found_iff id
    refine ⟨?_, ?_, ?_, fun other hother => ?_, h.answered_snoc fun id' found heq => ?_⟩
    · simpa only [answer, made_unsubscribed] using h.ids
    · show r.nextId = _
      rw [answer, made_unsubscribed, h.nextId_eq]
    · show (r.entries.filter fun e => e.id ≠ id) = _
      rw [answer, made_unsubscribed, h.entries_eq, List.filter_filter]
      apply List.filter_congr
      intro e he
      rw [removed_unsubscribed]
      cases hgone : removed edits e.id with
      | true => simp
      | false =>
        by_cases hid : e.id = id
        · -- It was registered, so that it is found.
          have hhere : (r.unsubscribe id).1 = true :=
            hfound.2 ⟨hid ▸ List.mem_map_of_mem he, hid ▸ hgone⟩
          simp [hid, hhere]
        · have hother : id ≠ e.id := fun heq => hid heq.symm
          simp [hid, hother]
    · rw [answer, removed_unsubscribed, Bool.or_eq_true, Bool.and_eq_true, beq_iff_eq] at hother
      show other < r.nextId
      rcases hother with hgone | ⟨rfl, hhere⟩
      · exact h.known other hgone
      · obtain ⟨e, he, rfl⟩ := (unsubscribe_found_iff id r).1 hhere
        exact r.id_lt e he
    · cases heq
      exact hfound

/-- **The account of any changes**, one after the other. -/
theorem accounts_answers (h : Accounts edits r) (es : List (Edit L)) :
    Accounts (edits ++ r.answers es) (es.foldl edit r) := by
  induction es generalizing edits r with
  | nil => simpa [answers] using h
  | cons e es ih =>
    have hrest := ih (accounts_edit h e)
    rwa [List.append_assoc] at hrest

end Changes

end LiveConfig.Listeners
