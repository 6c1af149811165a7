import LiveConfig.ChangeSet

/-!
# Replaying change sets

A change set lists a key exactly when the two snapshots disagree about it, so whoever replays it on
the entries of the old snapshot holds those of the new one.

## Main statements

- `ChangeSet.mem_keys_diff`: the keys of a difference are those with another value.
- `ChangeSet.get?_apply_diff`: a difference sets its keys to their new values and no other key.
- `ChangeSet.get?_apply_diff_of_agree`: replayed on the old content, or on the new one, a difference
  gives the new content.
-/

namespace LiveConfig.ChangeSet

/-! ## §1 What a difference lists -/

/-- A change that is listed is the one between the two values of its key. -/
theorem between?_of_mem_diff {old new : Snapshot} {p : String × Change}
    (h : p ∈ (diff old new).changes) :
    Change.between? (old.get? p.1) (new.get? p.1) = some p.2 := by
  -- Both halves of the list are made in the same way, from different keys.
  have hsource : ∃ key, changeOf? old.entries new.entries key = some p := by
    rcases List.mem_append.1 h with h | h
    · obtain ⟨key, -, hkey⟩ := List.mem_filterMap.1 h
      exact ⟨key, hkey⟩
    · obtain ⟨key, -, hkey⟩ := List.mem_filterMap.1 h
      exact ⟨key, hkey⟩
  obtain ⟨key, hkey⟩ := hsource
  obtain ⟨change, hchange, rfl⟩ := Option.map_eq_some_iff.1 hkey
  exact hchange

theorem new?_of_mem_diff {old new : Snapshot} {p : String × Change}
    (h : p ∈ (diff old new).changes) : p.2.new? = new.get? p.1 :=
  Change.new?_of_between? (between?_of_mem_diff h)

/-- A key is listed by `changeOf?` under its own name, and only if its two values differ. -/
theorem mem_keys_filterMap {old new : Entries} {keys : List String} {k : String} :
    k ∈ (keys.filterMap (changeOf? old new)).map Prod.fst
      ↔ k ∈ keys ∧ old.get? k ≠ new.get? k := by
  simp only [List.mem_map, List.mem_filterMap, changeOf?, Option.map_eq_some_iff]
  constructor
  · rintro ⟨p, ⟨key, hkey, change, hchange, rfl⟩, rfl⟩
    refine ⟨hkey, fun heq => ?_⟩
    rw [(Change.between?_eq_none_iff _ _).2 heq] at hchange
    cases hchange
  · rintro ⟨hkey, hne⟩
    obtain ⟨change, hchange⟩ := Option.ne_none_iff_exists'.1
      (mt (Change.between?_eq_none_iff _ _).1 hne)
    exact ⟨(k, change), ⟨k, hkey, change, hchange, rfl⟩, rfl⟩

/-- **The keys of a difference** are those with another value. -/
theorem mem_keys_diff {old new : Snapshot} {k : String} :
    k ∈ (diff old new).keys ↔ old.get? k ≠ new.get? k := by
  simp only [keys, diff, List.map_append, List.mem_append, mem_keys_filterMap, List.mem_filter,
    Entries.mem_keys_iff, Option.isNone_iff_eq_none]
  constructor
  · rintro (⟨-, hne⟩ | ⟨-, hne⟩) <;> exact hne
  · intro hne
    -- A key with another value is in the new content, or it was in the old one.
    cases hnew : new.entries.get? k with
    | some v => exact .inl ⟨rfl, hnew ▸ hne⟩
    | none =>
      refine .inr ⟨⟨?_, rfl⟩, hnew ▸ hne⟩
      refine Option.isSome_iff_ne_none.2 fun hold => hne ?_
      exact hold.trans hnew.symm

/-- Nothing is listed exactly when the contents agree. -/
theorem isEmpty_diff_iff {old new : Snapshot} :
    (diff old new).isEmpty = true ↔ ∀ k, old.get? k = new.get? k := by
  have hkeys : (diff old new).isEmpty = true ↔ (diff old new).keys = [] := by
    simp [isEmpty, keys]
  simp only [hkeys, List.eq_nil_iff_forall_not_mem, mem_keys_diff, ne_eq,
    Decidable.not_not]

/-! ## §2 Replay -/

theorem get?_applyOne (e : Entries) (p : String × Change) (k : String) :
    (applyOne e p).get? k = if k = p.1 then p.2.new? else e.get? k := by
  unfold applyOne
  split
  · next v hv => rw [Entries.get?_insert, hv]
  · next hv => rw [Entries.get?_erase, hv]

/-- Changes that all lead to values of one map set their keys to these values, however often a key
is listed. -/
theorem get?_foldl_applyOne {new : Entries} {k : String} (l : List (String × Change))
    (h : ∀ p ∈ l, p.2.new? = new.get? p.1) (e : Entries) :
    (l.foldl applyOne e).get? k = if k ∈ l.map Prod.fst then new.get? k else e.get? k := by
  induction l generalizing e with
  | nil => simp
  | cons p rest ih =>
    rw [List.foldl_cons, ih fun q hq => h q (List.mem_cons_of_mem _ hq), get?_applyOne]
    by_cases hrest : k ∈ rest.map Prod.fst
    · -- It comes again, and gets its value then.
      rw [if_pos hrest, List.map_cons, if_pos (List.mem_cons_of_mem _ hrest)]
    · by_cases hp : k = p.1
      · subst hp
        simp [hrest, h p (List.mem_cons_self)]
      · simp [hrest, hp]

/-- **A difference sets its keys** to their new values, and no other key. -/
theorem get?_apply_diff (old new : Snapshot) (e : Entries) (k : String) :
    ((diff old new).apply e).get? k
      = if old.get? k = new.get? k then e.get? k else new.get? k := by
  have hreplay : ((diff old new).apply e).get? k
      = if k ∈ (diff old new).keys then new.get? k else e.get? k :=
    get?_foldl_applyOne _ (fun p hp => new?_of_mem_diff hp) e
  rw [hreplay]
  by_cases h : old.get? k = new.get? k
  · rw [if_pos h, if_neg fun hk => mem_keys_diff.1 hk h]
  · rw [if_neg h, if_pos (mem_keys_diff.2 h)]

/-- Replayed on the old content, or on the new one, a difference gives the new content. -/
theorem get?_apply_diff_of_agree {old new : Snapshot} {e : Entries}
    (h : ∀ k, e.get? k = old.get? k ∨ e.get? k = new.get? k) (k : String) :
    ((diff old new).apply e).get? k = new.get? k := by
  rw [get?_apply_diff]
  split
  · next heq => exact (h k).elim (fun h => h.trans heq) id
  · rfl

theorem apply_of_isEmpty {c : ChangeSet} (h : c.isEmpty = true) (e : Entries) : c.apply e = e := by
  simp [apply, List.isEmpty_iff.1 h]

/-- Replay change sets one after the other. -/
def replay (changes : List ChangeSet) (e : Entries) : Entries :=
  changes.foldl (fun e c => c.apply e) e

@[simp] theorem replay_nil (e : Entries) : replay [] e = e := rfl

@[simp] theorem replay_append (l l' : List ChangeSet) (e : Entries) :
    replay (l ++ l') e = replay l' (replay l e) :=
  List.foldl_append

@[simp] theorem replay_singleton (c : ChangeSet) (e : Entries) : replay [c] e = c.apply e := rfl

end LiveConfig.ChangeSet
